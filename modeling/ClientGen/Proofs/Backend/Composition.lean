import ClientGen.Backend.JaxrsCxf
import ClientGen.Failure.Basic
import ClientGen.Proofs.Lists
import ClientGen.Proofs.Steps
import Mathlib.Data.List.Nodup

/-!
# What changes keep of a backend

A backend is well formed ([Backend.WellFormed]) if its options have names of their own, the default
of an option with modes is one of them, no import is removed twice, and its templates are for
something that is rendered. Changes as they are made for a backend ([Override.Regular]) keep this
([Backend.WellFormed.apply]), and what they leave is what was there, with what they add behind it
([Backend.Extends]). They can be made just if every new default is for an option that there is by
then, and one that it accepts ([DefaultsAccepted]); otherwise the fault is one that a run provides
for, unless a new default has no text to be shown with ([compose_extends]).
-/

namespace ClientGen

/-! ## Options -/

namespace OptionDecl

variable {o o' : OptionDecl}

/-- Whether a value may be the default: that of an option with modes is one of them. -/
def Accepts (o : OptionDecl) (default : Value) : Prop :=
  o.kind = .modes → declares o.choices default = true

instance (o : OptionDecl) (default : Value) : Decidable (o.Accepts default) :=
  inferInstanceAs (Decidable (o.kind = .modes → declares o.choices default = true))

/-- What the accepted defaults depend on. -/
def form (o : OptionDecl) : OptionKind × List (String × String) := (o.kind, o.choices)

/-- Options of one form accept the same defaults. -/
theorem accepts_congr (h : o.form = o'.form) (default : Value) :
    o.Accepts default ↔ o'.Accepts default := by
  obtain ⟨hkind, hchoices⟩ := Prod.mk.inj h
  rw [Accepts, Accepts, hkind, hchoices]

/-- So do two declarations that may be absent, if they are of one form. -/
theorem exists_accepts_congr {x y : Option OptionDecl} (h : x.map form = y.map form)
    (default : Value) : (∃ o ∈ x, o.Accepts default) ↔ ∃ o ∈ y, o.Accepts default := by
  cases x with
  | none =>
    cases y with
    | none => exact Iff.rfl
    | some _ => cases h
  | some o =>
    cases y with
    | none => cases h
    | some o' =>
      simpa only [Option.mem_some_iff, exists_eq_left'] using
        accepts_congr (Option.some.inj h) default

/-- How the options of a backend are made. -/
inductive Made : OptionDecl → Prop
  | boolean (name description : String) (default : Bool) (aliases : List String) :
    Made (.boolean name description default aliases)
  | text (name description default : String) (aliases : List String) :
    Made (.text name description default aliases)
  /-- A text may have no default. -/
  | unset (name description : String) (aliases : List String) :
    Made { name := name, description := description, aliases := aliases }
  /-- The default of an option with modes is looked at. -/
  | modes {draft made : OptionDecl} (h : draft.modes? = .ok made) : Made made

/-- They accept their own defaults. -/
theorem Made.accepts (h : o.Made) : o.Accepts o.default := by
  cases h with
  | boolean => exact fun hkind => nomatch hkind
  | text => exact fun hkind => nomatch hkind
  | unset => exact fun hkind => nomatch hkind
  | modes h =>
    unfold modes? at h
    split at h
    · cases h
    · split at h
      · next hdeclared =>
        cases h
        exact fun _ => hdeclared
      · split at h <;> cases h

end OptionDecl

/-! ## Well-formed backends and regular changes -/

/-- What holds of every backend as it is made. -/
structure Backend.WellFormed (b : Backend) : Prop where
  /-- No two options have one name. -/
  names : (b.options.map (·.name)).Nodup
  /-- The default of an option with modes is one of them. -/
  defaults : ∀ o ∈ b.options, o.Accepts o.default
  /-- No name stands twice among the imports that are removed. -/
  removed : b.removedModelImports.Nodup
  /-- There are templates only for what is rendered. -/
  kinds : ∀ e ∈ b.templates, e.1 ∈ TemplateKind.all

/-- Whether new values are only for fields that no other change is for. -/
structure FieldChanges.Plain (c : FieldChanges) : Prop where
  options : c.options = none
  registrations : c.registrations = none
  templates : c.templates = none
  supportingFiles : c.supportingFiles = none
  removedModelImports : c.removedModelImports = none
  optionHooks : c.optionHooks = none
  modelHooks : c.modelHooks = none
  operationHooks : c.operationHooks = none

/-- Whether a change is as changes are made for a backend: fields that have changes of their own are
left to these, options are made as such, and a new default is no composite value. -/
def Override.Regular : Override → Prop
  | configure changes => changes.Plain
  | addOption o => o.Made
  | setOptionDefault _ default => default.isComposite = false
  | _ => True

/-! ## Defaults -/

/-- A default is accepted just if neither of the faults is found that it may have. -/
theorem OptionDecl.accepts_iff {o : OptionDecl} {default : Value} : o.Accepts default ↔
    ¬(o.kind = .modes && default.isComposite) = true ∧
      ¬(o.kind = .modes && !declares o.choices default) = true := by
  have hcomposite (h : default.isComposite = true) : declares o.choices default = false := by
    cases default <;> first | rfl | cases h
  unfold Accepts
  by_cases hkind : o.kind = .modes
  · cases hdeclared : declares o.choices default with
    | true => simp [hkind, Bool.eq_false_iff.2 fun h => nomatch (hcomposite h).symm.trans hdeclared]
    | false => simp [hkind]
  · simp [hkind]

namespace Backend

variable {b b' : Backend} {name : String} {default : Value}

/-- A declaration, which has another default if it is the one of a name. -/
def withDefault (o : OptionDecl) (default : Value) (p : OptionDecl) : OptionDecl :=
  if p.name == o.name then { o with default := default } else p

/-- Its name is the same. -/
theorem name_withDefault (o p : OptionDecl) (default : Value) :
    (withDefault o default p).name = p.name := by
  unfold withDefault
  split
  · next h => exact (eq_of_beq h).symm
  · rfl

/-- A default is set just if there is an option that accepts it. -/
theorem setOptionDefault_eq_ok_iff : b.setOptionDefault name default = .ok b' ↔
    ∃ o ∈ b.option? name, o.Accepts default ∧
      b' = { b with options := b.options.map (withDefault o default) } := by
  unfold setOptionDefault
  cases ho : b.option? name with
  | none => simp
  | some o =>
    have hname : o.name = name := by simpa using List.find?_some ho
    subst hname
    simp only [Option.mem_some_iff, exists_eq_left', OptionDecl.accepts_iff]
    split
    · next h => exact iff_of_false (fun h' => nomatch h') fun h' => h'.1.1 h
    · next h =>
      split
      · next h' => exact iff_of_false (fun h => by split at h <;> cases h) fun h => h.1.2 h'
      · next h' =>
        rw [Except.ok.injEq, eq_comm]
        exact ⟨fun heq => ⟨⟨h, h'⟩, heq⟩, fun heq => heq.2⟩

/-- If it is no composite value and has a text, a run provides for the fault. -/
theorem kind?_of_setOptionDefault (hdefault : default.isComposite = false)
    (htext : default.textFault? = none) {fault : BackendFault}
    (h : b.setOptionDefault name default = .error fault) :
    (Failure.backend fault).kind? = some .backend := by
  unfold setOptionDefault at h
  split at h
  · cases h
    rfl
  · split at h
    · next hcomposite => simp [hdefault] at hcomposite
    · split at h
      · rw [htext] at h
        cases h
        rfl
      · cases h

/-- An added option is the one of its name, and the others stay. -/
theorem option?_addOption (o : OptionDecl) :
    (b.addOption o).option? name = if o.name = name then some o else b.option? name := by
  rw [option?, addOption, List.find?_append, List.find?_filter, List.find?_singleton]
  by_cases h : o.name = name
  · have hnone : b.options.find?
        (fun p => decide ((p.name != o.name) = true ∧ (p.name == name) = true)) = none := by
      refine List.find?_eq_none.2 fun p _ => ?_
      simp [h]
    rw [hnone, Option.none_or, if_pos h, if_pos (beq_iff_eq.2 h)]
  · have hsame : (fun p : OptionDecl => decide ((p.name != o.name) = true ∧
        (p.name == name) = true)) = fun p => p.name == name := by
      funext p
      by_cases hp : p.name = name
      · simp [hp, Ne.symm h]
      · simp [hp]
    rw [hsame, if_neg h, if_neg (by simpa using h), Option.or_none, option?]

/-- Another default leaves the forms of the options. -/
theorem form_option?_withDefault {o : OptionDecl} (ho : o ∈ b.option? o.name) :
    ({ b with options := b.options.map (withDefault o default) }.option? name).map
      OptionDecl.form = (b.option? name).map OptionDecl.form := by
  have hsame : ((fun p : OptionDecl => p.name == name) ∘ withDefault o default) =
      fun p => p.name == name := by
    funext p
    rw [Function.comp_apply, name_withDefault]
  rw [option?, List.find?_map, hsame, ← option?, Option.map_map]
  cases hp : b.option? name with
  | none => rfl
  | some p =>
    have hname : p.name = name := by simpa using List.find?_some hp
    unfold withDefault
    rw [Option.map_some, Function.comp_apply]
    split
    · next heq =>
      rw [← hname, eq_of_beq heq, Option.mem_def.1 ho] at hp
      cases hp
      rfl
    · rfl

/-! ## Names that are added once -/

/-- The names of some that are not among others, each once. -/
def newNames (names more : List String) : List String :=
  (more.filter fun n => !names.contains n).eraseDups

/-- They are put behind the others. -/
theorem addNames_eq (names more : List String) :
    addNames names more = names ++ newNames names more := by
  induction more using List.reverseRecOn with
  | nil => exact (List.append_nil names).symm
  | append_singleton more n ih =>
    have hstep : addNames names (more ++ [n]) =
        if (addNames names more).contains n then addNames names more
        else addNames names more ++ [n] := by
      rw [addNames, List.foldl_append]
      rfl
    rw [hstep, ih, newNames, newNames, List.filter_append, List.filter_singleton]
    by_cases hold : n ∈ names
    · simp [hold]
    · by_cases hnew : n ∈ more
      · simp [hold, hnew, eraseDups_concat, List.mem_eraseDups]
      · simp [hold, hnew, eraseDups_concat, List.mem_eraseDups, List.append_assoc]

/-- Names that are distinct are all new at first. -/
theorem addNames_nil {names : List String} (h : names.Nodup) : addNames [] names = names := by
  have hall : (names.filter fun n => !([] : List String).contains n) = names :=
    List.filter_eq_self.2 fun n _ => rfl
  rw [addNames_eq, List.nil_append, newNames, hall, eraseDups_of_nodup h]

/-- Further names may come in two parts. -/
theorem addNames_append (names more further : List String) :
    addNames names (more ++ further) = addNames (addNames names more) further :=
  List.foldl_append

/-- Distinct names stay so. -/
theorem nodup_addNames {names : List String} (h : names.Nodup) (more : List String) :
    (addNames names more).Nodup := by
  rw [addNames_eq]
  refine h.append (nodup_eraseDups _) fun n hn hmore => ?_
  have hnew := (List.mem_filter.1 (List.mem_eraseDups.1 hmore)).2
  simp [hn] at hnew

end Backend

/-! ## One change -/

section
variable {b b' : Backend} {o : Override}

/-- The kind of an added template is one of those for which something is rendered. -/
theorem named_mem_all {kind template suffix : String}
    (h : (Override.addTemplate kind template suffix).check = .ok ()) :
    TemplateKind.named kind ∈ TemplateKind.all := by
  simp only [Override.check] at h
  split at h
  · next hkind =>
    obtain ⟨k, hk⟩ := Option.isSome_iff_exists.1 hkind
    rw [TemplateKind.named, hk, Option.getD_some]
    exact List.mem_of_find?_eq_some hk
  · cases h

/-- A change that can be made at all keeps a backend well formed. -/
theorem Backend.WellFormed.apply (h : b.WellFormed) (hregular : o.Regular)
    (hcheck : o.check = .ok ()) (happly : o.apply b = .ok b') : b'.WellFormed := by
  cases o with
  | configure changes =>
    cases happly
    exact {
      names := by simpa [Backend.configure, hregular.options] using h.names
      defaults := by simpa [Backend.configure, hregular.options] using h.defaults
      removed := by simpa [Backend.configure, hregular.removedModelImports] using h.removed
      kinds := by simpa [Backend.configure, hregular.templates] using h.kinds }
  | addOption p =>
    cases happly
    refine { h with names := ?_, defaults := fun q hq => ?_ }
    · rw [Backend.addOption, List.map_append, List.map_singleton]
      refine (h.names.sublist (List.filter_sublist.map _)).append (List.nodup_singleton _) ?_
      rw [List.disjoint_singleton]
      intro hin
      obtain ⟨q, hq, hname⟩ := List.mem_map.1 hin
      have hother := (List.mem_filter.1 hq).2
      simp [hname] at hother
    · rcases List.mem_append.1 hq with hq | hq
      · exact h.defaults q (List.mem_filter.1 hq).1
      · rw [List.mem_singleton.1 hq]
        exact hregular.accepts
  | setOptionDefault name default =>
    obtain ⟨p, hp, haccepts, rfl⟩ := Backend.setOptionDefault_eq_ok_iff.1 happly
    refine { h with names := ?_, defaults := fun q hq => ?_ }
    · rw [List.map_map]
      have hnames : (·.name) ∘ Backend.withDefault p default = OptionDecl.name :=
        funext fun q => Backend.name_withDefault p q default
      rw [hnames]
      exact h.names
    · obtain ⟨p', hp', rfl⟩ := List.mem_map.1 hq
      unfold Backend.withDefault
      split
      · exact haccepts
      · exact h.defaults p' hp'
  | addTemplate kind template suffix =>
    cases happly
    refine { h with kinds := fun e he => ?_ }
    rcases Assoc.key_mem_of_mem_insert he with hkind | ⟨e', he', hkey⟩
    · exact hkind ▸ named_mem_all hcheck
    · exact hkey ▸ h.kinds e' he'
  | removeTemplate kind template =>
    cases happly
    refine { h with kinds := fun e he => ?_ }
    obtain ⟨e', he', rfl⟩ := List.mem_map.1 he
    have hkinds := h.kinds e' he'
    dsimp only
    split
    · exact hkinds
    · exact hkinds
  | removeModelImports names =>
    cases happly
    have hkept := Backend.nodup_addNames List.nodup_nil b.removedModelImports
    exact { h with removed := Backend.nodup_addNames hkept names }
  | addTypeMapping => cases happly; exact { h with }
  | addImportMapping => cases happly; exact { h with }
  | addSupportingFile => cases happly; exact { h with }
  | addOptionHook => cases happly; exact { h with }
  | addModelHook => cases happly; exact { h with }
  | addOperationHook => cases happly; exact { h with }

/-- If a change cannot be made, a run provides for the fault, unless it is a new default without a
text. -/
theorem kind?_of_apply (hregular : o.Regular) {fault : BackendFault}
    (h : o.apply b = .error fault) : (Failure.backend fault).kind? = some .backend ∨
      ∃ name default, o = .setOptionDefault name default ∧ default.textFault? ≠ none := by
  cases o with
  | setOptionDefault name default =>
    by_cases htext : default.textFault? = none
    · exact .inl (Backend.kind?_of_setOptionDefault hregular htext h)
    · exact .inr ⟨name, default, rfl, htext⟩
  | _ => cases h

/-- So it does if a change cannot be made in any backend. -/
theorem kind?_of_check {fault : BackendFault} (h : o.check = .error fault) :
    (Failure.backend fault).kind? = some .backend := by
  unfold Override.check at h
  split at h
  · split at h
    · cases h
    · cases h
      rfl
  · split at h
    · cases h
    · cases h
      rfl
  · cases h

end

/-! ## What changes add -/

/-- What a change puts behind what is there. -/
structure Additions where
  registrations : List Registration := []
  supportingFiles : List SupportingFile := []
  removedModelImports : List String := []
  optionHooks : List OptionHook := []
  modelHooks : List ModelHook := []
  operationHooks : List OperationHook := []

/-- What is added by a change. -/
def Override.additions : Override → Additions
  | addTypeMapping canonical target importRef =>
    { registrations := [.type canonical target importRef] }
  | addImportMapping name importRef => { registrations := [.importOf name importRef] }
  | addSupportingFile f => { supportingFiles := [f] }
  | removeModelImports names => { removedModelImports := names }
  | addOptionHook h => { optionHooks := [h] }
  | addModelHook h => { modelHooks := [h] }
  | addOperationHook h => { operationHooks := [h] }
  | _ => {}

/-- The declaration of a name that a change brings. -/
def Override.declaration? (name : String) : Override → Option OptionDecl
  | addOption o => if o.name = name then some o else none
  | _ => none

/-- The declaration of a name behind some changes, but for its default: the last one that they
bring, or else that of the backend. -/
def declared? (base : Backend) (overrides : List Override) (name : String) : Option OptionDecl :=
  (overrides.reverse.findSome? (·.declaration? name)).or (base.option? name)

/-- A backend is another one with what changes add to it. -/
structure Backend.Extends (b base : Backend) (overrides : List Override) : Prop where
  registrations : b.registrations =
    base.registrations ++ overrides.flatMap (·.additions.registrations)
  supportingFiles : b.supportingFiles =
    base.supportingFiles ++ overrides.flatMap (·.additions.supportingFiles)
  optionHooks : b.optionHooks = base.optionHooks ++ overrides.flatMap (·.additions.optionHooks)
  modelHooks : b.modelHooks = base.modelHooks ++ overrides.flatMap (·.additions.modelHooks)
  operationHooks : b.operationHooks =
    base.operationHooks ++ overrides.flatMap (·.additions.operationHooks)
  /-- The names that are new among those to be removed come behind the others, each once. -/
  removedModelImports : b.removedModelImports = base.removedModelImports ++
    newNames base.removedModelImports (overrides.flatMap (·.additions.removedModelImports))
  /-- What is declared is so by the last declaration. -/
  options : ∀ name, (b.option? name).map (·.form) = (declared? base overrides name).map (·.form)

namespace Backend.Extends

variable {base b b' : Backend} {before after : List Override}

/-- Without changes nothing is added. -/
theorem refl (b : Backend) : b.Extends b [] where
  registrations := (List.append_nil _).symm
  supportingFiles := (List.append_nil _).symm
  optionHooks := (List.append_nil _).symm
  modelHooks := (List.append_nil _).symm
  operationHooks := (List.append_nil _).symm
  removedModelImports := (List.append_nil _).symm
  options := fun _ => rfl

/-- Declarations behind further changes depend only on those that there are. -/
theorem form_declared? (h : b.Extends base before) (after : List Override) (name : String) :
    (declared? b after name).map (·.form) =
      (declared? base (before ++ after) name).map (·.form) := by
  rw [declared?, declared?, List.reverse_append, List.findSome?_append, Option.or_assoc]
  cases after.reverse.findSome? (·.declaration? name) with
  | some o => rfl
  | none => exact h.options name

/-- Changes may be made in two parts. -/
theorem trans (h : b.Extends base before) (h' : b'.Extends b after) :
    b'.Extends base (before ++ after) where
  registrations := by
    rw [h'.registrations, h.registrations, List.flatMap_append, List.append_assoc]
  supportingFiles := by
    rw [h'.supportingFiles, h.supportingFiles, List.flatMap_append, List.append_assoc]
  optionHooks := by
    rw [h'.optionHooks, h.optionHooks, List.flatMap_append, List.append_assoc]
  modelHooks := by
    rw [h'.modelHooks, h.modelHooks, List.flatMap_append, List.append_assoc]
  operationHooks := by
    rw [h'.operationHooks, h.operationHooks, List.flatMap_append, List.append_assoc]
  removedModelImports := by
    rw [← addNames_eq, List.flatMap_append, addNames_append, addNames_eq base.removedModelImports,
      ← h.removedModelImports, addNames_eq, h'.removedModelImports]
  options := fun name => by rw [h'.options, h.form_declared?]

/-- One change adds what it is to add. -/
theorem of_apply {o : Override} (h : b.WellFormed) (hregular : o.Regular)
    (happly : o.apply b = .ok b') : b'.Extends b [o] := by
  cases o with
  | configure changes =>
    cases happly
    obtain ⟨hoptions, hregistrations, -, hfiles, hremoved, hoption, hmodel, hoperation⟩ := hregular
    constructor <;> simp [configure, *, Override.additions, newNames, declared?, option?,
      Override.declaration?]
  | addOption p =>
    cases happly
    refine { refl b with options := fun name => ?_ }
    rw [option?_addOption, declared?]
    simp only [List.reverse_singleton, List.findSome?_cons, List.findSome?_nil,
      Override.declaration?]
    split <;> rfl
  | setOptionDefault name default =>
    obtain ⟨p, hp, -, rfl⟩ := setOptionDefault_eq_ok_iff.1 happly
    have hname : p.name = name := by simpa using List.find?_some hp
    subst hname
    exact { refl b with options := fun name => form_option?_withDefault hp }
  | removeModelImports names =>
    cases happly
    refine { refl b with removedModelImports := ?_ }
    dsimp only
    rw [addNames_nil h.removed, addNames_eq]
    simp [Override.additions]
  | addTemplate => cases happly; exact { refl b with }
  | removeTemplate => cases happly; exact { refl b with }
  | addTypeMapping => cases happly; exact { refl b with registrations := rfl }
  | addImportMapping => cases happly; exact { refl b with registrations := rfl }
  | addSupportingFile => cases happly; exact { refl b with supportingFiles := rfl }
  | addOptionHook => cases happly; exact { refl b with optionHooks := rfl }
  | addModelHook => cases happly; exact { refl b with modelHooks := rfl }
  | addOperationHook => cases happly; exact { refl b with operationHooks := rfl }

end Backend.Extends

/-! ## All changes -/

/-- Whether every new default is for an option that there is by then and accepts it. -/
def DefaultsAccepted (base : Backend) (overrides : List Override) : Prop :=
  ∀ before name default after, overrides = before ++ .setOptionDefault name default :: after →
    ∃ o ∈ declared? base before name, o.Accepts default

section
variable {base b b' : Backend} {o : Override} {rest overrides : List Override}

/-- Changes can be made if they make sense in any backend and, one after the other, in the one that
they are made in. -/
theorem compose_eq_ok_iff : compose base overrides = .ok b ↔
    (∀ o ∈ overrides, o.check = .ok ()) ∧ overrides.foldlM Override.apply base = .ok b := by
  rw [compose, bind_eq_ok_iff, ← forM_eq_ok_iff]
  exact ⟨fun ⟨(), hcheck, hfold⟩ => ⟨hcheck, hfold⟩, fun ⟨hcheck, hfold⟩ => ⟨(), hcheck, hfold⟩⟩

/-- What changes lead to is well formed, and is what was there with what they add. -/
theorem wellFormed_of_foldlM (hbase : base.WellFormed) (hregular : ∀ o ∈ overrides, o.Regular)
    (hcheck : ∀ o ∈ overrides, o.check = .ok ())
    (h : overrides.foldlM Override.apply base = .ok b) :
    b.WellFormed ∧ b.Extends base overrides := by
  induction overrides generalizing base with
  | nil =>
    cases h
    exact ⟨hbase, .refl _⟩
  | cons o rest ih =>
    rw [List.forall_mem_cons] at hregular hcheck
    rw [List.foldlM_cons] at h
    obtain ⟨next, hnext, hrest⟩ := bind_eq_ok_iff.1 h
    obtain ⟨hb, hextends⟩ := ih (hbase.apply hregular.1 hcheck.1 hnext) hregular.2 hcheck.2 hrest
    exact ⟨hb, (Backend.Extends.of_apply hbase hregular.1 hnext).trans hextends⟩

/-- A change can be made just if it sets no default that is not accepted. -/
theorem exists_apply_iff : (∃ b', o.apply b = .ok b') ↔
    ∀ name default, o = .setOptionDefault name default →
      ∃ p ∈ b.option? name, p.Accepts default := by
  cases o with
  | setOptionDefault name default =>
    constructor
    · rintro ⟨b', hb'⟩ _ _ heq
      cases heq
      obtain ⟨p, hp, haccepts, -⟩ := Backend.setOptionDefault_eq_ok_iff.1 hb'
      exact ⟨p, hp, haccepts⟩
    · intro h
      obtain ⟨p, hp, haccepts⟩ := h name default rfl
      exact ⟨_, Backend.setOptionDefault_eq_ok_iff.2 ⟨p, hp, haccepts, rfl⟩⟩
  | _ => exact iff_of_true ⟨_, rfl⟩ fun _ _ heq => nomatch heq

/-- The defaults of changes are accepted if that of the first one is, and those of the others are
behind it. -/
theorem defaultsAccepted_cons_iff (hnext : b.Extends base [o]) :
    DefaultsAccepted base (o :: rest) ↔
      (∀ name default, o = .setOptionDefault name default →
        ∃ p ∈ base.option? name, p.Accepts default) ∧ DefaultsAccepted b rest := by
  have hlater (before : List Override) (name : String) (default : Value) :
      (∃ p ∈ declared? b before name, p.Accepts default) ↔
        ∃ p ∈ declared? base (o :: before) name, p.Accepts default :=
    OptionDecl.exists_accepts_congr (hnext.form_declared? before name) default
  constructor
  · intro h
    refine ⟨?_, fun before name default after heq => ?_⟩
    · rintro name default rfl
      exact h [] name default rest rfl
    · exact (hlater before name default).2 (h (o :: before) name default after (by rw [heq]; rfl))
  · rintro ⟨hfirst, hrest⟩ before name default after heq
    cases before with
    | nil => exact hfirst name default (List.cons.inj heq).1
    | cons o' before =>
      obtain ⟨rfl, hsplit⟩ := List.cons.inj heq
      exact (hlater before name default).1 (hrest before name default after hsplit)

/-- Changes can be made one after the other just if their defaults are accepted. -/
theorem exists_foldlM_iff (hbase : base.WellFormed) (hregular : ∀ o ∈ overrides, o.Regular)
    (hcheck : ∀ o ∈ overrides, o.check = .ok ()) :
    (∃ b, overrides.foldlM Override.apply base = .ok b) ↔ DefaultsAccepted base overrides := by
  induction overrides generalizing base with
  | nil =>
    refine iff_of_true ⟨base, rfl⟩ fun before name default after heq => ?_
    cases before <;> cases heq
  | cons o rest ih =>
    rw [List.forall_mem_cons] at hregular hcheck
    simp only [List.foldlM_cons, bind_eq_ok_iff]
    constructor
    · rintro ⟨b, next, hnext, hrest⟩
      have hdefaults :=
        (ih (hbase.apply hregular.1 hcheck.1 hnext) hregular.2 hcheck.2).1 ⟨b, hrest⟩
      rw [defaultsAccepted_cons_iff (.of_apply hbase hregular.1 hnext)]
      exact ⟨exists_apply_iff.1 ⟨next, hnext⟩, hdefaults⟩
    · intro h
      have hfirst (name : String) (default : Value) (heq : o = .setOptionDefault name default) :
          ∃ p ∈ base.option? name, p.Accepts default := by
        subst heq
        exact h [] name default rest rfl
      obtain ⟨next, hnext⟩ := exists_apply_iff.2 hfirst
      have hdefaults := ((defaultsAccepted_cons_iff (.of_apply hbase hregular.1 hnext)).1 h).2
      obtain ⟨b, hb⟩ :=
        (ih (hbase.apply hregular.1 hcheck.1 hnext) hregular.2 hcheck.2).2 hdefaults
      exact ⟨b, next, hnext, hb⟩

/-- Changes of a well-formed backend can be made just if each makes sense and the new defaults are
accepted. They lead to a well-formed backend, which is the one before with what they add; if they
cannot be made, a run provides for the fault, unless a new default has no text. -/
theorem compose_extends (hbase : base.WellFormed) (hregular : ∀ o ∈ overrides, o.Regular) :
    ((∃ b, compose base overrides = .ok b) ↔
      (∀ o ∈ overrides, o.check = .ok ()) ∧ DefaultsAccepted base overrides) ∧
    (∀ b, compose base overrides = .ok b → b.WellFormed ∧ b.Extends base overrides) ∧
    ∀ fault, compose base overrides = .error fault →
      (Failure.backend fault).kind? = some .backend ∨
        ∃ name default, .setOptionDefault name default ∈ overrides ∧
          default.textFault? ≠ none := by
  refine ⟨?made, fun b hb => ?result, fun fault hfault => ?fault⟩
  case made =>
    simp only [compose_eq_ok_iff, exists_and_left]
    exact and_congr_right fun hcheck => exists_foldlM_iff hbase hregular hcheck
  case result =>
    obtain ⟨hcheck, hfold⟩ := compose_eq_ok_iff.1 hb
    exact wellFormed_of_foldlM hbase hregular hcheck hfold
  case fault =>
    rw [compose] at hfault
    cases hcheck : overrides.forM Override.check with
    | error f =>
      rw [hcheck] at hfault
      cases hfault
      obtain ⟨o, -, ho⟩ := exists_error_of_forM hcheck
      exact .inl (kind?_of_check ho)
    | ok u =>
      rw [hcheck] at hfault
      obtain ⟨b, o, hmem, ho⟩ := exists_error_of_foldlM hfault
      refine (kind?_of_apply (hregular o hmem) ho).imp_right ?_
      rintro ⟨name, default, rfl, htext⟩
      exact ⟨name, default, hmem, htext⟩

end

/-! ## The backends that there are -/

/-- The base of the Java backends is well formed. -/
theorem Java.wellFormed_baseBackend : Java.baseBackend.WellFormed where
  names := by decide
  defaults := by decide
  removed := List.nodup_nil
  kinds := by decide

/-- The changes that make the backend for CXF are made as changes are. -/
theorem JaxrsCxf.regular_overrides : ∀ o ∈ JaxrsCxf.overrides, o.Regular := by
  have hmodes : JaxrsCxf.jsonMappingDecl.modes? = .ok JaxrsCxf.jsonMappingDecl := rfl
  have hoptions : ∀ o ∈ JaxrsCxf.options, o.Made := by
    simp only [JaxrsCxf.options, List.forall_mem_cons]
    exact ⟨.boolean .., .boolean .., .boolean .., .boolean .., .modes hmodes,
      fun _ h => nomatch h⟩
  simp only [JaxrsCxf.overrides, List.forall_mem_append, List.forall_mem_cons, List.forall_mem_map]
  have hnone (o : Override) (ho : o ∈ ([] : List Override)) : o.Regular := nomatch ho
  exact ⟨⟨⟨⟨rfl, rfl, rfl, rfl, rfl, rfl, rfl, rfl⟩, rfl, rfl, rfl, rfl, rfl, trivial, trivial,
    trivial, trivial, hnone⟩, hoptions⟩, trivial, trivial, trivial, hnone⟩

/-- So the backend for CXF is well formed, and is the base with what its changes add. -/
theorem JaxrsCxf.backend_extends :
    JaxrsCxf.backend.WellFormed ∧ JaxrsCxf.backend.Extends Java.baseBackend JaxrsCxf.overrides :=
  (compose_extends Java.wellFormed_baseBackend JaxrsCxf.regular_overrides).2.1 _
    JaxrsCxf.compose_overrides

end ClientGen
