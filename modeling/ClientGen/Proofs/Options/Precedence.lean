import ClientGen.Backend.JaxrsCxf
import ClientGen.Options.Raw
import ClientGen.Proofs.Options.Values

/-!
# The precedence of the sources of options

[RawSources] are the raw options of the command line, the environment, a given file and the project,
and [collect] puts the later ones over the earlier ones ([collect_eq]). The sources have a
precedence: the value for an option should be the one of the highest source that sets it
([RawSources.preferred?]). But sources are put together key by key, and only then the spellings of
an option are tried in their order, so that a lower source with an earlier spelling prevails over a
higher one ([RawSources.covering?], [supplied?_merged]). The value that a configuration has for an
option is therefore the one of the highest source just as long as no other value overrules it
([RawSources.overruling?]).
-/

namespace ClientGen

open OptionDecl Files

/-! ## Sources -/

/-- The raw options of every source. -/
structure RawSources where
  commandLine : RawOptions
  environment : RawOptions
  /-- The options of the file that is given on the command line. -/
  given : RawOptions
  project : RawOptions

namespace RawSources

/-- The sources as mappings, the highest one first. -/
def ranked (s : RawSources) : List RawOptions :=
  [s.commandLine, s.environment, s.given, s.project].map Assoc.ofList

/-- The raw options of all sources, the higher ones put over the lower ones. -/
def merged (s : RawSources) : RawOptions :=
  Assoc.update (Assoc.update (Assoc.update (Assoc.update [] s.project) s.given) s.environment)
    s.commandLine

/-- What is found at a text in all sources together is what the highest source with it has. -/
theorem lookup_merged (s : RawSources) (name : String) :
    s.merged.lookup (.text name) = s.ranked.findSome? (·.lookup (.text name)) := by
  have hq := Key.exact_text name
  simp only [merged, ranked, List.map_cons, List.map_nil, List.findSome?_cons, List.findSome?_nil,
    Assoc.lookup_update hq, Assoc.lookup_ofList hq, List.lookup_nil]
  cases s.commandLine.reverse.lookup (.text name) with
  | some v => rfl
  | none =>
    cases s.environment.reverse.lookup (.text name) with
    | some v => rfl
    | none =>
      cases s.given.reverse.lookup (.text name) with
      | some v => rfl
      | none => cases s.project.reverse.lookup (.text name) <;> rfl

end RawSources

/-- The sources of options as they are read. -/
def sourcesOf (order : Yaml.SetOrder) (options : List OptionDecl) (tree : FileTree) (start : Place)
    (environment : List (String × String)) (pairs : List String) (config : Option Path) :
    Except OptionsFault RawSources := do
  let project ← (loadProjectOptions order tree start).mapError .file
  let given ← match config with
    | none => pure []
    | some path => (loadOptionsFile order tree start path).mapError .file
  let commandLine ← (parsePairs pairs).mapError .pair
  return {
    commandLine := rawTexts commandLine
    environment := rawTexts (environmentOptions options environment)
    given := given
    project := project.getD [] }

/-- The raw options are those of all sources together. -/
theorem collect_eq (order : Yaml.SetOrder) (options : List OptionDecl) (tree : FileTree)
    (start : Place) (environment : List (String × String)) (pairs : List String)
    (config : Option Path) :
    collect order options tree start environment pairs config =
      (sourcesOf order options tree start environment pairs config).map RawSources.merged := by
  unfold collect sourcesOf
  cases (loadProjectOptions order tree start).mapError OptionsFault.file with
  | error f => rfl
  | ok project =>
    cases config with
    | none => cases (parsePairs pairs).mapError OptionsFault.pair <;> rfl
    | some path =>
      dsimp only [bind, Except.bind]
      cases (loadOptionsFile order tree start path).mapError OptionsFault.file with
      | error f => rfl
      | ok given => cases (parsePairs pairs).mapError OptionsFault.pair <;> rfl

/-! ## Two orders of searching -/

section
variable {α β γ : Type} {names : List α}

/-- A function that extends another one finds what that one finds, unless it finds something
earlier. -/
theorem findSome?_of_extends {f g : α → Option β} (h : ∀ n v, g n = some v → f n = some v) :
    names.findSome? f =
      ((names.takeWhile fun n => (g n).isNone).findSome? f).or (names.findSome? g) := by
  induction names with
  | nil => rfl
  | cons n rest ih =>
    cases hg : g n with
    | some v => simp [h n v hg, hg]
    | none =>
      rw [List.takeWhile_cons, hg, Option.isNone_none, if_pos rfl, List.findSome?_cons,
        List.findSome?_cons, List.findSome?_cons, hg]
      cases f n with
      | some w => rfl
      | none => exact ih

/-- Searching all rows for each name finds what searching all names in each row finds, unless a row
has something under a name before the one that the first row with any name has. -/
theorem findSome?_swap (entry : γ → α → Option β) (rows : List γ) :
    names.findSome? (fun n => rows.findSome? (entry · n)) =
      ((rows.find? fun r => (names.findSome? (entry r)).isSome).bind fun r =>
        (names.takeWhile fun n => (entry r n).isNone).findSome?
          fun n => rows.findSome? (entry · n)).or
      (rows.findSome? fun r => names.findSome? (entry r)) := by
  induction rows with
  | nil => exact List.findSome?_eq_none_iff.2 fun _ _ => rfl
  | cons r rest ih =>
    cases hr : names.findSome? (entry r) with
    | some v =>
      have hextends : ∀ n w, entry r n = some w →
          (r :: rest).findSome? (entry · n) = some w := by
        intro n w hw
        rw [List.findSome?_cons, hw]
      rw [findSome?_of_extends hextends, List.find?_cons, List.findSome?_cons, hr]
      rfl
    | none =>
      -- A row without any of the names plays no part in either order.
      have hskip : ∀ n ∈ names,
          (r :: rest).findSome? (entry · n) = rest.findSome? (entry · n) := by
        intro n hn
        rw [List.findSome?_cons, List.findSome?_eq_none_iff.1 hr n hn]
      rw [findSome?_congr hskip, ih, List.find?_cons, List.findSome?_cons, hr]
      congr 1
      refine Option.bind_congr fun r' _ => ?_
      refine (findSome?_congr fun n hn => hskip n ?_).symm
      exact (List.takeWhile_sublist _).subset hn

end

/-! ## Precedence -/

/-- What is given for an option under a name is what is found there, if this is not the absent
value. -/
theorem OptionDecl.given?_eq_lookup {raw : RawOptions} {name : String}
    (h : (raw.lookup (.text name)).all (!·.isNull)) :
    OptionDecl.given? raw name = raw.lookup (.text name) := by
  rw [OptionDecl.given?]
  cases hl : raw.lookup (.text name) with
  | none => rfl
  | some v =>
    rw [hl, Option.all_some] at h
    rw [Option.filter_some, if_pos h]

namespace RawSources

variable {s : RawSources} {o : OptionDecl}

/-- No source gives the absent value to an option. -/
def NonNull (s : RawSources) (o : OptionDecl) : Prop :=
  ∀ source ∈ s.ranked, ∀ name ∈ o.spellings, (source.lookup (.text name)).all (!·.isNull)

instance : Decidable (s.NonNull o) :=
  inferInstanceAs (Decidable (∀ source ∈ s.ranked, ∀ name ∈ o.spellings,
    (source.lookup (.text name)).all (!·.isNull)))

/-- What the highest source that sets a spelling gives. -/
def given? (s : RawSources) (name : String) : Option Value :=
  s.ranked.findSome? (OptionDecl.given? · name)

/-- What the highest source that sets an option gives. -/
def preferred? (s : RawSources) (o : OptionDecl) : Option Value :=
  s.ranked.findSome? o.supplied?

/-- What is given under a spelling of an option before the one that the highest source which sets
the option uses. -/
def covering? (s : RawSources) (o : OptionDecl) : Option Value :=
  (s.ranked.find? fun source => (o.supplied? source).isSome).bind fun source =>
    (o.spellings.takeWhile fun name => (OptionDecl.given? source name).isNone).findSome? s.given?

/-- The value of a configuration that takes the place of what becomes of the preferred value. -/
def overruling? (s : RawSources) (o : OptionDecl) : Option Value :=
  (byteValue? s.merged o.name).or ((s.covering? o).map fun v => o.converted (some v))

/-- In all sources together a spelling has the value that the highest source gives. -/
theorem given?_merged (hn : s.NonNull o) {name : String} (hname : name ∈ o.spellings) :
    OptionDecl.given? s.merged name = s.given? name := by
  have hmerged : (s.merged.lookup (.text name)).all (!·.isNull) := by
    rw [lookup_merged]
    cases hfirst : s.ranked.findSome? (·.lookup (.text name)) with
    | none => rfl
    | some v =>
      obtain ⟨before, source, after, hsplit, hfound, -⟩ := List.findSome?_eq_some_iff.1 hfirst
      have hnull := hn source (by simp [hsplit]) name hname
      rwa [hfound] at hnull
  rw [OptionDecl.given?_eq_lookup hmerged, lookup_merged, given?]
  exact findSome?_congr fun source hs =>
    (OptionDecl.given?_eq_lookup (hn source hs name hname)).symm

/-- All sources together supply the preferred value, unless another one covers it. -/
theorem supplied?_merged (hn : s.NonNull o) :
    o.supplied? s.merged = (s.covering? o).or (s.preferred? o) := by
  rw [supplied?, findSome?_congr fun name hname => given?_merged hn hname]
  exact findSome?_swap OptionDecl.given? s.ranked

/-- If every source that sets an option uses its own name, nothing covers the preferred value. -/
theorem covering?_eq_none (h : ∀ source ∈ s.ranked, (o.supplied? source).isSome →
    (OptionDecl.given? source o.name).isSome) : s.covering? o = none := by
  rw [covering?]
  cases hfirst : s.ranked.find? fun source => (o.supplied? source).isSome with
  | none => rfl
  | some source =>
    have hset : (o.supplied? source).isSome :=
      List.find?_some (p := fun source => (o.supplied? source).isSome) hfirst
    have hown := h source (List.mem_of_find?_eq_some hfirst) hset
    rw [Option.bind_some, spellings, List.takeWhile_cons_of_neg]
    · rfl
    · rw [Option.isNone_iff_eq_none]
      exact Option.isSome_iff_ne_none.1 hown

/-- A configuration has for an option what becomes of the preferred value, unless another value
overrules it. -/
theorem lookup_resolve_merged {options : List OptionDecl} {c : Configuration}
    (hd : DistinctNames options) (ho : o ∈ options) (hn : s.NonNull o)
    (h : resolve options s.merged = .ok c) :
    c.values.lookup o.name =
      some ((s.overruling? o).getD (o.converted (s.preferred? o))) := by
  rw [lookup_resolve hd ho h, supplied?_merged hn, overruling?]
  cases byteValue? s.merged o.name with
  | some v => rfl
  | none => cases s.covering? o <;> rfl

end RawSources

/-! ## The options of the backend -/

namespace JaxrsCxf

/-- The options of the backend share no name. -/
theorem distinctNames_options : DistinctNames backend.options := by decide

/-- The family of JSON annotations is an option of the backend. -/
theorem jsonMappingDecl_mem : jsonMappingDecl ∈ backend.options := by
  have hat : backend.options[12]? = some jsonMappingDecl := by rfl
  exact List.mem_of_getElem? hat

/-- An option of the backend that nothing is supplied for has its default. -/
theorem converted_none {o : OptionDecl} (ho : o ∈ backend.options) :
    o.converted none = o.default := by
  have hall : backend.options.map (·.converted none) = backend.options.map (·.default) := by rfl
  exact List.map_inj_left.1 hall o ho

/-- The switches are declared as such. -/
theorem switches_declared :
    ∀ name ∈ switchOptions, ∃ o ∈ backend.options, o.name = name ∧ o.kind = .boolean := by
  decide +kernel

/-- Raw values are resolved for the backend just if those of its options have the texts that are
asked for, and there is no fault in a key. -/
theorem exists_resolve_options_iff {raw : RawOptions} :
    (∃ c, resolve backend.options raw = .ok c) ↔
      suppliedFault? backend.options raw = none ∧ keyFaults raw = [] := by
  rw [← usable_iff distinctNames_options switches_declared]
  exact exists_resolve_iff distinctNames_options jsonMappingDecl_mem rfl rfl rfl

/-- For every option of the backend, whatever the sources are: if the sources can be read, then so
can their raw options together, which are resolved unless a value has no text that is asked for or
there is a fault in a key. The value of the option is what becomes of the preferred value, but for a
value that overrules it; so the sources have their precedence just if such a value makes no
difference. It does not exist where every source that sets the option uses its own name and no key
in bytes spells it. Without any source the option has its default. -/
theorem precedence_iff {o : OptionDecl} (ho : o ∈ backend.options) {order : Yaml.SetOrder}
    {tree : FileTree} {start : Place} {environment : List (String × String)} {pairs : List String}
    {config : Option Path} {s : RawSources}
    (hs : sourcesOf order backend.options tree start environment pairs config = .ok s)
    (hn : s.NonNull o) :
    collect order backend.options tree start environment pairs config = .ok s.merged ∧
      ((∃ c, resolve backend.options s.merged = .ok c) ↔
        suppliedFault? backend.options s.merged = none ∧ keyFaults s.merged = []) ∧
      ∀ c, resolve backend.options s.merged = .ok c →
        c.values.lookup o.name = some ((s.overruling? o).getD (o.converted (s.preferred? o))) ∧
        (c.values.lookup o.name = some (o.converted (s.preferred? o)) ↔
          ∀ v, s.overruling? o = some v → v = o.converted (s.preferred? o)) ∧
        ((∀ source ∈ s.ranked, (o.supplied? source).isSome → (given? source o.name).isSome) →
          byteValue? s.merged o.name = none →
          c.values.lookup o.name = some (o.converted (s.preferred? o))) ∧
        (s.preferred? o = none → o.converted (s.preferred? o) = o.default) := by
  refine ⟨?_, ?_, fun c hc => ?_⟩
  · rw [collect_eq, hs]
    rfl
  · exact exists_resolve_options_iff
  · have hvalue := RawSources.lookup_resolve_merged distinctNames_options ho hn hc
    refine ⟨hvalue, ?_, fun hown hbytes => ?_, fun hnone => ?_⟩
    · rw [hvalue]
      cases s.overruling? o with
      | none => simp
      | some v => simp
    · rw [hvalue, RawSources.overruling?, hbytes, RawSources.covering?_eq_none hown]
      rfl
    · rw [hnone, converted_none ho]

/-- The switch for validation annotations. -/
def beanValidationDecl : OptionDecl :=
  .boolean beanValidationOption "Use BeanValidation API annotations" false ["useBeanValidation"]

/-- The switch is an option of the backend. -/
theorem beanValidationDecl_mem : beanValidationDecl ∈ backend.options := by
  have hat : backend.options[8]? = some beanValidationDecl := by rfl
  exact List.mem_of_getElem? hat

/-- An environment that turns the switch on. -/
def switchedOn : List (String × String) := [("CLIENTFORGE_OPT_USE_BEAN_VALIDATION", "true")]

/-- What such an environment and an option of the command line come to. -/
def switchSources (name : String) : RawSources where
  commandLine := [(.text name, .text "false")]
  environment := [(.text beanValidationOption, .text "true")]
  given := []
  project := []

/-- The command line turns the switch off by its own name, whatever the environment says. -/
theorem precedence_own_name : ∃ s c,
    sourcesOf .byText backend.options .empty [] switchedOn ["use-bean-validation=false"] none =
        .ok s ∧
      resolve backend.options s.merged = .ok c ∧
      c.values.lookup beanValidationOption = some (.bool false) := by
  have hs : sourcesOf .byText backend.options .empty [] switchedOn
      ["use-bean-validation=false"] none = .ok (switchSources beanValidationOption) := by rfl
  obtain ⟨-, hresolved, hvalue⟩ := precedence_iff beanValidationDecl_mem hs (by decide)
  obtain ⟨c, hc⟩ := hresolved.2 ⟨by decide +kernel, rfl⟩
  exact ⟨_, c, hs, hc, (hvalue c hc).1⟩

/-- The sources do not always have their precedence: the command line does not turn the switch off
by its other spelling, if the environment turns it on. -/
theorem precedence_fails : ¬∀ o ∈ backend.options,
    ∀ order tree start environment pairs config s c,
      sourcesOf order backend.options tree start environment pairs config = .ok s → s.NonNull o →
      resolve backend.options s.merged = .ok c →
      c.values.lookup o.name = some (o.converted (s.preferred? o)) := by
  intro h
  have hs : sourcesOf .byText backend.options .empty [] switchedOn ["useBeanValidation=false"]
      none = .ok (switchSources "useBeanValidation") := by rfl
  obtain ⟨c, hc⟩ : ∃ c, resolve backend.options (switchSources "useBeanValidation").merged = .ok c :=
    exists_resolve_options_iff.2 ⟨by decide +kernel, rfl⟩
  have hvalue := RawSources.lookup_resolve_merged distinctNames_options beanValidationDecl_mem
    (by decide) hc
  have hon := h beanValidationDecl beanValidationDecl_mem .byText .empty [] switchedOn
    ["useBeanValidation=false"] none _ _ hs (by decide) hc
  cases Option.some.inj (hvalue.symm.trans hon)

end JaxrsCxf

end ClientGen
