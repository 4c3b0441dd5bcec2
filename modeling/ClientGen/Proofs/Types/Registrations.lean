import ClientGen.Proofs.Backend.Composition
import Mathlib.Data.List.Induction

/-!
# The last registration decides

A table of types is filled from a log of registrations, from the first to the last, and one
registration may change both of its parts. Reading the log from its end gives the same
([TypeTable.LastWins]): the last type that is registered for a canonical one is its target, and a
short name has the import that any registration gave it last ([Registration.target?],
[Registration.importRef?]). The log of a backend that changes lead to is told by the changes
([registrations_of_compose]), so its table can be read in the same way ([lastWins_compose]).
-/

namespace ClientGen

namespace Registration

/-- The target that a registration gives a canonical type. -/
def target? (canonical : String) : Registration → Option String
  | type c target _ => if c = canonical then some target else none
  | importOf .. => none

/-- The import that a registration gives a short name. That of a type is for its target, whatever
the canonical type is. -/
def importRef? (name : String) : Registration → Option String
  | type _ target importRef => if target = name then importRef else none
  | importOf n importRef => if n = name then some importRef else none

/-- What the last registration gives that gives anything. -/
def latest? (gives : Registration → Option String) (log : List Registration) : Option String :=
  log.reverse.findSome? gives

variable {gives : Registration → Option String}

/-- What further registrations give decides, or else what was given before. -/
theorem latest?_append (log more : List Registration) :
    latest? gives (log ++ more) = (latest? gives more).or (latest? gives log) := by
  rw [latest?, List.reverse_append, List.findSome?_append]
  rfl

theorem latest?_singleton (r : Registration) : latest? gives [r] = gives r := by
  rw [latest?, List.reverse_singleton, List.findSome?_singleton]

/-- Registrations that give nothing leave nothing. -/
theorem latest?_eq_none {log : List Registration} (h : ∀ r ∈ log, gives r = none) :
    latest? gives log = none :=
  List.findSome?_eq_none_iff.2 fun r hr => h r (List.mem_reverse.1 hr)

end Registration

namespace TypeTable

open Registration

/-! ## One registration -/

/-- A registration changes the target of the canonical type that it is for. -/
theorem lookup_types_register (t : TypeTable) (r : Registration) (canonical : String) :
    (t.register r).types.lookup canonical =
      (r.target? canonical).or (t.types.lookup canonical) := by
  cases r with
  | importOf name importRef => rfl
  | type c target importRef =>
    have htypes : (t.register (.type c target importRef)).types =
        Assoc.insert c target t.types := by
      cases importRef <;> rfl
    rw [htypes, Assoc.lookup_insert (Assoc.exact_of_lawful canonical), target?]
    by_cases h : c = canonical
    · rw [if_pos (beq_iff_eq.2 h.symm), if_pos h, Option.some_or]
    · rw [if_neg (mt beq_iff_eq.1 (Ne.symm h)), if_neg h, Option.none_or]

/-- It changes the import of the short name that it has one for. -/
theorem importFor_register (t : TypeTable) (r : Registration) (name : String) :
    (t.register r).importFor name = (r.importRef? name).or (t.importFor name) := by
  have hinsert (n importRef : String) :
      (t.registerImport n importRef).importFor name =
        (if n = name then some importRef else none).or (t.importFor name) := by
    rw [importFor, registerImport, Assoc.lookup_insert (Assoc.exact_of_lawful name)]
    by_cases h : n = name
    · rw [if_pos (beq_iff_eq.2 h.symm), if_pos h, Option.some_or]
    · rw [if_neg (mt beq_iff_eq.1 (Ne.symm h)), if_neg h, Option.none_or]
      rfl
  cases r with
  | importOf n importRef => exact hinsert n importRef
  | type c target importRef =>
    cases importRef with
    | none =>
      rw [importRef?, ite_self, Option.none_or]
      rfl
    | some importRef => exact hinsert target importRef

/-! ## A log -/

/-- One more registration is made in the table of those before it. -/
theorem ofRegistrations_concat (log : List Registration) (r : Registration) :
    ofRegistrations (log ++ [r]) = (ofRegistrations log).register r := by
  rw [ofRegistrations, List.foldl_append]
  rfl

theorem lookup_types_ofRegistrations (log : List Registration) (canonical : String) :
    (ofRegistrations log).types.lookup canonical = latest? (target? canonical) log := by
  induction log using List.reverseRecOn with
  | nil => rfl
  | append_singleton log r ih =>
    rw [ofRegistrations_concat, lookup_types_register, ih, latest?_append, latest?_singleton]

theorem importFor_ofRegistrations (log : List Registration) (name : String) :
    (ofRegistrations log).importFor name = latest? (importRef? name) log := by
  induction log using List.reverseRecOn with
  | nil => rfl
  | append_singleton log r ih =>
    rw [ofRegistrations_concat, importFor_register, ih, latest?_append, latest?_singleton]

/-- What a canonical type is resolved to, as the log is read from its end. -/
def resolvedBy (log : List Registration) (canonical : String) : String × Option String :=
  match latest? (target? canonical) log with
  | none => (canonical, none)
  | some target => (target, latest? (importRef? target) log)

theorem resolve_ofRegistrations (log : List Registration) (canonical : String) :
    (ofRegistrations log).resolve canonical = resolvedBy log canonical := by
  rw [resolve, resolvedBy, lookup_types_ofRegistrations]
  cases latest? (target? canonical) log with
  | none => rfl
  | some target => exact congrArg (Prod.mk target) (importFor_ofRegistrations log target)

/-- Whether a table agrees with a log that is read from its end. -/
structure LastWins (table : TypeTable) (log : List Registration) : Prop where
  /-- A canonical type is resolved to its last target, with the last import of that one. Without a
  target it stands for itself and has no import, also if there is one for its name. -/
  resolve : ∀ canonical, table.resolve canonical = resolvedBy log canonical
  /-- The import of a short name is its last one. -/
  importFor : ∀ name, table.importFor name = latest? (importRef? name) log
  /-- Further registrations leave what a canonical type is resolved to if they are for other types
  and have no import for its target. -/
  kept : ∀ canonical more,
    (∀ r ∈ more, r.target? canonical = none ∧
      ∀ target ∈ latest? (target? canonical) log, r.importRef? target = none) →
    (ofRegistrations (log ++ more)).resolve canonical = table.resolve canonical

theorem lastWins_ofRegistrations (log : List Registration) :
    (ofRegistrations log).LastWins log where
  resolve := resolve_ofRegistrations log
  importFor := importFor_ofRegistrations log
  kept := by
    intro canonical more h
    have htarget : latest? (target? canonical) (log ++ more) = latest? (target? canonical) log := by
      rw [latest?_append, latest?_eq_none fun r hr => (h r hr).1, Option.none_or]
    rw [resolve_ofRegistrations, resolve_ofRegistrations, resolvedBy, resolvedBy, htarget]
    cases hlog : latest? (target? canonical) log with
    | none => rfl
    | some target =>
      have hmore := latest?_eq_none fun r hr => (h r hr).2 target hlog
      simp only [latest?_append, hmore, Option.none_or]

end TypeTable

/-! ## The log of a backend -/

/-- The registrations of a backend behind a change. New ones of the field itself take the place of
the others. -/
def Override.registrationsAfter (log : List Registration) : Override → List Registration
  | configure changes => changes.registrations.getD log
  | o => log ++ o.additions.registrations

theorem registrations_of_apply {b b' : Backend} {o : Override} (h : o.apply b = .ok b') :
    b'.registrations = o.registrationsAfter b.registrations := by
  cases o with
  | setOptionDefault name default =>
    obtain ⟨p, -, -, rfl⟩ := Backend.setOptionDefault_eq_ok_iff.1 h
    exact (List.append_nil _).symm
  | configure changes => cases h; rfl
  | addTypeMapping => cases h; rfl
  | addImportMapping => cases h; rfl
  | _ => cases h; exact (List.append_nil _).symm

/-- Behind changes the log is what they made of it one after the other. -/
theorem registrations_of_compose {base b : Backend} {overrides : List Override}
    (h : compose base overrides = .ok b) :
    b.registrations = overrides.foldl Override.registrationsAfter base.registrations := by
  replace h := (compose_eq_ok_iff.1 h).2
  induction overrides generalizing base with
  | nil => cases h; rfl
  | cons o rest ih =>
    obtain ⟨next, hnext, hrest⟩ := bind_eq_ok_iff.1 h
    rw [List.foldl_cons, ← registrations_of_apply hnext]
    exact ih hrest

/-- In the table of any log the last registration decides, and so it does in that of any backend
that changes lead to. -/
theorem lastWins_compose :
    (∀ log, (TypeTable.ofRegistrations log).LastWins log) ∧
      ∀ base overrides b, compose base overrides = .ok b →
        b.typeTable.LastWins
          (overrides.foldl Override.registrationsAfter base.registrations) := by
  refine ⟨TypeTable.lastWins_ofRegistrations, fun base overrides b h => ?_⟩
  rw [← registrations_of_compose h]
  exact TypeTable.lastWins_ofRegistrations b.registrations

/-- Changes by which two canonical types come to one target, which has an import of its own in
between. -/
def dateOverrides : List Override := [
  .addTypeMapping "date" "LocalDate" (some "org.joda.time.LocalDate"),
  .addImportMapping "LocalDate" "java.time.LocalDate",
  .addTypeMapping "day" "LocalDate" (some "org.threeten.bp.LocalDate"),
  .addTypeMapping "moment" "LocalDate" none]

/-- The import that comes with the second type is that of the first one too, and the target by
itself has none. -/
theorem lastWins_compose_dates :
    ∃ b, compose Java.baseBackend dateOverrides = .ok b ∧
      b.typeTable.LastWins (Java.baseBackend.registrations ++
        dateOverrides.flatMap (·.additions.registrations)) ∧
      b.typeTable.resolve "date" = ("LocalDate", some "org.threeten.bp.LocalDate") ∧
      b.typeTable.resolve "moment" = ("LocalDate", some "org.threeten.bp.LocalDate") ∧
      b.typeTable.resolve "LocalDate" = ("LocalDate", none) := by
  have hcompose : compose Java.baseBackend dateOverrides = .ok { Java.baseBackend with
      registrations := dateOverrides.foldl Override.registrationsAfter
        Java.baseBackend.registrations } := rfl
  refine ⟨_, hcompose, ?_, by decide +kernel, by decide +kernel, by decide +kernel⟩
  exact lastWins_compose.2 _ _ _ hcompose

end ClientGen
