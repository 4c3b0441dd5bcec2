import ClientGen.Backend.Registry
import ClientGen.Proofs.Lists
import ClientGen.Proofs.Steps
import Mathlib.Data.List.Sort

/-!
# Backends that announce themselves

Of an entry point there are two ways to end: it is left out, because it cannot be loaded or because
its name is taken, or its factory is put behind those that are registered ([enroll_cases]). So what
is found under a name after all entry points are through is what was found before, or else the
factory of the first one with that name that can be loaded ([lookup_discover]), and the names that
are told as new are those of the entry points that can be loaded, as far as they are not taken, each
at its first appearance ([loaded_discover]).
-/

namespace ClientGen

/-! ## Texts in order -/

namespace Text

/-- To put texts in order is to sort them by insertion. -/
theorem sorted_eq_insertionSort (names : List String) :
    sorted names = names.insertionSort (· ≤ ·) := by
  have hinsert (s : String) (rest : List String) :
      insertSorted s rest = rest.orderedInsert (· ≤ ·) s := by
    induction rest with
    | nil => rfl
    | cons t rest ih => rw [insertSorted, List.orderedInsert_cons, ih]
  induction names with
  | nil => rfl
  | cons s names ih =>
    rw [List.insertionSort_cons, ← ih, ← hinsert]
    rfl

theorem perm_sorted (names : List String) : (sorted names).Perm names := by
  rw [sorted_eq_insertionSort]
  exact List.perm_insertionSort _ names

/-- Distinct texts are strictly increasing when they are in order. -/
theorem pairwise_sorted {names : List String} (h : names.Nodup) :
    (sorted names).Pairwise (· < ·) := by
  have hordered : (sorted names).Pairwise (· ≤ ·) := by
    rw [sorted_eq_insertionSort]
    exact List.pairwise_insertionSort _ names
  have hdistinct : (sorted names).Nodup := (perm_sorted names).nodup_iff.2 h
  exact (hordered.and hdistinct).imp fun ⟨hle, hne⟩ => Std.lt_of_le_of_ne hle hne

end Text

/-! ## What entry points offer -/

namespace EntryPoint

/-- Whether the factory of an entry point can be loaded. -/
def loads (e : EntryPoint) : Bool := e.factory.isOk

/-- The factory that an entry point gives to a name. -/
def offer? (name : String) (e : EntryPoint) : Option Factory :=
  if e.name = name then e.factory.toOption else none

theorem loads_iff {e : EntryPoint} : e.loads = true ↔ ∃ f, e.factory = .ok f := by
  rw [loads]
  cases e.factory with
  | error fault => simp [Except.isOk, Except.toBool]
  | ok f => simp [Except.isOk, Except.toBool]

theorem isSome_offer?_iff {name : String} {e : EntryPoint} :
    (e.offer? name).isSome = true ↔ e.name = name ∧ e.loads = true := by
  unfold offer? loads
  split
  · next hname =>
    rw [and_iff_right hname]
    cases e.factory <;> rfl
  · next hname => simp [hname]

end EntryPoint

namespace Registry

section
variable {r r' : Registry} {name words : String} {f : Factory} {e : EntryPoint}

/-! ## Names -/

theorem mem_names : name ∈ r.names ↔ (r.factories.lookup name).isSome = true := by
  rw [names, (Text.perm_sorted _).mem_iff,
    ← Assoc.contains_eq_isSome_lookup (Assoc.exact_of_lawful name), Assoc.contains,
    List.any_eq_true, List.mem_map]
  simp only [beq_iff_eq]

theorem lookup_eq_none_iff : r.factories.lookup name = none ↔ name ∉ r.names := by
  rw [mem_names, Bool.not_eq_true, Option.isSome_eq_false_iff, Option.isNone_iff_eq_none]

/-- What is registered is found under its name. -/
theorem lookup_eq_some_iff : r.factories.lookup name = some f ↔ (name, f) ∈ r.factories := by
  refine ⟨Assoc.mem_of_lookup, fun h => ?_⟩
  refine Assoc.lookup_of_mem (Assoc.exact_of_lawful name) h fun e he hname => ?_
  exact List.inj_on_of_nodup_map r.distinct he h hname

/-- The names are strictly increasing. -/
theorem pairwise_names (r : Registry) : r.names.Pairwise (· < ·) :=
  Text.pairwise_sorted r.distinct

/-! ## One entry point -/

/-- A factory is put behind the others, or its name is taken. -/
theorem register_cases (r : Registry) (name : String) (f : Factory) :
    name ∈ r.names ∧ r.register name f = .error (.registeredTwice name) ∨
      name ∉ r.names ∧ ∃ r', r.register name f = .ok r' ∧
        r'.factories = r.factories ++ [(name, f)] := by
  have htaken : Assoc.contains r.factories name = true ↔ name ∈ r.names := by
    rw [mem_names, Assoc.contains_eq_isSome_lookup (Assoc.exact_of_lawful name)]
  unfold register
  split
  · next h => exact .inl ⟨htaken.1 h, rfl⟩
  · next h => exact .inr ⟨mt htaken.2 h, _, rfl, rfl⟩

/-- An entry point is left out, because it cannot be loaded or its name is taken, or its factory is
put behind the others. -/
theorem enroll_cases (r : Registry) (e : EntryPoint) :
    (∃ words, r.enroll e = .error words ∧ (e.loads = true → e.name ∈ r.names)) ∨
      e.name ∉ r.names ∧ ∃ f r', e.factory = .ok f ∧ r.enroll e = .ok r' ∧
        r'.factories = r.factories ++ [(e.name, f)] := by
  unfold enroll EntryPoint.loads
  cases e.factory with
  | error fault =>
    left
    cases fault with
    | refused words => exact ⟨_, rfl, fun h => nomatch h⟩
    | failed reason => exact ⟨_, rfl, fun h => nomatch h⟩
  | ok f =>
    rcases register_cases r e.name f with ⟨htaken, heq⟩ | ⟨hfree, r', heq, hfactories⟩
    · left
      simp only [heq, mapError_error]
      exact ⟨_, rfl, fun _ => htaken⟩
    · right
      simp only [heq, mapError_ok]
      exact ⟨hfree, f, r', rfl, rfl, hfactories⟩

/-- What is found when one more is registered. -/
theorem lookup_of_concat (h : r'.factories = r.factories ++ [(name, f)]) (other : String) :
    r'.factories.lookup other =
      (r.factories.lookup other).or (if name = other then some f else none) := by
  rw [h, List.lookup_append, List.lookup_cons, List.lookup_nil]
  congr 1
  by_cases hother : name = other
  · rw [if_pos hother, hother, beq_self_eq_true]
  · rw [if_neg hother, beq_eq_false_iff_ne.2 (Ne.symm hother)]

theorem mem_names_of_concat (h : r'.factories = r.factories ++ [(name, f)]) (other : String) :
    other ∈ r'.names ↔ other ∈ r.names ∨ name = other := by
  rw [mem_names, mem_names, lookup_of_concat h, Option.isSome_or, Bool.or_eq_true]
  by_cases hother : name = other <;> simp [hother]

theorem discover_of_error (h : r.enroll e = .error words) (rest : List EntryPoint) :
    r.discover (e :: rest) = r.discover rest := by
  rw [discover, h]

theorem discover_of_ok (h : r.enroll e = .ok r') (rest : List EntryPoint) :
    r.discover (e :: rest) = ((r'.discover rest).1, e.name :: (r'.discover rest).2) := by
  rw [discover, h]

end

/-! ## All entry points -/

/-- What is found under a name is what was found before, or else the factory of the first entry
point with that name that can be loaded. -/
theorem lookup_discover (r : Registry) (entryPoints : List EntryPoint) (name : String) :
    (r.discover entryPoints).1.factories.lookup name =
      (r.factories.lookup name).or (entryPoints.findSome? (·.offer? name)) := by
  induction entryPoints generalizing r with
  | nil => exact (Option.or_none).symm
  | cons e rest ih =>
    rcases enroll_cases r e with ⟨words, heq, htaken⟩ | ⟨-, f, r', hf, heq, hfactories⟩
    · rw [discover_of_error heq, ih]
      cases hoffer : e.offer? name with
      | none => rw [List.findSome?_cons, hoffer]
      | some f =>
        -- A second factory for a name changes nothing, because the first one is found.
        obtain ⟨hname, hloads⟩ :=
          EntryPoint.isSome_offer?_iff.1 (Option.isSome_of_eq_some hoffer)
        have hfound := mem_names.1 (htaken hloads)
        rw [hname] at hfound
        obtain ⟨g, hg⟩ := Option.isSome_iff_exists.1 hfound
        rw [hg, Option.some_or, Option.some_or]
    · have hoffer : e.offer? name = if e.name = name then some f else none := by
        rw [EntryPoint.offer?, hf]
        rfl
      rw [discover_of_ok heq, ih, lookup_of_concat hfactories, Option.or_assoc,
        List.findSome?_cons, hoffer]
      split <;> rfl

/-- The names that are told as new are those of the entry points that can be loaded, as far as they
are not taken, each at its first appearance. -/
theorem loaded_discover (r : Registry) (entryPoints : List EntryPoint) :
    (r.discover entryPoints).2 =
      (((entryPoints.filter (·.loads)).map (·.name)).filter (· ∉ r.names)).eraseDups := by
  induction entryPoints generalizing r with
  | nil => rfl
  | cons e rest ih =>
    rcases enroll_cases r e with ⟨words, heq, htaken⟩ | ⟨hfree, f, r', hf, heq, hfactories⟩
    · rw [discover_of_error heq, ih, List.filter_cons]
      split
      · next hloads => simp [htaken hloads]
      · rfl
    · have hloads : e.loads = true := EntryPoint.loads_iff.2 ⟨f, hf⟩
      rw [discover_of_ok heq, ih, List.filter_cons_of_pos hloads, List.map_cons,
        List.filter_cons_of_pos (by simpa using hfree), List.eraseDups_cons, List.filter_filter]
      have hother : ∀ other, (decide (other ∉ r'.names)) =
          (!other == e.name && decide (other ∉ r.names)) := by
        intro other
        rw [Bool.eq_iff_iff, Bool.and_eq_true, decide_eq_true_iff, decide_eq_true_iff,
          mem_names_of_concat hfactories, not_or, and_comm, Bool.not_eq_true', beq_eq_false_iff_ne,
          ne_comm]
      simp only [hother]

/-- There is one record for each entry point, a warning unless its name is new. -/
theorem discoverRecords_eq (r : Registry) (entryPoints : List EntryPoint) :
    (r.discoverRecords entryPoints).length = entryPoints.length ∧
      (r.discoverRecords entryPoints).filter (·.level ≠ .warning) =
        (r.discover entryPoints).2.map registerRecord := by
  induction entryPoints generalizing r with
  | nil => exact ⟨rfl, rfl⟩
  | cons e rest ih =>
    rcases enroll_cases r e with ⟨words, heq, -⟩ | ⟨-, f, r', -, heq, -⟩
    · obtain ⟨hlength, hnew⟩ := ih r
      rw [discover_of_error heq, discoverRecords, heq]
      exact ⟨congrArg (· + 1) hlength, hnew⟩
    · obtain ⟨hlength, hnew⟩ := ih r'
      rw [discover_of_ok heq, discoverRecords, heq]
      exact ⟨congrArg (· + 1) hlength, congrArg (registerRecord e.name :: ·) hnew⟩

/-- Whether a registry and some names are what comes of looking at entry points. -/
structure Discovers (r : Registry) (entryPoints : List EntryPoint)
    (found : Registry × List String) : Prop where
  /-- What was registered keeps its factory. -/
  kept : ∀ name ∈ r.names, found.1.factories.lookup name = r.factories.lookup name
  /-- Another name is registered just if some entry point with it can be loaded. -/
  registered : ∀ name ∉ r.names,
    (name ∈ found.1.names ↔ ∃ e ∈ entryPoints, e.name = name ∧ ∃ f, e.factory = .ok f)
  /-- It has the factory of the first one of these. -/
  first : ∀ name ∉ r.names,
    found.1.factories.lookup name = entryPoints.findSome? (·.offer? name)
  /-- The names are those that are new. -/
  new : ∀ name, name ∈ found.2 ↔ name ∈ found.1.names ∧ name ∉ r.names
  /-- They come in the order of the entry points that they are registered for. -/
  inTurn : found.2 =
    (((entryPoints.filter (·.loads)).map (·.name)).filter (· ∉ r.names)).eraseDups
  once : found.2.Nodup
  ordered : found.1.names.Pairwise (· < ·)
  /-- Each entry point that brings no name is told of by a warning. -/
  told : (r.discoverRecords entryPoints).length = entryPoints.length ∧
    (r.discoverRecords entryPoints).filter (·.level ≠ .warning) = found.2.map registerRecord

/-- Whatever entry points there are, loadable or not and with whatever names, looking at them
replaces nothing and registers each new name for the first one that can be loaded. -/
theorem discovers_discover (r : Registry) (entryPoints : List EntryPoint) :
    r.Discovers entryPoints (r.discover entryPoints) := by
  have hfree : ∀ name ∉ r.names, (r.discover entryPoints).1.factories.lookup name =
      entryPoints.findSome? (·.offer? name) := by
    intro name hname
    rw [lookup_discover, lookup_eq_none_iff.2 hname, Option.none_or]
  have hloaded : ∀ name, (∃ e ∈ entryPoints, e.name = name ∧ ∃ f, e.factory = .ok f) ↔
      name ∈ (entryPoints.filter (·.loads)).map (·.name) := by
    intro name
    simp only [List.mem_map, List.mem_filter, ← EntryPoint.loads_iff, and_assoc,
      and_comm (a := _ = name)]
  have hregistered : ∀ name ∉ r.names, (name ∈ (r.discover entryPoints).1.names ↔
      ∃ e ∈ entryPoints, e.name = name ∧ ∃ f, e.factory = .ok f) := by
    intro name hname
    rw [mem_names, hfree name hname, List.findSome?_isSome_iff]
    simp only [EntryPoint.isSome_offer?_iff, EntryPoint.loads_iff]
  have hinTurn := loaded_discover r entryPoints
  refine ⟨?kept, hregistered, hfree, ?new, hinTurn, ?once, pairwise_names _,
    discoverRecords_eq r entryPoints⟩
  case kept =>
    intro name hname
    obtain ⟨f, hf⟩ := Option.isSome_iff_exists.1 (mem_names.1 hname)
    rw [lookup_discover, hf, Option.some_or]
  case new =>
    intro name
    rw [hinTurn, List.mem_eraseDups, List.mem_filter, decide_eq_true_iff, ← hloaded]
    exact and_congr_left fun hname => (hregistered name hname).symm
  case once =>
    rw [hinTurn]
    exact nodup_eraseDups _

/-- Entry points of which one takes the name of a backend that is there, and of three with another
name the first one cannot be loaded. -/
def repeatedEntryPoints : List EntryPoint := [
  ⟨JaxrsCxf.name, .ok (.backend Java.baseBackend)⟩,
  ⟨"docs", .error (.failed "no module")⟩,
  ⟨"docs", .ok .other⟩,
  ⟨"docs", .ok (.backend Java.baseBackend)⟩]

/-- The backend stays, and the second one of the three comes behind it. -/
theorem discovers_discover_repeated :
    let found := builtIn.discover repeatedEntryPoints
    builtIn.Discovers repeatedEntryPoints found ∧ found.2 = ["docs"] ∧
      found.1.names = ["docs", JaxrsCxf.name] ∧
      found.1.factories.lookup "docs" = some .other ∧
      found.1.factories.lookup JaxrsCxf.name = some (.backend JaxrsCxf.backend) := by
  refine ⟨discovers_discover builtIn repeatedEntryPoints, by decide +kernel, by decide +kernel,
    rfl, rfl⟩

end Registry

end ClientGen
