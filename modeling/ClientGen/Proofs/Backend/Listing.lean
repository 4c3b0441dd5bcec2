import ClientGen.Proofs.Backend.Discovery

/-!
# Backends that are listed

A backend is got under a name just if its factory works ([get_eq_ok_iff]), so a broken factory is in
nobody's way there. But all backends are listed just if all factories work: otherwise the fault of
the first broken one, by the order of the names, stands in the place of the list ([all_cases]). And
a listed backend is got under its own name just if it is registered under that ([Lists]), which
nothing checks ([listing_fails]).
-/

namespace ClientGen

/-- The backend that a factory gives, if it works. -/
def Factory.backend? : Factory → Option Backend
  | backend b => some b
  | _ => none

theorem Factory.backend?_eq_some_iff {f : Factory} {b : Backend} :
    f.backend? = some b ↔ f = .backend b := by
  cases f <;> simp [backend?]

namespace Registry

/-- The backends of the factories that work, by the order of their names. -/
def working (r : Registry) : List Backend :=
  r.names.filterMap fun name => (r.factories.lookup name).bind Factory.backend?

section
variable {r : Registry} {name : String} {b : Backend}

/-! ## One backend -/

/-- What is got is what the factory of the name gives. -/
theorem toOption_get (r : Registry) (name : String) :
    (r.get name).toOption = (r.factories.lookup name).bind Factory.backend? := by
  unfold get
  cases r.factories.lookup name with
  | none => rfl
  | some f => cases f <;> rfl

/-- So a backend is got just if a factory that gives it is registered under the name. -/
theorem get_eq_ok_iff : r.get name = .ok b ↔ (name, Factory.backend b) ∈ r.factories := by
  have hoption : r.get name = .ok b ↔ (r.get name).toOption = some b := by
    cases r.get name <;> simp [Except.toOption]
  rw [hoption, toOption_get, Option.bind_eq_some_iff, ← lookup_eq_some_iff]
  simp only [Factory.backend?_eq_some_iff, exists_eq_right]

theorem mem_names_of_mem {e : String × Factory} (h : e ∈ r.factories) : e.1 ∈ r.names :=
  mem_names.2 (Option.isSome_of_eq_some (lookup_eq_some_iff.2 h))

theorem exists_mem_of_mem_names (h : name ∈ r.names) : ∃ f, (name, f) ∈ r.factories := by
  obtain ⟨f, hf⟩ := Option.isSome_iff_exists.1 (mem_names.1 h)
  exact ⟨f, lookup_eq_some_iff.1 hf⟩

/-- All factories work just if under every name a backend is got. -/
theorem forall_works_iff : (∀ e ∈ r.factories, ∃ b, e.2 = Factory.backend b) ↔
    ∀ name ∈ r.names, ∃ b, r.get name = .ok b := by
  constructor
  · intro h name hname
    obtain ⟨f, hf⟩ := exists_mem_of_mem_names hname
    obtain ⟨b, rfl⟩ := h _ hf
    exact ⟨b, get_eq_ok_iff.2 hf⟩
  · intro h e he
    obtain ⟨b, hb⟩ := h e.1 (mem_names_of_mem he)
    have hfound := lookup_eq_some_iff.2 (get_eq_ok_iff.1 hb)
    rw [lookup_eq_some_iff.2 he, Option.some.injEq] at hfound
    exact ⟨b, hfound⟩

theorem mem_working : b ∈ r.working ↔ ∃ name, (name, Factory.backend b) ∈ r.factories := by
  simp only [working, List.mem_filterMap, Option.bind_eq_some_iff, Factory.backend?_eq_some_iff,
    exists_eq_right, lookup_eq_some_iff]
  exact exists_congr fun name => and_iff_right_of_imp mem_names_of_mem

/-! ## All backends -/

/-- Whether a name is the first one under which no backend is got, with the fault for that. -/
structure FirstBroken (r : Registry) (name : String) (fault : BackendFault) : Prop where
  mem : name ∈ r.names
  broken : r.get name = .error fault
  first : ∀ other ∈ r.names, other < name → ∃ b, r.get other = .ok b

/-- All backends are listed, because all factories work, or there is a first broken one, whose fault
is all that comes. -/
theorem all_cases (r : Registry) :
    (∀ name ∈ r.names, ∃ b, r.get name = .ok b) ∧ r.all = .ok r.working ∨
      ∃ name fault, r.FirstBroken name fault ∧ r.all = .error fault := by
  rcases mapM_cases r.get r.names with
    ⟨bs, heq, hgot⟩ | ⟨before, name, after, fault, hsplit, hbefore, hfault, heq⟩
  · left
    constructor
    · intro name hname
      have hin : r.get name ∈ bs.map .ok := hgot ▸ List.mem_map_of_mem hname
      obtain ⟨b, -, hb⟩ := List.mem_map.1 hin
      exact ⟨b, hb.symm⟩
    · have hworking : r.working = bs := by
        calc r.working = r.names.filterMap fun name => (r.get name).toOption := by
              simp only [working, toOption_get]
          _ = (r.names.map r.get).filterMap Except.toOption := by
              rw [List.filterMap_map, Function.comp_def]
          _ = (bs.map .ok).filterMap Except.toOption := by rw [hgot]
          _ = bs := by simp [List.filterMap_map, Function.comp_def, Except.toOption]
      rw [hworking]
      exact heq
  · right
    refine ⟨name, fault, ⟨?_, hfault, ?_⟩, heq⟩
    · rw [hsplit]
      exact List.mem_append_right before List.mem_cons_self
    · intro other hother hlt
      have hordered := pairwise_names r
      rw [hsplit] at hordered hother
      rcases List.mem_append.1 hother with hother | hother
      · exact hbefore other hother
      · -- The names from the broken one on are not before it.
        rcases List.mem_cons.1 hother with rfl | hother
        · exact absurd hlt (String.lt_irrefl other)
        · have hlater := (List.pairwise_cons.1 (List.pairwise_append.1 hordered).2.1).1 _ hother
          exact absurd hlt (String.lt_asymm hlater)

end

namespace FirstBroken

variable {r : Registry} {name other : String} {fault fault' : BackendFault}

theorem not_works (h : r.FirstBroken name fault) : ¬∃ b, r.get name = .ok b := by
  rintro ⟨b, hb⟩
  rw [h.broken] at hb
  cases hb

/-- There is one first broken name at most. -/
theorem unique (h : r.FirstBroken name fault) (h' : r.FirstBroken other fault') :
    name = other ∧ fault = fault' := by
  have hle : name ≤ other := fun hlt => h'.not_works (h.first other h'.mem hlt)
  have hge : other ≤ name := fun hlt => h.not_works (h'.first name h.mem hlt)
  obtain rfl : name = other := String.le_antisymm hle hge
  have hfault := h.broken.symm.trans h'.broken
  cases hfault
  exact ⟨rfl, rfl⟩

end FirstBroken

/-- What can be got from a registry and what is listed of it. -/
structure Lists (r : Registry) : Prop where
  /-- A backend is got just if its factory works, whatever the others do. -/
  got : ∀ name b, r.get name = .ok b ↔ (name, Factory.backend b) ∈ r.factories
  /-- The list is that of all working factories by their names, and there is one just if no factory
  is broken. -/
  listed : ∀ bs, r.all = .ok bs ↔
    bs = r.working ∧ ∀ e ∈ r.factories, ∃ b, e.2 = Factory.backend b
  /-- Otherwise there is the fault of the first broken one. -/
  stopped : ∀ fault, r.all = .error fault ↔ ∃ name, r.FirstBroken name fault
  /-- Every backend that is to be listed is got under its own name just if each is registered under
  its own one. -/
  selected : (∀ b ∈ r.working, r.get b.name = .ok b) ↔
    ∀ name b, (name, Factory.backend b) ∈ r.factories → (b.name, Factory.backend b) ∈ r.factories

/-- So it is for every registry, whatever its factories give. -/
theorem lists_registry (r : Registry) : r.Lists where
  got name b := get_eq_ok_iff
  listed bs := by
    rw [forall_works_iff]
    rcases all_cases r with ⟨hworks, hall⟩ | ⟨name, fault, hbroken, hall⟩
    · rw [hall, Except.ok.injEq, eq_comm]
      exact (and_iff_left hworks).symm
    · rw [hall]
      exact iff_of_false (fun h => nomatch h) fun ⟨_, hworks⟩ =>
        hbroken.not_works (hworks name hbroken.mem)
  stopped fault := by
    rcases all_cases r with ⟨hworks, hall⟩ | ⟨name, first, hbroken, hall⟩
    · rw [hall]
      exact iff_of_false (fun h => nomatch h) fun ⟨name, hbroken⟩ =>
        hbroken.not_works (hworks name hbroken.mem)
    · rw [hall, Except.error.injEq]
      exact ⟨fun h => ⟨name, h ▸ hbroken⟩, fun ⟨_, h⟩ => (hbroken.unique h).2⟩
  selected := by
    simp only [mem_working, get_eq_ok_iff, forall_exists_index]
    exact forall_comm

/-- The built-in backend and the base of it, each under its own name. -/
def ownNames : Registry :=
  ⟨[(JaxrsCxf.name, .backend JaxrsCxf.backend), ("java", .backend Java.baseBackend)], by decide⟩

/-- Both are listed, and got under these names. -/
theorem lists_registry_ownNames :
    ownNames.all = .ok [Java.baseBackend, JaxrsCxf.backend] ∧
      ∀ b ∈ ownNames.working, ownNames.get b.name = .ok b := by
  constructor
  · refine ((lists_registry ownNames).listed _).2 ⟨rfl, ?_⟩
    simp [ownNames]
  · refine (lists_registry ownNames).selected.2 ?_
    simp only [ownNames, List.mem_cons, Prod.mk.injEq, List.not_mem_nil, or_false]
    rintro name b (⟨-, h⟩ | ⟨-, h⟩)
    · cases h
      exact .inl ⟨rfl, rfl⟩
    · cases h
      exact .inr ⟨rfl, rfl⟩

/-- A broken factory, and a backend under another name than its own. -/
def oneBroken : Registry :=
  ⟨[("bad", .fails "boom"), ("mine", .backend Java.baseBackend)], by decide⟩

/-- The backend can be got under the name that it is registered under. But there is no list, because
of the broken one, and under its own name it is unknown. -/
theorem listing_fails :
    (({} : Registry).register "bad" (.fails "boom")).bind
        (·.register "mine" (.backend Java.baseBackend)) = .ok oneBroken ∧
      oneBroken.get "mine" = .ok Java.baseBackend ∧ oneBroken.working = [Java.baseBackend] ∧
      oneBroken.all = .error (.failedToLoad "bad" "boom") ∧
      oneBroken.get Java.baseBackend.name = .error (.unknown "java" ["bad", "mine"]) :=
  ⟨rfl, rfl, rfl, rfl, rfl⟩

end Registry

end ClientGen
