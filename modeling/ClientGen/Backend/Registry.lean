import ClientGen.Backend.JaxrsCxf

/-!
# The registry of backends

Backends are registered under names by factories, which are run only when their backend is asked
for. No two have one name: the first registration stays ([Registry.register]). Backends of other
packages announce themselves by entry points ([Registry.discover]), of which the broken ones and
those whose names are taken are left out.
-/

namespace ClientGen

/-- What running a factory gives. -/
inductive Factory where
  | backend (b : Backend)
  /-- It refuses with a fault of its own. -/
  | refuses (words : String)
  /-- It fails in some other way. -/
  | fails (reason : String)
  /-- It gives something that is no backend. -/
  | other
  deriving Repr, Inhabited

/-- Why the factory of an entry point cannot be loaded. -/
inductive LoadFault where
  /-- Loading it ends with the fault of a backend, in words of its own. -/
  | refused (words : String)
  /-- It ends in some other way. -/
  | failed (reason : String)
  deriving Repr

/-- How a backend of another package announces itself. -/
structure EntryPoint where
  name : String
  /-- The factory, or why it cannot be loaded. -/
  factory : Except LoadFault Factory

/-- The factories of the backends by their names, no two of which are the same. -/
structure Registry where
  factories : List (String × Factory) := []
  distinct : (factories.map (·.1)).Nodup := by exact List.nodup_nil

namespace Registry

instance : Inhabited Registry := ⟨{}⟩

/-- The registered names in order. -/
def names (r : Registry) : List String := Text.sorted (r.factories.map (·.1))

/-- Names stay distinct when one more is registered that is free. -/
theorem distinct_concat (r : Registry) {name : String}
    (h : ¬Assoc.contains r.factories name = true) (f : Factory) :
    ((r.factories ++ [(name, f)]).map (·.1)).Nodup := by
  rw [List.map_append, List.map_singleton, List.nodup_append]
  refine ⟨r.distinct, List.pairwise_singleton _ _, fun a ha b hb hab => h ?_⟩
  obtain ⟨e, he, hname⟩ := List.mem_map.1 ha
  rw [List.mem_singleton] at hb
  exact List.any_eq_true.2 ⟨e, he, by rw [hname, hab, hb, beq_self_eq_true]⟩

/-- The registry with a factory under a name that is free. -/
def register (r : Registry) (name : String) (f : Factory) : Except BackendFault Registry :=
  if h : Assoc.contains r.factories name then .error (.registeredTwice name)
  else .ok ⟨r.factories ++ [(name, f)], r.distinct_concat h f⟩

/-- What is told of an entry point that is left out because of the fault of a backend. -/
def skippedText (name words : String) : String :=
  "Skipping backend entry point '" ++ name ++ "': " ++ words

/-- The registry with the factory of an entry point, or why it is left out. -/
def enroll (r : Registry) (e : EntryPoint) : Except String Registry :=
  match e.factory with
  | .error (.refused words) => .error (skippedText e.name words)
  | .error (.failed reason) => .error ("Failed to load backend '" ++ e.name ++ "': " ++ reason)
  | .ok f => (r.register e.name f).mapError fun fault => skippedText e.name fault.message.text

/-- The registry with the factories of entry points, and the names that are new. -/
def discover (r : Registry) : List EntryPoint → Registry × List String
  | [] => (r, [])
  | e :: rest =>
    match r.enroll e with
    | .error _ => r.discover rest
    | .ok r =>
      let (r, loaded) := r.discover rest
      (r, e.name :: loaded)

/-- The built-in backends. -/
def builtIn : Registry :=
  ⟨[(JaxrsCxf.name, .backend JaxrsCxf.backend)], List.pairwise_singleton _ _⟩

/-- The backend of a name. -/
def get (r : Registry) (name : String) : Except BackendFault Backend :=
  match r.factories.lookup name with
  | none => .error (.unknown name r.names)
  | some (.backend b) => .ok b
  | some (.refuses words) => .error (.refused words)
  | some (.fails reason) => .error (.failedToLoad name reason)
  | some .other => .error (.noBackend name)

/-- All backends, by the order of their names. -/
def all (r : Registry) : Except BackendFault (List Backend) := r.names.mapM r.get

/-- What is told when a factory is registered. -/
def registerRecord (name : String) : Log.Record :=
  ⟨.debug, "clientforge.registry", "Registered backend '" ++ name ++ "'"⟩

/-- What is told while entry points are looked at. -/
def discoverRecords (r : Registry) : List EntryPoint → List Log.Record
  | [] => []
  | e :: rest =>
    match r.enroll e with
    | .error words => ⟨.warning, "clientforge.registry", words⟩ :: r.discoverRecords rest
    | .ok r => registerRecord e.name :: r.discoverRecords rest

/-- What is told while the built-in backends and those of entry points are registered. -/
def startRecords (entryPoints : List EntryPoint) : List Log.Record :=
  builtIn.factories.map (fun (name, _) => registerRecord name) ++
    builtIn.discoverRecords entryPoints

end Registry

end ClientGen
