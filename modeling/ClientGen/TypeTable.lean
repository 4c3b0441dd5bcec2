import ClientGen.Assoc
import ClientGen.Log

/-!
# Types of the target language

A canonical type of an API description stands for a type of the target language, and a short name of
the target language may have to be imported. Both are registered one after the other, and the last
registration of a name decides ([TypeTable.ofRegistrations]). A canonical type that is not
registered is a type of the target language by itself, without an import.
-/

namespace ClientGen

/-- What can be registered. -/
inductive Registration where
  /-- A canonical type stands for a target type, perhaps with the import of the latter. -/
  | type (canonical target : String) (importRef : Option String)
  /-- A short name has an import. -/
  | importOf (name importRef : String)
  deriving DecidableEq, Repr, Inhabited

/-- The registered types and imports. -/
structure TypeTable where
  types : List (String × String) := []
  imports : List (String × String) := []
  deriving DecidableEq, Repr, Inhabited

namespace TypeTable

/-- The table with an import. -/
def registerImport (t : TypeTable) (name importRef : String) : TypeTable :=
  { t with imports := Assoc.insert name importRef t.imports }

/-- The table with a type, and with the import of its target if one is given. -/
def registerType (t : TypeTable) (canonical target : String) (importRef : Option String) :
    TypeTable :=
  let t := { t with types := Assoc.insert canonical target t.types }
  match importRef with
  | none => t
  | some ref => t.registerImport target ref

/-- The table with one more registration. -/
def register (t : TypeTable) : Registration → TypeTable
  | .type canonical target importRef => t.registerType canonical target importRef
  | .importOf name importRef => t.registerImport name importRef

/-- The table of registrations, the last of which decide. -/
def ofRegistrations (log : List Registration) : TypeTable := log.foldl register {}

/-- The import of a short name. -/
def importFor (t : TypeTable) (name : String) : Option String := t.imports.lookup name

/-- Whether a canonical type is registered. -/
def isRegistered (t : TypeTable) (canonical : String) : Bool := Assoc.contains t.types canonical

/-- The target type of a canonical type, and its import. -/
def resolve (t : TypeTable) (canonical : String) : String × Option String :=
  match t.types.lookup canonical with
  | none => (canonical, none)
  | some target => (target, t.importFor target)

/-- What is told when a registration replaces another target. -/
def registerRecord? (t : TypeTable) : Registration → Option Log.Record
  | .importOf .. => none
  | .type canonical target _ =>
    match t.types.lookup canonical with
    | none => none
    | some previous =>
      if previous = target then none
      else some ⟨.debug, "clientforge.typemap",
        "Type mapping for '" ++ canonical ++ "' overridden: " ++ previous ++ " -> " ++ target⟩

/-- What is told while a table is made on top of another one. -/
def records (t : TypeTable) : List Registration → List Log.Record
  | [] => []
  | r :: rest => (t.registerRecord? r).toList ++ records (t.register r) rest

end TypeTable

end ClientGen
