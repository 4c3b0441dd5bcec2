import ClientGen.Client.Basic
import ClientGen.Log
import ClientGen.TypeTable

/-!
# Imports in full

Short names become the imports that are written in code ([resolveImports]): a model is imported from
the package of the models, and any other name as the table of types says. Names without an import,
and those that need none, are left out. The imports stand in order and none twice, whatever the
order of the names.
-/

namespace ClientGen.Client

/-- The short names that need no import. -/
def importedAnyway : List String :=
  ["String", "Integer", "Long", "Float", "Double", "Boolean", "Object", "Void", "byte[]"]

/-- The import of a short name, where `models` are the classes of the models. -/
def importOf? (table : TypeTable) (models : List String) (package name : String) : Option String :=
  if importedAnyway.contains name then none
  else if models.contains name then some (package ++ "." ++ name)
  else table.importFor name

/-- The imports of short names, in order. -/
def resolveImports (table : TypeTable) (models : List String) (package : String)
    (names : List String) : List String :=
  (NameSet.ofList (names.filterMap (importOf? table models package))).toList

/-- What is told about the short names that need an import and have none. -/
def importRecords (table : TypeTable) (models : List String) (names : List String) :
    List Log.Record :=
  (names.filter fun n => !importedAnyway.contains n && (importOf? table models "" n).isNone).map
    fun n => ⟨.debug, "clientforge.generator.render", "No import known for '" ++ n ++ "'"⟩

end ClientGen.Client
