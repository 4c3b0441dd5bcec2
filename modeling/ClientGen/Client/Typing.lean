import ClientGen.Client.Basic
import ClientGen.Java.Name
import ClientGen.TypeTable

/-!
# Types of members

[resolveType] names a type of the API description, with the container around it if there is one, in
the target language, and collects the short names that have to be imported for it. A schema of the
description is named by its class; any other type by the table of types.
-/

namespace ClientGen.Client

open Api

/-- A type in the target language. -/
structure ResolvedType where
  datatype : String
  /-- The type without its container. -/
  baseType : String
  isModel : Bool
  imports : NameSet
  deriving Repr

/-- The short names that are imported for a container: its type, and the class of its values. -/
def containerImports : Container → List String
  | .array => ["List", "ArrayList"]
  | .map => ["Map", "HashMap"]

/-- The type of an element in a container. -/
def wrapped (wrapper : String) (container : Container) (element : String) : String :=
  match container with
  | .array => wrapper ++ "<" ++ element ++ ">"
  | .map => wrapper ++ "<String, " ++ element ++ ">"

/-- A type without a container, where `schemas` are the names of the schemas. -/
def resolveElement (table : TypeTable) (schemas : List String) (type : String) : ResolvedType :=
  if schemas.contains type then
    let name := Java.modelName type
    ⟨name, name, true, NameSet.ofList [name]⟩
  else
    let (target, importRef) := table.resolve type
    ⟨target, target, false, if importRef.isSome then NameSet.ofList [target] else NameSet.empty⟩

/-- A type of the description. -/
def resolveType (table : TypeTable) (schemas : List String) (type : String)
    (container : Option Container) : ResolvedType :=
  let element := resolveElement table schemas type
  match container with
  | none => element
  | some c =>
    { element with
      datatype := wrapped (table.resolve c.name).1 c element.baseType
      imports := element.imports.insertAll (containerImports c) }

end ClientGen.Client
