import ClientGen.Client.Basic
import ClientGen.Java.Name
import ClientGen.Log
import ClientGen.Text.Blank
import ClientGen.Text.Pieces

/-!
# Groups of operations

Operations are put into groups, one for each tag ([groupAll]). A group has a base path, the first
segment of the path of its first operation, and the path of a member is what follows it. An
operation that does not lie under the base path takes it back to the root for the whole group
([Group.add]). Within a group the names of operations are unique: a name that is taken gets the
first free number behind it ([uniqueId]).
-/

namespace ClientGen.Client

/-! ## Paths -/

/-- The first segment of a path with a slash in front, or nothing for the root. -/
def groupBasePath (path : String) : String :=
  match (Text.pieces '/' path.toList).find? (!·.isEmpty) with
  | none => ""
  | some segment => "/" ++ String.ofList segment

/-- Whether a path is a base path or goes on from it by a segment. Every path is under the root. -/
def isUnder (path base : String) : Bool :=
  base = "" || path = base || Text.startsWith path (base ++ "/")

/-- What follows the base path, without slashes at its end. -/
def relativePath (path base : String) : String :=
  let rest := if isUnder path base then String.ofList (path.toList.drop base.length) else path
  Text.trimCharEnd '/' rest

/-! ## Names -/

/-- A name with a number behind it. -/
def numbered (id : String) (n : Nat) : String := id ++ "_" ++ toString n

/-- The name, or the name with the least number that makes it free. Of as many numbers as there are
taken names one is free, because the name itself is taken. -/
def uniqueId (id : String) (taken : List String) : String :=
  if taken.contains id then
    match (List.range taken.length).find? fun n => !taken.contains (numbered id n) with
    | some n => numbered id n
    | none => id
  else id

/-! ## Members -/

namespace Operation

/-- The operation under a name that is free. -/
def renamed (o : Operation) (taken : List String) : Operation :=
  let id := uniqueId o.operationId taken
  if id = o.operationId then o else { o with operationId := id, nickname := id }

/-- The operation as a member of the group of a tag, where some names are taken. -/
def joined (o : Operation) (tag path : String) (taken : List String) : Operation :=
  { o.renamed taken with baseName := tag, rawPath := path }

/-- The operation with its path from a base path on. -/
def placed (o : Operation) (base : String) : Operation :=
  let path := relativePath o.rawPath base
  { o with path := path, isSubresource := path != "" }

end Operation

/-! ## Notices -/

/-- What can happen while operations are grouped. -/
inductive Notice where
  | created (tag base : String)
  /-- The name of an operation is taken. -/
  | renamed (id tag verb path unique : String)
  | outside (path base tag : String)
  deriving DecidableEq, Repr

namespace Notice

/-- The words for a notice. -/
def message : Notice → String
  | created tag base => "Created group '" ++ tag ++ "' with base path '" ++ base ++ "'"
  | renamed id tag verb path unique =>
    "Duplicate operation id '" ++ id ++ "' in group '" ++ tag ++ "' (" ++ verb ++ " " ++ path ++
      "); generated unique id '" ++ unique ++ "'"
  | outside path base tag =>
    "Path '" ++ path ++ "' is outside base path '" ++ base ++ "' of group '" ++ tag ++
      "'; using the root base path"

/-- The warning that a notice is, if it is one. -/
def warning? : Notice → Option String
  | renamed id tag verb path unique => some (renamed id tag verb path unique).message
  | _ => none

/-- The record of a notice. -/
def record (n : Notice) : Log.Record :=
  ⟨if n.warning?.isSome then .warning else .debug, "clientforge.generator.grouping", n.message⟩

end Notice

/-- The notice about an operation whose name is taken. -/
def renameNotice? (o : Operation) (tag verb path : String) (taken : List String) : Option Notice :=
  let id := uniqueId o.operationId taken
  if id = o.operationId then none else some (.renamed o.operationId tag verb path id)

/-- The notice about a path that is not under a base path. -/
def outsideNotice? (path base tag : String) : Option Notice :=
  if isUnder path base then none else some (.outside path base tag)

/-! ## Groups -/

namespace Group

/-- The group of a tag before its first operation. -/
def start (tag path : String) : Group where
  name := tag
  classname := Java.apiName tag
  basePath := groupBasePath path

/-- The names that are taken in a group. -/
def takenIds (g : Group) : List String := g.operations.map (·.operationId)

/-- The group with one more operation. -/
def add (g : Group) (path : String) (o : Operation) : Group :=
  let member := o.joined g.name path g.takenIds
  if isUnder path g.basePath then
    { g with operations := g.operations ++ [member.placed g.basePath] }
  else
    { g with
      basePath := ""
      operations := (g.operations ++ [member]).map (·.placed "") }

/-- What happens when an operation is added. -/
def addNotices (g : Group) (verb path : String) (o : Operation) : List Notice :=
  (renameNotice? o g.name verb path g.takenIds).toList ++
    (outsideNotice? path g.basePath g.name).toList

end Group

/-- Groups, and what happened while they were made. -/
structure Grouping where
  groups : List Group := []
  notices : List Notice := []
  deriving Repr, Inhabited

namespace Grouping

/-- The group of a tag. -/
def group? (s : Grouping) (tag : String) : Option Group := s.groups.find? (·.name == tag)

/-- The warnings. -/
def warnings (s : Grouping) : List String := s.notices.filterMap (·.warning?)

/-- The groups with an operation added to the group of a tag, which is made if there is none. -/
def add (s : Grouping) (tag verb path : String) (o : Operation) : Grouping :=
  match s.group? tag with
  | some g =>
    ⟨s.groups.map fun h => if h.name = tag then h.add path o else h,
      s.notices ++ g.addNotices verb path o⟩
  | none =>
    let g := Group.start tag path
    ⟨s.groups ++ [g.add path o],
      s.notices ++ .created tag g.basePath :: g.addNotices verb path o⟩

end Grouping

/-- The group of operations without a tag. -/
def defaultTag : String := "default"

/-- The groups that an operation goes to, in the order of its tags. -/
def tagsFor (raw : Api.Operation) : List String :=
  let keys := raw.tags.foldl (fun acc tag =>
    let key := Java.tagKey tag
    if acc.contains key then acc else acc ++ [key]) []
  if keys.isEmpty then [defaultTag] else keys

/-- The groups with an operation in every group of its tags. -/
def Grouping.addEverywhere (s : Grouping) (raw : Api.Operation) (o : Operation) : Grouping :=
  (tagsFor raw).foldl (fun s tag => s.add tag raw.method.verb raw.path o) s

/-- The groups of operations, each of which stands beside its description. -/
def groupAll (pairs : List (Api.Operation × Operation)) : Grouping :=
  pairs.foldl (fun s (raw, o) => s.addEverywhere raw o) {}

end ClientGen.Client
