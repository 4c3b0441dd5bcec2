import ClientGen.Client.Grouping

/-!
# Groups that share operations

Here an operation stands under a handle and may be a member of several groups, or of one group
several times; what happens to it shows wherever it is a member. Names and paths are given as in
[Group.add], except that an operation does not take its own name ([SharedGrouping.takenIds]).
-/

namespace ClientGen.Client

/-- A group whose members stand under handles. -/
structure SharedGroup where
  name : String
  classname : String
  basePath : String
  members : List String := []
  deriving Repr, Inhabited

/-- Operations under handles, groups of handles, and what happened to them. -/
structure SharedGrouping where
  operations : List (String × Operation)
  groups : List SharedGroup := []
  notices : List Notice := []
  deriving Repr, Inhabited

namespace SharedGrouping

/-- The operations under some handles. -/
def operationsOf (s : SharedGrouping) (handles : List String) : List Operation :=
  handles.filterMap (s.operations.lookup ·)

/-- The group of a tag. -/
def group? (s : SharedGrouping) (tag : String) : Option SharedGroup :=
  s.groups.find? (·.name == tag)

/-- A group with its members as they are now. -/
def view (s : SharedGrouping) (g : SharedGroup) : Group where
  name := g.name
  classname := g.classname
  basePath := g.basePath
  operations := s.operationsOf g.members

/-- The names that are taken in a group by other operations than the one under a handle. -/
def takenIds (s : SharedGrouping) (g : SharedGroup) (handle : String) : List String :=
  (s.operationsOf (g.members.filter (· != handle))).map (·.operationId)

/-- The groups with one more, or with another one in the place of the group of its name. -/
def putGroup (g : SharedGroup) (groups : List SharedGroup) : List SharedGroup :=
  if groups.any (·.name == g.name) then groups.map fun h => if h.name = g.name then g else h
  else groups ++ [g]

/-- The operations with those under some handles placed at a base path. -/
def placeAll (handles : List String) (base : String) (operations : List (String × Operation)) :
    List (String × Operation) :=
  operations.map fun (handle, o) =>
    (handle, if handles.contains handle then o.placed base else o)

/-- The groups with the operation under a handle added to the group of a tag. -/
def add (s : SharedGrouping) (tag verb path handle : String) : SharedGrouping :=
  match s.operations.lookup handle with
  | none => s
  | some o =>
    let new : SharedGroup := ⟨tag, Java.apiName tag, groupBasePath path, []⟩
    let g := (s.group? tag).getD new
    let created := if (s.group? tag).isSome then [] else [Notice.created tag g.basePath]
    let taken := s.takenIds g handle
    let operations := Assoc.insert handle (o.joined tag path taken) s.operations
    let members := g.members ++ [handle]
    let base := if isUnder path g.basePath then g.basePath else ""
    let moved := if isUnder path g.basePath then [handle] else members
    { operations := placeAll moved base operations
      groups := putGroup { g with basePath := base, members := members } s.groups
      notices := s.notices ++ created ++ (renameNotice? o tag verb path taken).toList ++
        (outsideNotice? path g.basePath tag).toList }

end SharedGrouping

end ClientGen.Client
