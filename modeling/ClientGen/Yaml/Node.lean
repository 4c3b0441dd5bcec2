import ClientGen.Yaml.Token

/-!
# The tree of a YAML document

[Node.ofTokens] puts the tokens of a text together. A text has one document at most, and a value
that is left out is an empty plain scalar. Every reader takes the tokens that are left and gives
back what is left after it; where they cannot go on, the first one that is left says why
([faultAt]). A tag is written out before ([expandLabels]), and an alias has to stand behind its
anchor.
-/

namespace ClientGen.Yaml

/-- A part of a document, with its tag if it has one. -/
inductive Node where
  | scalar (tag : Option String) (plain : Bool) (text : String)
  | sequence (tag : Option String) (items : List Node)
  | mapping (tag : Option String) (pairs : List (Node × Node))
  /-- A node with a name. -/
  | anchored (name : String) (node : Node)
  /-- The node of a name. -/
  | alias (name : String)
  deriving Inhabited

/-- Why tokens cannot go on as they do. -/
def faultAt : List Token → Fault
  | .broken fault :: _ => fault
  | _ => .malformed

/-! ## Handles and names -/

/-- The starts of tags by their handles. -/
abbrev Handles := List (String × String)

/-- The start of the tags of the format itself. -/
def coreStart : String := "tag:yaml.org,2002:"

/-- The handles that need no directive. -/
def commonHandles : Handles := [("!", "!"), ("!!", coreStart)]

/-- The handles of the directives at the start, where the given ones are declared already, and what
is left. A version is told once, and has to be one of the first; a handle is declared once. -/
def takeDirectives (versioned : Bool) (declared : Handles) :
    List Token → Except Fault (Handles × List Token)
  | .directive (.version major) :: rest =>
    if versioned || major != 1 then .error .malformed else takeDirectives true declared rest
  | .directive (.handle name start) :: rest =>
    if declared.any (·.1 == name) then .error .malformed
    else takeDirectives versioned (declared ++ [(name, start)]) rest
  | .directive .other :: rest => takeDirectives versioned declared rest
  | rest => .ok (declared ++ commonHandles, rest)

/-- A tag written out. -/
def WrittenTag.full? (handles : Handles) (t : WrittenTag) : Option String :=
  match t.handle with
  | none => some t.ending
  | some handle => (handles.lookup handle).map (· ++ t.ending)

/-- The tokens with every tag written out. They end at a tag with an unknown handle, at an anchor
with a name that is taken, and at an alias without an anchor in front of it. -/
def expandLabels (handles : Handles) : List String → List Token → List Token
  | _, [] => []
  | names, t :: rest =>
    match t with
    | .tag tag =>
      match tag.full? handles with
      | some full => .tag ⟨none, full⟩ :: expandLabels handles names rest
      | none => [.broken .malformed]
    | .anchor name =>
      if names.contains name then [.broken .malformed]
      else t :: expandLabels handles (name :: names) rest
    | .alias name =>
      if names.contains name then t :: expandLabels handles names rest else [.broken .malformed]
    | t => t :: expandLabels handles names rest

/-! ## Labels of a node -/

/-- The labels in front of a node. -/
structure Labels where
  anchor : Option String := none
  tag : Option String := none

namespace Labels

/-- Whether there are any. -/
def isEmpty (l : Labels) : Bool := l.anchor.isNone && l.tag.isNone

/-- The labels at the start, and what is left. -/
def take : List Token → Labels × List Token
  | .anchor name :: .tag tag :: rest => (⟨some name, some tag.ending⟩, rest)
  | .tag tag :: .anchor name :: rest => (⟨some name, some tag.ending⟩, rest)
  | .anchor name :: rest => (⟨some name, none⟩, rest)
  | .tag tag :: rest => (⟨none, some tag.ending⟩, rest)
  | ts => ({}, ts)

/-- The tag of a node, unless it says nothing of its kind. -/
def kindTag (l : Labels) : Option String := l.tag.filter (· != "!")

/-- A node under its name. -/
def name (l : Labels) (node : Node) : Node :=
  match l.anchor with
  | some name => .anchored name node
  | none => node

/-- A scalar with the labels. One whose tag is an exclamation mark alone is read as if it were
plain. -/
def scalar (l : Labels) (plain : Bool) (text : String) : Node :=
  l.name (.scalar l.kindTag (plain || l.tag.isSome) text)

end Labels

namespace Node

/-! ## Nodes -/

/-- The greatest number of collections around a node. -/
def deepest : Nat := 485

/-- A value that is left out. -/
def absent : Node := .scalar none true ""

/-- Whether one of the tokens comes next. -/
def comes (ts : List Token) (among : List Token) : Bool :=
  ts.head?.any among.contains

/-- Whether a directive, a mark or the end comes next. -/
def endsDocument : List Token → Bool
  | [] => true
  | .directive _ :: _ => true
  | ts => comes ts [.documentStart, .documentEnd]

mutual

/-- A node inside `around` collections. In a block (`inBlock`) it may be an indented collection, and
behind a key (`behindKey`) also a list whose dashes are not indented further than the key. Behind
labels it may be left out. Every call takes one unit of `fuel`, and four for each token are always
enough. -/
def read : Nat → Nat → Bool → Bool → List Token → Except Fault (Node × List Token)
  | 0, _, _, _, ts => .error (faultAt ts)
  | fuel + 1, around, inBlock, behindKey, ts =>
    if deepest < around then .error (.reading .deep) else
    let (labels, body) := Labels.take ts
    match body with
    | .alias name :: rest =>
      if labels.isEmpty then .ok (.alias name, rest) else .ok (labels.scalar true "", body)
    | .scalar plain text :: rest => .ok (labels.scalar plain text, rest)
    | .openBracket :: rest => do
      let (items, rest) ← readFlowItems fuel (around + 1) true rest
      return (labels.name (.sequence labels.kindTag items), rest)
    | .openBrace :: rest => do
      let (pairs, rest) ← readFlowPairs fuel (around + 1) true rest
      return (labels.name (.mapping labels.kindTag pairs), rest)
    | body =>
      if behindKey && comes body [.entry] then do
        let (items, rest) ← readEntries fuel (around + 1) [.entry, .key, .colon, .blockEnd] body
        return (labels.name (.sequence labels.kindTag items), rest)
      else if inBlock && comes body [.sequenceStart] then do
        let (items, rest) ← readEntries fuel (around + 1) [.entry, .blockEnd] (body.drop 1)
        match rest with
        | .blockEnd :: rest => return (labels.name (.sequence labels.kindTag items), rest)
        | rest => throw (faultAt rest)
      else if inBlock && comes body [.mappingStart] then do
        let (pairs, rest) ← readPairs fuel (around + 1) (body.drop 1)
        return (labels.name (.mapping labels.kindTag pairs), rest)
      else match body with
        | .broken fault :: _ => .error fault
        | body =>
          if labels.isEmpty then .error .malformed else .ok (labels.scalar true "", body)

/-- A node, or an absent one in front of certain tokens. -/
def readUnless :
    Nat → Nat → Bool → Bool → List Token → List Token → Except Fault (Node × List Token)
  | 0, _, _, _, _, ts => .error (faultAt ts)
  | fuel + 1, around, inBlock, behindKey, stops, ts =>
    if comes ts stops then .ok (absent, ts) else read fuel around inBlock behindKey ts

/-- Entries of a list, each behind a dash. In front of `stops` the entry is absent. -/
def readEntries : Nat → Nat → List Token → List Token → Except Fault (List Node × List Token)
  | 0, _, _, ts => .error (faultAt ts)
  | fuel + 1, around, stops, ts =>
    match ts with
    | .entry :: rest => do
      let (item, rest) ← readUnless fuel around true false stops rest
      let (items, rest) ← readEntries fuel around stops rest
      return (item :: items, rest)
    | _ => .ok ([], ts)

/-- Pairs of an indented mapping and its end. Either half of a pair may be absent. -/
def readPairs : Nat → Nat → List Token → Except Fault (List (Node × Node) × List Token)
  | 0, _, ts => .error (faultAt ts)
  | fuel + 1, around, ts =>
    match ts with
    | .blockEnd :: rest => .ok ([], rest)
    | .key :: rest => do
      let (k, rest) ← readUnless fuel around true true [.key, .colon, .blockEnd] rest
      let (v, rest) ← readValue fuel around true [.key, .colon, .blockEnd] rest
      let (pairs, rest) ← readPairs fuel around rest
      return ((k, v) :: pairs, rest)
    | ts => .error (faultAt ts)

/-- The value behind a colon; without one it is absent. -/
def readValue : Nat → Nat → Bool → List Token → List Token → Except Fault (Node × List Token)
  | 0, _, _, _, ts => .error (faultAt ts)
  | fuel + 1, around, inBlock, stops, ts =>
    match ts with
    | .colon :: rest => readUnless fuel around inBlock inBlock stops rest
    | _ => .ok (absent, ts)

/-- Items of a list between brackets and the closing one. A pair in it is a mapping of its own. -/
def readFlowItems :
    Nat → Nat → Bool → List Token → Except Fault (List Node × List Token)
  | 0, _, _, ts => .error (faultAt ts)
  | fuel + 1, around, first, ts =>
    match ts with
    | .closeBracket :: rest => .ok ([], rest)
    | _ => do
      let ts ← if first then .ok ts else
        match ts with
        | .comma :: rest => .ok rest
        | ts => .error (faultAt ts)
      match ts with
      | .closeBracket :: rest => return ([], rest)
      | .key :: rest =>
        let (k, rest) ←
          readUnless fuel (around + 1) false false [.colon, .comma, .closeBracket] rest
        let (v, rest) ← readValue fuel (around + 1) false [.comma, .closeBracket] rest
        let (items, rest) ← readFlowItems fuel around false rest
        return (.mapping none [(k, v)] :: items, rest)
      | _ =>
        let (item, rest) ← read fuel around false false ts
        let (items, rest) ← readFlowItems fuel around false rest
        return (item :: items, rest)

/-- Pairs of a mapping between braces and the closing one. A node alone is a key. -/
def readFlowPairs :
    Nat → Nat → Bool → List Token → Except Fault (List (Node × Node) × List Token)
  | 0, _, _, ts => .error (faultAt ts)
  | fuel + 1, around, first, ts =>
    match ts with
    | .closeBrace :: rest => .ok ([], rest)
    | _ => do
      let ts ← if first then .ok ts else
        match ts with
        | .comma :: rest => .ok rest
        | ts => .error (faultAt ts)
      match ts with
      | .closeBrace :: rest => return ([], rest)
      | .key :: rest =>
        let (k, rest) ← readUnless fuel around false false [.colon, .comma, .closeBrace] rest
        let (v, rest) ← readValue fuel around false [.comma, .closeBrace] rest
        let (pairs, rest) ← readFlowPairs fuel around false rest
        return ((k, v) :: pairs, rest)
      | _ =>
        let (k, rest) ← read fuel around false false ts
        let (pairs, rest) ← readFlowPairs fuel around false rest
        return ((k, absent) :: pairs, rest)

end

/-! ## Documents -/

/-- The tokens behind the marks that end a document. -/
def passDocumentEnds : List Token → List Token
  | .documentEnd :: rest => passDocumentEnds rest
  | ts => ts

/-- The tokens behind the directives at the start. -/
def passDirectives : List Token → List Token
  | .directive _ :: rest => passDirectives rest
  | ts => ts

/-- The node of a document without its start. -/
def readDocument (ts : List Token) : Except Fault (Node × List Token) :=
  read (4 * ts.length + 4) 0 true false ts

/-- The document of a text; nothing inside if the text has none. -/
def ofTokens (ts : List Token) : Except Fault (Option Node) := do
  let (handles, body) ← takeDirectives false [] ts
  let body := expandLabels handles [] body
  let (found, rest) ← match body with
    | .documentStart :: rest =>
      if endsDocument rest then .ok (some absent, rest)
      else (readDocument rest).map fun (node, rest) => (some node, rest)
    | body =>
      if (passDirectives ts).length < ts.length then .error (faultAt body)
      else if body.isEmpty then .ok (none, [])
      else (readDocument body).map fun (node, rest) => (some node, rest)
  match passDocumentEnds rest with
  | [] => return found
  | rest => throw (faultAt (passDirectives rest))

end Node

end ClientGen.Yaml
