import ClientGen.Yaml.Kind

/-!
# The graph of a YAML document

With its aliases a document is a graph: a node may be a part of several others, and even of itself.
[Graph.ofNode] numbers the nodes of a tree, the document itself first, and an alias is the number of
its node. Mappings that are merged into another one are taken in by [Graph.flatten]: their pairs
stand in front of its own, and nothing is left to be merged.
-/

namespace ClientGen.Yaml

/-- What a node holds. Other nodes are told by their numbers. -/
inductive Content where
  | scalar (text : String)
  | sequence (items : List Nat)
  | mapping (pairs : List (Nat × Nat))
  deriving Inhabited

/-- A node of a graph. -/
structure Vertex where
  kind : Kind
  content : Content

/-- The nodes of a document by their numbers. -/
abbrev Graph := Array Vertex

namespace Graph

/-! ## Numbers -/

/-- The nodes so far, and the numbers of those that have names. -/
structure Numbering where
  nodes : Graph := #[]
  named : List (String × Nat) := []

namespace Numbering

/-- The numbering with one more node. -/
def push (s : Numbering) (kind : Kind) (content : Content) : Numbering :=
  { s with nodes := s.nodes.push ⟨kind, content⟩ }

/-- The numbering with another content of a node. -/
def fill (s : Numbering) (n : Nat) (content : Content) : Numbering :=
  { s with nodes := s.nodes.modify n fun v => { v with content := content } }

mutual

/-- The number of a node, which it has before its parts have theirs. -/
def number (s : Numbering) : Node → Nat × Numbering
  | .alias name => ((s.named.lookup name).getD 0, s)
  | .anchored name node => number { s with named := (name, s.nodes.size) :: s.named } node
  | .scalar tag plain text =>
    (s.nodes.size, s.push (Node.scalar tag plain text).kind (.scalar text))
  | .sequence tag items =>
    let t := s.push (Node.sequence tag []).kind (.sequence [])
    let (numbers, t) := numberItems t items
    (s.nodes.size, t.fill s.nodes.size (.sequence numbers))
  | .mapping tag pairs =>
    let t := s.push (Node.mapping tag []).kind (.mapping [])
    let (numbers, t) := numberPairs t pairs
    (s.nodes.size, t.fill s.nodes.size (.mapping numbers))

/-- The numbers of the items of a list. -/
def numberItems (s : Numbering) : List Node → List Nat × Numbering
  | [] => ([], s)
  | node :: rest =>
    let (n, s) := number s node
    let (numbers, s) := numberItems s rest
    (n :: numbers, s)

/-- The numbers of the pairs of a mapping. -/
def numberPairs (s : Numbering) : List (Node × Node) → List (Nat × Nat) × Numbering
  | [] => ([], s)
  | (k, v) :: rest =>
    let (m, s) := number s k
    let (n, s) := number s v
    let (numbers, s) := numberPairs s rest
    ((m, n) :: numbers, s)

end

end Numbering

/-- The graph of a tree. -/
def ofNode (node : Node) : Graph := (Numbering.number {} node).2.nodes

/-! ## Nodes -/

variable (g : Graph)

/-- The kind of a node. -/
def kind (n : Nat) : Kind := (g[n]?.map (·.kind)).getD .other

/-- The content of a node. -/
def content (n : Nat) : Content := (g[n]?.map (·.content)).getD (.scalar "")

/-- The pairs of a node that is a mapping. -/
def pairs (n : Nat) : List (Nat × Nat) :=
  match g.content n with
  | .mapping pairs => pairs
  | _ => []

/-- The graph with other pairs of a mapping. -/
def setPairs (n : Nat) (pairs : List (Nat × Nat)) : Graph :=
  g.modify n fun v => { v with content := .mapping pairs }

/-- The text of a scalar, or of the default value of a mapping. Every step inwards takes one unit of
`fuel`. -/
def scalarText? : Nat → Nat → Option String
  | 0, _ => none
  | fuel + 1, n =>
    match g.content n with
    | .scalar text => some text
    | .sequence _ => none
    | .mapping pairs =>
      (pairs.find? fun p => g.kind p.1 == .default).bind fun p => scalarText? fuel p.2

/-! ## Merging -/

/-- Whether the value of a pair is merged into its mapping. -/
def isMerge (pair : Nat × Nat) : Bool := g.kind pair.1 == .merge

/-- The number of pairs that are to be merged. -/
def mergeCount : Nat :=
  (List.range g.size).foldl (fun count n => count + ((g.pairs n).filter g.isMerge).length) 0

/-- The graph in which keys that are the sign for a default value are texts. -/
def settleKeys (pairs : List (Nat × Nat)) : Graph :=
  pairs.foldl (fun g p =>
    if g.kind p.1 = .default then g.modify p.1 fun v => { v with kind := .text } else g) g

mutual

/-- The graph in which nothing is left to be merged into a mapping, where `taken` are the pairs
found before. The pair that says what is merged is gone before its value is looked at, so that a
mapping may be merged into itself. Each such pair takes three units of `fuel`. -/
def flatten : Nat → Graph → Nat → List (Nat × Nat) → Except Fault Graph
  | 0, _, _, _ => .error .malformed
  | fuel + 1, g, n, taken =>
    let pairs := g.pairs n
    match pairs.find? g.isMerge with
    | none =>
      let g := if taken.isEmpty then g else g.setPairs n (taken ++ pairs)
      .ok (g.settleKeys (g.pairs n))
    | some merge => do
      let (brought, g) ← bring fuel (g.setPairs n (pairs.erase merge)) merge.2
      flatten fuel g n (taken ++ brought)

/-- The pairs that a node brings along: those of a mapping, or of a list of them, the first of which
comes last. -/
def bring : Nat → Graph → Nat → Except Fault (List (Nat × Nat) × Graph)
  | 0, _, _ => .error .malformed
  | fuel + 1, g, n =>
    match g.content n with
    | .scalar _ => .error .malformed
    | .mapping _ => do
      let g ← flatten fuel g n []
      return (g.pairs n, g)
    | .sequence items => bringItems fuel g items

/-- The pairs that mappings in a list bring along. -/
def bringItems : Nat → Graph → List Nat → Except Fault (List (Nat × Nat) × Graph)
  | _, g, [] => .ok ([], g)
  | 0, _, _ => .error .malformed
  | fuel + 1, g, n :: rest =>
    match g.content n with
    | .mapping _ => do
      let g ← flatten fuel g n []
      let own := g.pairs n
      let (others, g) ← bringItems (fuel + 1) g rest
      return (others ++ own, g)
    | _ => .error .malformed

end

/-- The graph in which nothing is left to be merged into a mapping. -/
def merged (g : Graph) (n : Nat) : Except Fault Graph := flatten (3 * g.mergeCount + 3) g n []

end Graph

end ClientGen.Yaml
