import ClientGen.Yaml.Graph
import ClientGen.Yaml.Resolution

/-!
# What nodes are made into

The nodes of a graph are made into values one by one, each of them once ([make]). A scalar has its
value at once; a collection is begun and put at the end of a queue ([Making.waiting]), and is filled
when its turn comes ([fill]), so that of several faults the one at the least depth is told, and the
first one at that depth. A key of a mapping is needed at once: it is made with all that is in it,
and has to be a scalar. What a collection holds is told by the numbers of its parts ([Made]).
-/

namespace ClientGen.Yaml

/-- A key of a mapping that is being made, with the number of its node if it is equal to no other
one. -/
structure MadeKey where
  key : Key
  apart : Option Nat
  deriving Repr

/-- Whether two keys are one key of a mapping. -/
def MadeKey.same (a b : MadeKey) : Bool := a.key == b.key && a.apart == b.apart

instance : BEq MadeKey := ⟨MadeKey.same⟩

/-- What a node is made into. -/
inductive Made where
  | nothing
  | scalar (v : Value)
  /-- A collection that is not filled. -/
  | begun
  | list (items : List Nat)
  | mapping (entries : List (MadeKey × Nat))
  | members (keys : List MadeKey)
  | pairs (pairs : List (Nat × Nat))
  deriving Inhabited

/-- A graph whose nodes are being made into values. -/
structure Making where
  graph : Graph
  made : Array Made
  /-- The collections that are begun, in order. -/
  waiting : List Nat := []
  /-- The nodes inside which something is being made at once. -/
  around : List Nat := []

/-- Steps that make nodes into values. -/
abbrev Maker := StateT Making (Except Fault)

namespace Making

/-- The graph of which nothing is made. -/
def ofGraph (g : Graph) : Making := { graph := g, made := Array.replicate g.size .nothing }

/-- What a node is made into. -/
def madeOf (m : Making) (n : Nat) : Made := (m.made[n]?).getD .nothing

/-- Whether a node is made, or at least begun. -/
def isMade (m : Making) (n : Nat) : Bool :=
  match m.madeOf n with
  | .nothing => false
  | _ => true

/-- A node made. -/
def put (m : Making) (n : Nat) (made : Made) : Making :=
  { m with made := m.made.setIfInBounds n made }

/-- A collection begun. -/
def begin (m : Making) (n : Nat) : Making :=
  { m.put n .begun with waiting := m.waiting ++ [n] }

end Making

/-! ## Scalars -/

/-- Whether the text of a number is the word for what is not a number. -/
def isNanWord (s : String) : Bool :=
  (takeSign ((Text.lower s).toList.filter (· != '_'))).2 == ".nan".toList

/-- The value of a node of a kind of scalars. A moment is told by the text of the node itself. -/
def scalarValue (g : Graph) (n : Nat) : Except Fault Value := do
  let text ← orMalformed (g.scalarText? (g.size + 1) n)
  match g.kind n, g.content n with
  | .moment, .mapping _ => throw (.reading .noMomentText)
  | kind, _ => kind.value text

/-- The key that a node is made into. What is not a number is equal to itself only, unless it is
written by its word. -/
def madeKey (m : Making) (n : Nat) : Except Fault MadeKey :=
  match m.madeOf n with
  | .scalar (.double .nan) =>
    let word := (m.graph.scalarText? (m.graph.size + 1) n).any isNanWord
    .ok ⟨.double .nan, if word then none else some n⟩
  | .scalar v => orMalformed (v.toKey?.map fun key => ⟨key, none⟩)
  | _ => .error .malformed

/-! ## Collections -/

mutual

/-- Makes a node, with all that is in it if it is needed at once (`now`). A node that is needed at
once cannot be a part of itself. Every step inwards takes one unit of `fuel`. -/
def make : Nat → Bool → Nat → Maker Unit
  | 0, _, _ => throw .malformed
  | fuel + 1, now, n => do
    let m ← get
    unless m.isMade n do
      if m.around.contains n then throw .malformed
      if !(m.graph.kind n).isCollection then set (m.put n (.scalar (← scalarValue m.graph n)))
      else if now then
        set { m with around := n :: m.around }
        fill fuel true n
        modify fun m => { m with around := m.around.erase n }
      else set (m.begin n)

/-- Fills a collection. One that is not written as its kind asks for shows its fault only now. -/
def fill : Nat → Bool → Nat → Maker Unit
  | 0, _, _ => throw .malformed
  | fuel + 1, now, n => do
    let g := (← get).graph
    match g.kind n, g.content n with
    | .list, .sequence items =>
      items.forM (make fuel now)
      modify (·.put n (.list items))
    | .pairs, .sequence items =>
      let pairs ← items.mapM fun item => do
        match (← get).graph.content item with
        | .mapping [(k, v)] =>
          make fuel now k
          make fuel now v
          return (k, v)
        | _ => throw .malformed
      modify (·.put n (.pairs pairs))
    | kind, .mapping _ =>
      if kind != .mapping && kind != .members then throw .malformed
      let g ← g.merged n
      modify fun m => { m with graph := g }
      let entries ← (g.pairs n).mapM fun (k, v) => do
        make fuel true k
        let key ← madeKey (← get) k
        make fuel now v
        return (key, v)
      let entries := Assoc.ofList entries
      modify (·.put n (if kind = .mapping then .mapping entries else .members (entries.map (·.1))))
    | _, _ => throw .malformed

end

/-- Fills the collections that are begun until none is left. Each of them takes one unit of
`fuel`. -/
def fillAll : Nat → Maker Unit
  | 0 => return
  | fuel + 1 => do
    let m ← get
    match m.waiting with
    | [] => return
    | n :: rest =>
      set { m with waiting := rest }
      fill (2 * m.graph.size + 2) false n
      fillAll fuel

/-- A graph made into values, from its first node on. -/
def Graph.make (g : Graph) : Except Fault Making := do
  let ((), m) ← (do Yaml.make 1 false 0; fillAll (g.size + 1)).run (.ofGraph g)
  return m

/-! ## Values -/

/-- The order in which the members of a set come out, for the members as they are put in. A run has
one, and no text tells which. -/
structure SetOrder where
  arrange : List Key → List Key
  perm : ∀ keys, (arrange keys).Perm keys

/-- The members in the order of their texts. -/
def SetOrder.byText : SetOrder where
  arrange keys := keys.mergeSort fun a b => a.asText ≤ b.asText
  perm keys := List.mergeSort_perm keys _

instance : Inhabited SetOrder := ⟨.byText⟩

/-- The value that a node is made into, inside other ones. Values are finite here: a collection
inside itself, which an alias can make, has no such value, and the absent one stands for it where it
comes again. Every step inwards takes one unit of `fuel`. -/
def Making.value (order : SetOrder) : Nat → List Nat → Making → Nat → Value
  | 0, _, _, _ => .null
  | fuel + 1, around, m, n =>
    if around.contains n then .null
    else
      let inner := value order fuel (n :: around) m
      match m.madeOf n with
      | .nothing => .null
      | .begun => .null
      | .scalar v => v
      | .list items => .list (items.map inner)
      | .mapping entries => .map (entries.map fun (k, v) => (k.key, inner v))
      | .members keys => .set (order.arrange (keys.map (·.key)))
      | .pairs pairs => .list (pairs.map fun (k, v) => .tuple [inner k, inner v])

end ClientGen.Yaml
