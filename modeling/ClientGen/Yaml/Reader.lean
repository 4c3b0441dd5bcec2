import ClientGen.Yaml.Made

/-!
# Reading YAML

[read] turns a text into a value, or says why there is none: its tokens are put together to a tree,
with its aliases the tree is a graph, and the nodes of the graph are made into values. Of two pairs
of a mapping with one key the later decides the value. A text without a document is the absent
value. The members of a set come in an order of the run.
-/

namespace ClientGen.Yaml

/-- The value of a YAML text, or why there is none. -/
def read (order : SetOrder) (text : String) : Except Fault Value := do
  match ← Node.ofTokens (tokens text.toList) with
  | none => return .null
  | some node =>
    let m ← (Graph.ofNode node).make
    return m.value order (m.graph.size + 1) [] 0

end ClientGen.Yaml
