import ClientGen.Text.Order
import ClientGen.Value.Basic

/-!
# Typed data as documents

The other way of a reader: [toDocument] gives typed data as a document value. A record becomes a
mapping of its fields ([record]), what is absent becomes the absent value, and a pair or a set a
list. Inside this namespace data stands for its document wherever a value is asked for.
-/

namespace ClientGen.Document

/-- The types whose data can be given as documents. -/
class ToDocument (α : Type) where
  toDocument : α → Value

export ToDocument (toDocument)

/-- Data stands for its document. -/
scoped instance {α : Type} [ToDocument α] : CoeOut α Value := ⟨toDocument⟩

/-- A mapping of named fields. -/
def fields (fs : List (String × Value)) : Value := .map (fs.map fun (name, v) => (.text name, v))

instance : ToDocument Value := ⟨id⟩

instance : ToDocument String := ⟨.text⟩

instance : ToDocument Bool := ⟨.bool⟩

instance : ToDocument Int := ⟨.int⟩

instance : ToDocument Nat := ⟨fun n => .int n⟩

instance : ToDocument Number := ⟨fun
  | .int n => .int n
  | .double d => .double d⟩

instance {α : Type} [ToDocument α] : ToDocument (Option α) :=
  ⟨fun a => (a.map toDocument).getD .null⟩

instance {α : Type} [ToDocument α] : ToDocument (List α) := ⟨fun as => .list (as.map toDocument)⟩

instance {α β : Type} [ToDocument α] [ToDocument β] : ToDocument (α × β) :=
  ⟨fun p => .list [toDocument p.1, toDocument p.2]⟩

instance : ToDocument NameSet := ⟨fun names => toDocument names.toList⟩

end ClientGen.Document
