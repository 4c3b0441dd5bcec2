import ClientGen.Value.Fault

/-!
# Faults of a YAML text

A text may be no YAML document, or a part of it may have no value. The two are told apart, because
only the first is something that a run provides for.
-/

namespace ClientGen.Yaml

/-- Why a text has no value. -/
inductive Fault where
  /-- It is no YAML document that can be read. -/
  | malformed
  | reading (fault : ReadingFault)
  deriving DecidableEq, Repr

/-- What is found, without which a text is no YAML document. -/
def orMalformed {α : Type} : Option α → Except Fault α
  | some a => .ok a
  | none => .error .malformed

end ClientGen.Yaml
