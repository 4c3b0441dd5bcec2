import ClientGen.Document.Fault
import ClientGen.Files.Writer
import ClientGen.Value.Display

/-!
# Error messages

A [Message] is a headline and, for some causes, a detail: the faults of a document, that a text is
no YAML, or what keeps a file from being written.
-/

namespace ClientGen

/-- What a message ends with. -/
inductive Detail where
  | absent
  | document (faults : List Document.Fault)
  | yaml
  | obstacle (o : Files.Obstacle)
  deriving Repr

/-- The text of a step into a document. -/
def Document.Step.text : Document.Step → String
  | .key name => name
  | .item index => toString index

/-- The text of a fault: its place, and its message in a line of its own. -/
def Document.Fault.text (f : Document.Fault) : String :=
  ".".intercalate (f.path.map (·.text)) ++ "\n  " ++ f.kind.message

/-- The text of a detail. -/
def Detail.text : Detail → String
  | absent => ""
  | document faults => "\n".intercalate (faults.map (·.text))
  | yaml => "the text is not a YAML document"
  | obstacle o => o.words

/-- An error message. -/
structure Message where
  headline : String
  detail : Detail := .absent
  deriving Repr

/-- The text of a message. -/
def Message.text (m : Message) : String := m.headline ++ m.detail.text

/-- The message for a path that is too long. -/
def Files.LongPath.message (p : Files.LongPath) : Message :=
  ⟨"[Errno 36] File name too long: " ++ quoted p.path.text, .absent⟩

open Files in
/-- The message for a file that cannot be written. -/
def Files.WriteFault.message : WriteFault → Message
  | outside path => ⟨"Refusing to write outside the output directory: " ++ path, .absent⟩
  | blocked target o => ⟨"Cannot write " ++ placeText target ++ ": ", .obstacle o⟩
  | unfindable path => path.message
  | nullCharacter => ⟨"embedded null byte", .absent⟩

end ClientGen
