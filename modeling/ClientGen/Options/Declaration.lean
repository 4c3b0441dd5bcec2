import ClientGen.Document.Reader

/-!
# Declared options

An option of a backend has a name, which may be spelled in other ways ([OptionDecl.aliases]), and a
default. It is a switch, a text, or one of several modes that exclude each other; a mode may have a
legacy name. [OptionDecl.modes?] makes sure that the default mode is one of the modes.
-/

namespace ClientGen

/-- What the values of an option are. -/
inductive OptionKind where
  | boolean
  | text
  | modes
  deriving DecidableEq, Repr, Inhabited

/-- Every kind. -/
def OptionKind.all : List OptionKind := [.boolean, .text, .modes]

/-- The name of a kind. -/
def OptionKind.name : OptionKind → String
  | .boolean => "boolean"
  | .text => "string"
  | .modes => "enum"

/-- A declared option. -/
structure OptionDecl where
  name : String
  description : String := ""
  kind : OptionKind := .text
  default : Value := .null
  /-- The modes with what they are for. -/
  choices : List (String × String) := []
  aliases : List String := []
  /-- The legacy names of modes with the modes they stand for. -/
  legacyModes : List (String × String) := []
  deriving Repr, Inhabited

/-- The words about a composite value where a mode is asked for. -/
def compositeModeText (kind : String) : String := "unhashable type: '" ++ kind ++ "'"

/-- What can be wrong with the default of an option with modes. -/
inductive ModeFault where
  /-- It is none of the modes. -/
  | undeclared (mode : Value) (option : String)
  /-- It is a composite value. -/
  | composite (kind : String)
  /-- It is none of the modes, and has no text. -/
  | text (fault : TextFault)
  deriving Repr

/-- The message for a fault. -/
def ModeFault.message : ModeFault → String
  | .undeclared mode option =>
    "Default mode '" ++ mode.asText ++ "' of option '" ++ option ++ "' is not a declared choice"
  | .composite kind => compositeModeText kind
  | .text fault => fault.words

namespace OptionDecl

/-- Whether a value is the name of a mode. -/
def declares (choices : List (String × String)) (mode : Value) : Bool :=
  match mode with
  | .text s => choices.any (·.1 == s)
  | _ => false

/-- A switch. -/
def boolean (name description : String) (default : Bool) (aliases : List String) : OptionDecl where
  name := name
  description := description
  kind := .boolean
  default := .bool default
  aliases := aliases

/-- A text. -/
def text (name description default : String) (aliases : List String) : OptionDecl where
  name := name
  description := description
  kind := .text
  default := .text default
  aliases := aliases

/-- An option with modes, if the default is one of them. -/
def modes? (o : OptionDecl) : Except ModeFault OptionDecl :=
  if o.default.isComposite then .error (.composite o.default.kindName)
  else if declares o.choices o.default then .ok { o with kind := .modes }
  else match o.default.textFault? with
    | some fault => .error (.text fault)
    | none => .error (.undeclared o.default o.name)

/-- The names under which the option may be set, its own first. -/
def spellings (o : OptionDecl) : List String := o.name :: o.aliases

open Document in
/-- A declaration that is given as a document. -/
def read : Reader OptionDecl := record "CliOption" fun o =>
  OptionDecl.mk
    <$> required o "name" Document.text
    <*> optional o "description" "" Document.text
    <*> optional o "type" .text (member OptionKind.all OptionKind.name)
    <*> optional o "default" .null anything
    <*> optional o "choices" [] (mapping Document.text)
    <*> optional o "aliases" [] (tuple Document.text)
    <*> optional o "choice_aliases" [] (mapping Document.text)

end OptionDecl

end ClientGen
