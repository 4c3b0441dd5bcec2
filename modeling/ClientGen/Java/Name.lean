import ClientGen.Text.DigitTable
import ClientGen.Text.Word

/-!
# Java names

The names of the generated Java code: classes in camel case with a capital, members and parameters
with a small letter, constants in capitals. A name that would start with a digit is put behind an
underscore or a word, and so is a reserved word ([escapeReserved]). Operations are grouped by the
spelling of their tags that [tagKey] gives.
-/

namespace ClientGen.Java

/-- The words that cannot be names, with some that the generated code uses itself. -/
def reservedWords : List String := [
  "abstract", "assert", "boolean", "break", "byte", "case", "catch", "char",
  "class", "const", "continue", "default", "do", "double", "else", "enum",
  "extends", "false", "final", "finally", "float", "for", "goto", "if",
  "implements", "import", "instanceof", "int", "interface", "long", "native",
  "new", "null", "package", "private", "protected", "public", "return",
  "short", "static", "strictfp", "super", "switch", "synchronized", "this",
  "throw", "throws", "transient", "true", "try", "void", "volatile", "while",
  "localVarPath", "object", "list", "file"]

/-- Whether a name is a reserved word. -/
def isReserved (name : String) : Bool :=
  reservedWords.contains name

/-- Whether a name starts with a digit of any script. -/
def startsWithDigit (name : String) : Bool :=
  match name.toList with
  | [] => false
  | c :: _ => Text.isDigit c

/-- The name, or the given one if it is empty. -/
def orElse (name other : String) : String :=
  if name = "" then other else name

/-- The name, behind an underscore if it is a reserved word in whatever case. -/
def escapeReserved (name : String) : String :=
  if isReserved name || isReserved (Text.lower name) then "_" ++ name else name

/-- The name of a field or a local variable. A name all in capitals is written small. -/
def variableName (raw : String) : String :=
  let name :=
    if Text.isUpperText raw && !raw.toList.contains '_' then Text.lower raw
    else orElse (Text.lowerCamelize raw) "value"
  escapeReserved (if startsWithDigit name then "_" ++ name else name)

/-- The name of a method parameter. -/
def parameterName (raw : String) : String := variableName raw

/-- The name of the class of a schema. -/
def modelName (raw : String) : String :=
  let name := orElse (Text.camelize raw) "Model"
  let name := if startsWithDigit name then "Model" ++ name else name
  if isReserved (Text.lower name) then "Model" ++ name else name

/-- The name of the interface of a group of operations. -/
def apiName (tag : String) : String :=
  if tag = "" then "DefaultApi" else Text.camelize tag ++ "Api"

/-- The name of the method of an operation. -/
def operationName (raw : String) : String :=
  let name := orElse (Text.lowerCamelize raw) "call"
  escapeReserved (if startsWithDigit name then "call" ++ Text.camelize name else name)

/-- The group of a tag: its runs of letters and digits, joined by underscores. -/
def tagKey (tag : String) : String :=
  orElse (String.ofList (['_'].intercalate (Text.runs tag.toList))) "default"

/-- The name of the method that reads a field. Underscores at its start are no part of a word. -/
def getterName (field datatype : String) : String :=
  (if datatype = "boolean" then "is" else "get") ++ Text.camelize field

/-- The name of the method that writes a field. -/
def setterName (field : String) : String :=
  "set" ++ Text.camelize field

/-- The name of the constant for a value of an enumeration. -/
def constantName (value : String) : String :=
  let name := Text.upper (Text.underscore value)
  if name = "" then "EMPTY" else if startsWithDigit name then "_" ++ name else name

end ClientGen.Java
