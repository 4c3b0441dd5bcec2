import ClientGen.Java.Name
import ClientGen.Render.Interface

/-!
# The class of a model

A model is rendered as a Java class ([modelClass]): one field for each property with its
annotations, one enumeration for each property that allows certain values only, and methods to read
and write the fields. The values of a container are added one by one.
-/

namespace ClientGen.Render

open Client

/-! ## Enumerations -/

/-- The constants of an enumeration, the last of which ends with a semicolon. -/
def constantLines (baseType : String) : List String → Lines
  | [] => []
  | v :: rest =>
    ("    " ++ Java.constantName v ++ "(" ++ baseType ++ ".valueOf(\"" ++ Java.escapeText v ++
      "\"))" ++ (if rest.isEmpty then ";" else ",")) :: constantLines baseType rest

/-- The enumeration of a property. -/
def enumCode (p : Property) (mapping : JsonMapping) : Lines :=
  let name := p.enumName.getD ""
  let jackson := mapping == .jackson
  ["", "public enum " ++ name ++ " \x7b", ""] ++
  constantLines p.baseType p.allowed ++
  ["",
    "    private " ++ p.baseType ++ " value;",
    "",
    "    " ++ name ++ " (" ++ p.baseType ++ " v) \x7b",
    "        value = v;",
    "    \x7d",
    ""] ++
  linesIf jackson ["    @JsonValue"] ++
  ["    public " ++ p.baseType ++ " value() \x7b",
    "        return value;",
    "    \x7d",
    "",
    "    @Override",
    "    public String toString() \x7b",
    "        return String.valueOf(value);",
    "    \x7d",
    ""] ++
  linesIf jackson ["    @JsonCreator"] ++
  ["    public static " ++ name ++ " fromValue(String v) \x7b",
    "        for (" ++ name ++ " b : " ++ name ++ ".values()) \x7b",
    "            if (String.valueOf(b.value).equals(v)) \x7b",
    "                return b;",
    "            \x7d",
    "        \x7d",
    "        return null;",
    "    \x7d",
    "\x7d"]

/-! ## Fields -/

/-- The annotation for the name of a property in JSON. -/
def jsonNameCode (baseName : String) : JsonMapping → String
  | .jackson => "  @JsonProperty(\"" ++ baseName ++ "\")"
  | .jsonb => "  @JsonbProperty(\"" ++ baseName ++ "\")"

/-- What a field holds at first: an empty container, or nothing. -/
def initialValue : Option Api.Container → String
  | some .array => "new ArrayList<>()"
  | some .map => "new HashMap<>()"
  | none => "null"

/-- The field of a property, behind its enumeration if it has one. -/
def fieldCode (p : Property) (mapping : JsonMapping) : Lines :=
  (if p.isEnum then enumCode p mapping else []) ++
  [""] ++
  linesFor p.description (fun d => [" /**", "  * " ++ d, "  **/"]) ++
  [jsonNameCode p.baseName mapping] ++
  p.annotations.map (fun a => "  " ++ a.text) ++
  ["  private " ++ p.datatype ++ " " ++ p.name ++ " = " ++ initialValue p.container ++ ";"]

/-! ## Methods -/

/-- The name of the argument for one value of a container. -/
def itemName (p : Property) : String := Text.trimCharStart '_' p.name ++ "Item"

/-- The method that adds a value to a container. -/
def itemCode (classname : String) (p : Property) : Lines :=
  let type := p.enumName.getD p.baseType
  match p.container with
  | none => []
  | some .array =>
    ["",
      "  public " ++ classname ++ " add" ++ Text.camelize p.name ++ "Item(" ++ type ++ " " ++
        itemName p ++ ") \x7b",
      "    this." ++ p.name ++ ".add(" ++ itemName p ++ ");",
      "    return this;",
      "  \x7d"]
  | some .map =>
    ["",
      "  public " ++ classname ++ " put" ++ Text.camelize p.name ++ "Item(String key, " ++ type ++
        " " ++ itemName p ++ ") \x7b",
      "    this." ++ p.name ++ ".put(key, " ++ itemName p ++ ");",
      "    return this;",
      "  \x7d"]

/-- The methods that read and write a field. -/
def accessCode (classname : String) (p : Property) : Lines :=
  let described := if isThere p.description then p.description.getD "" else "Get " ++ p.name
  ["",
    " /**",
    "  * " ++ described,
    "  * @return " ++ p.name,
    "  **/",
    "  public " ++ p.datatype ++ " " ++ p.getter ++ "() \x7b",
    "    return " ++ p.name ++ ";",
    "  \x7d",
    "",
    "  public void " ++ p.setter ++ "(" ++ p.datatype ++ " " ++ p.name ++ ") \x7b",
    "    this." ++ p.name ++ " = " ++ p.name ++ ";",
    "  \x7d",
    "",
    "  public " ++ classname ++ " " ++ p.name ++ "(" ++ p.datatype ++ " " ++ p.name ++ ") \x7b",
    "    this." ++ p.name ++ " = " ++ p.name ++ ";",
    "    return this;",
    "  \x7d"] ++
  itemCode classname p

/-- The methods that show a model. -/
def showCode (m : Model) (inherits : Bool) : Lines :=
  ["",
    "",
    "  @Override",
    "  public String toString() \x7b",
    "    StringBuilder sb = new StringBuilder();",
    "    sb.append(\"class " ++ m.classname ++ " \x7b\\n\");"] ++
  linesIf inherits
    ["    sb.append(\"    \").append(toIndentedString(super.toString())).append(\"\\n\");"] ++
  m.properties.map (fun p =>
    "    sb.append(\"    " ++ p.name ++ ": \").append(toIndentedString(" ++ p.name ++
      ")).append(\"\\n\");") ++
  ["    sb.append(\"\x7d\");",
    "    return sb.toString();",
    "  \x7d",
    "",
    "  /**",
    "   * Convert the given object to string with each line indented by 4 spaces",
    "   * (except the first line).",
    "   */",
    "  private static String toIndentedString(java.lang.Object o) \x7b",
    "    if (o == null) \x7b",
    "      return \"null\";",
    "    \x7d",
    "    return o.toString().replace(\"\\n\", \"\\n    \");",
    "  \x7d"]

/-! ## The class -/

/-- The line that opens the class of a model. -/
def classHead (m : Model) (inherits serializable : Bool) : String :=
  "public class " ++ m.classname ++
    (if inherits then " extends " ++ m.parent.getD "" else "") ++
    (if serializable then " implements Serializable" else "") ++ " \x7b"

/-- The class of a model. -/
def modelClass (s : Setting) (m : Model) (imports : List String) (f : ModelFeatures) : Lines :=
  let inherits := isThere m.parent && s.supportsInheritance
  packageHead s.modelPackage imports ++
  [""] ++
  apiComment s ++
  linesFor m.description (fun d => ["/**", " * " ++ d, " */"]) ++
  [classHead m inherits f.serializable] ++
  linesIf f.serializable ["  private static final long serialVersionUID = 1L;"] ++
  m.properties.flatMap (fieldCode · f.jsonMapping) ++
  m.properties.flatMap (accessCode m.classname) ++
  showCode m inherits ++
  ["\x7d"]

end ClientGen.Render
