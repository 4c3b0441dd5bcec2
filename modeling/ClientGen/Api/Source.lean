import ClientGen.Api.Reader
import ClientGen.Failure.Message
import ClientGen.Http.ContentType
import ClientGen.Http.Url
import ClientGen.Options.Raw

/-!
# Where an API description comes from

A description is read from a file, from the standard input or over HTTP ([load]). Its text is tried
as JSON first and then as YAML, unless it is known to be one of them ([parseContent]); either way it
has to hold a mapping.
-/

namespace ClientGen.Api

open Files

/-! ## Texts -/

/-- What is known about the format of a text. -/
inductive Format where
  | json
  | yaml
  | unknown
  deriving DecidableEq, Repr

/-- What can be wrong with the text of a description. -/
inductive ContentFault where
  | invalidJson (fault : Json.Fault)
  /-- Neither format fits; JSON may not have been tried. -/
  | unreadable (json : Option Json.Fault)
  | notMapping (kind : String)
  /-- A part of the text has no value. -/
  | reading (fault : ReadingFault)
  deriving Repr

/-- The message for a fault of a text. -/
def ContentFault.message : ContentFault → Message
  | invalidJson fault => ⟨"Invalid JSON: " ++ fault.message, .absent⟩
  | unreadable json =>
    let tried := (json.map fun f => "\n  JSON error: " ++ f.message).getD ""
    ⟨"Failed to parse API description as JSON or YAML" ++ tried ++ "\n  YAML error: ", .yaml⟩
  | notMapping kind =>
    ⟨"API description must be a JSON/YAML object (got " ++ kind ++ ")", .absent⟩
  | reading fault => ⟨fault.words, .absent⟩

/-- The document in a text that is not read as JSON. -/
def parseYaml (order : Yaml.SetOrder) (json : Option Json.Fault) (text : String) :
    Except ContentFault Value :=
  match Yaml.read order text with
  | .error .malformed => .error (.unreadable json)
  | .error (.reading fault) => .error (.reading fault)
  | .ok .null => .error (.notMapping "empty document")
  | .ok (.map entries) => .ok (.map entries)
  | .ok v => .error (.notMapping v.kindName)

/-- The document in a text. -/
def parseContent (order : Yaml.SetOrder) (format : Format) (text : String) :
    Except ContentFault Value :=
  if format = .yaml then parseYaml order none text
  else match Json.read text with
    | .ok (.map entries) => .ok (.map entries)
    | .ok v => .error (.notMapping v.kindName)
    | .error fault =>
      match fault.reading? with
      | some fault => .error (.reading fault)
      | none =>
        if format = .json then .error (.invalidJson fault) else parseYaml order (some fault) text

/-! ## Sources -/

/-- What comes back from a request over HTTP. -/
inductive Fetched where
  | response (status : Nat) (contentType : String) (body : ByteArray)
  | failed (reason : String)

/-- Why a description cannot be loaded. -/
inductive LoadFault where
  | content (fault : ContentFault)
  | invalid (origin : String) (faults : List Document.Fault)
  | noInput
  | absent (path : String)
  | unfindable (path : LongPath)
  | empty (path : String)
  | status (code : Nat) (url : String)
  | request (url reason : String)
  | badUrl (fault : Http.UrlFault)
  /-- The charset of a response does not read its bytes. -/
  | charset (fault : Text.CharsetFault)
  | undecodable (fault : Text.Utf8Fault)
  deriving Repr

/-- The message for a fault. -/
def LoadFault.message : LoadFault → Message
  | content fault => fault.message
  | invalid origin faults => ⟨"Invalid API description from " ++ origin ++ ":\n", .document faults⟩
  | noInput => ⟨"No input received from stdin", .absent⟩
  | absent path => ⟨"API description not found: " ++ path, .absent⟩
  | unfindable path => path.message
  | empty path => ⟨"API description is empty: " ++ path, .absent⟩
  | status code url =>
    ⟨"HTTP " ++ toString code ++ " fetching API description from " ++ url, .absent⟩
  | request url reason =>
    ⟨"Failed to fetch API description from " ++ url ++ ": " ++ reason, .absent⟩
  | badUrl fault => ⟨fault.words, .absent⟩
  | charset fault => ⟨fault.words, .absent⟩
  | undecodable fault => ⟨fault.message, .absent⟩

/-- A document as a description. -/
def parseDescription (origin : String) (document : Value) : Except LoadFault Description :=
  (readDescription document).toExcept.mapError (.invalid origin)

/-- The document in the standard input. -/
def loadInput (order : Yaml.SetOrder) (input : String) : Except LoadFault Value :=
  if Text.isBlankText input then .error .noInput
  else (parseContent order .unknown input).mapError .content

/-- The format that the name of a file tells. -/
def formatOfPath (p : Path) : Format :=
  let ending := Text.lower p.ending
  if ending = ".json" then .json
  else if ending = ".yaml" || ending = ".yml" then .yaml
  else .unknown

/-- The document in a file. -/
def loadFile (order : Yaml.SetOrder) (tree : FileTree) (start : Place) (source : String) :
    Except LoadFault Value := do
  match ← (tree.findFile start (Path.ofText source)).mapError .unfindable with
  | none => throw (.absent source)
  | some bytes =>
    let text ← (fileText bytes).mapError .undecodable
    if Text.isBlankText text then throw (.empty source)
    (parseContent order (formatOfPath (Path.ofText source)) text).mapError .content

/-- The format that the type of a response tells. -/
def formatOfType (contentType : String) : Format :=
  if Text.contains contentType "json" then .json
  else if Text.contains contentType "yaml" || Text.contains contentType "yml" then .yaml
  else .unknown

/-- The document in a response. -/
def loadResponse (order : Yaml.SetOrder) (url : String) : Fetched → Except LoadFault Value
  | .failed reason => .error (.request url reason)
  | .response status contentType body =>
    if 200 ≤ status && status ≤ 299 then do
      let text ← ((Http.charsetOf contentType).bind (·.text body)).mapError .charset
      (parseContent order (formatOfType contentType) text).mapError .content
    else .error (.status status url)

/-- The document behind a URL, which is asked for only if nothing is wrong with the URL. -/
def loadUrl (order : Yaml.SetOrder) (fetch : String → Fetched) (url : String) :
    Except LoadFault Value :=
  match Http.urlFault? url with
  | some fault => .error (.badUrl fault)
  | none => loadResponse order url (fetch url)

/-- Whether a source is fetched over HTTP. -/
def isUrl (source : String) : Bool :=
  Text.startsWith source "http://" || Text.startsWith source "https://"

/-- The description of a source; a dash is the standard input. -/
def load (order : Yaml.SetOrder) (tree : FileTree) (start : Place) (input : String)
    (fetch : String → Fetched) (source : String) : Except LoadFault Description := do
  let document ←
    if source = "-" then loadInput order input
    else if isUrl source then loadUrl order fetch source
    else loadFile order tree start source
  parseDescription source document

end ClientGen.Api
