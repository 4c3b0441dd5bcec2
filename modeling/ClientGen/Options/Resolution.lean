import ClientGen.Failure.Message
import ClientGen.Log
import ClientGen.Options.Configuration
import ClientGen.Options.Declaration

/-!
# Resolving options

[resolve] makes the configuration of a run from the declared options and the raw values. A declared
option takes the first value that is there under one of its spellings ([OptionDecl.supplied?]), or
its default. An option with modes always has exactly one of them: a word that names none leaves the
default and a warning ([OptionDecl.chosen]). Its value is written back as one switch for each mode
and each legacy name. Raw values without a declaration are passed on unchanged, unless they would
replace such a switch. A value that is asked for its text must have one ([OptionDecl.textFault?]).
[resolveRecords] tells what becomes of the raw values.
-/

namespace ClientGen

/-- Raw option values under the keys that the user wrote. -/
abbrev RawOptions := List (Key × Value)

/-! ## One option -/

namespace OptionDecl

/-- A raw value that is not absent. -/
def given? (raw : RawOptions) (name : String) : Option Value :=
  (raw.lookup (.text name)).filter (!·.isNull)

/-- The value for an option: under its own name, or else under the first other spelling. -/
def supplied? (o : OptionDecl) (raw : RawOptions) : Option Value :=
  o.spellings.findSome? (given? raw)

/-- The mode that a word names, in any case. -/
def mode? (o : OptionDecl) (word : String) : Option String :=
  let same (name : String) : Bool := Text.lower name == Text.lower word
  match o.choices.find? (same ·.1) with
  | some (mode, _) => some mode
  | none => (o.legacyModes.find? (same ·.1)).map (·.2)

/-- The warning about a word that names no mode. -/
def unknownMode (o : OptionDecl) (word : String) : String :=
  "Unknown value '" ++ word ++ "' for option '" ++ o.name ++ "' (expected one of: " ++
    ", ".intercalate (o.choices.map (·.1)) ++ "); using '" ++ o.default.asText ++ "'"

/-- The mode that is chosen by a value, and a warning if the value names none. -/
def chosen (o : OptionDecl) (supplied : Option Value) : Value × Option String :=
  match supplied with
  | none => (o.default, none)
  | some v =>
    let word := Text.trim v.asText
    match o.mode? word with
    | some mode => (.text mode, none)
    | none => (o.default, some (o.unknownMode word))

/-- Why a value for the option cannot be used. That of an option with modes is asked for the mode that
it names, and if it names none, the warning shows the default. -/
def valueFault? (o : OptionDecl) (v : Value) : Option TextFault :=
  match o.kind with
  | .boolean => switchFault? v
  | .text => v.textFault?
  | .modes => v.textFault?.or
      (if (o.mode? (Text.trim v.asText)).isSome then none else o.default.textFault?)

/-- Why the value that is there for the option cannot be used. -/
def textFault? (o : OptionDecl) (raw : RawOptions) : Option TextFault :=
  (o.supplied? raw).bind o.valueFault?

/-- Whether a mode is the chosen one. -/
def isChosen (mode : String) (chosen : Value) : Bool :=
  match chosen with
  | .text s => mode == s
  | _ => false

/-- The values with those of an option. -/
def record (o : OptionDecl) (raw : RawOptions) (values : List (String × Value)) :
    List (String × Value) :=
  let supplied := o.supplied? raw
  match o.kind with
  | .modes =>
    let (mode, _) := o.chosen supplied
    let values := Assoc.insert o.name mode values
    let values := o.choices.foldl
      (fun acc (name, _) => Assoc.insert name (.bool (isChosen name mode)) acc) values
    o.legacyModes.foldl
      (fun acc (name, target) => Assoc.insertNew name (.bool (isChosen target mode)) acc) values
  | .boolean =>
    Assoc.insert o.name (.bool ((supplied.map turnsOn).getD o.default.truth)) values
  | .text =>
    Assoc.insert o.name ((supplied.map fun v => .text v.asText).getD o.default) values

/-- The warning of an option. -/
def warning? (o : OptionDecl) (raw : RawOptions) : Option String :=
  match o.kind with
  | .modes => (o.chosen (o.supplied? raw)).2
  | _ => none

end OptionDecl

/-! ## All options -/

/-- The values of the declared options. -/
def declaredValues (options : List OptionDecl) (raw : RawOptions) : List (String × Value) :=
  options.foldl (fun values o => o.record raw values) []

/-- Whether a key is a spelling of a declared option. -/
def isDeclared (options : List OptionDecl) (key : String) : Bool :=
  options.any (·.spellings.contains key)

/-- What becomes of a raw value. -/
inductive RawFate where
  /-- It is the value of a declared option. -/
  | declared
  /-- It would replace a switch that is derived from modes. -/
  | ignored
  | passed
  deriving DecidableEq

/-- What becomes of the raw value at a key. -/
def rawFate (options : List OptionDecl) (values : List (String × Value)) (key : String) : RawFate :=
  if isDeclared options key then .declared
  else if Assoc.contains values key then .ignored
  else .passed

/-- The raw values that are passed on, under the keys that the user wrote. -/
def passedOn (options : List OptionDecl) (raw : RawOptions) (values : List (String × Value)) :
    RawOptions :=
  raw.filter fun (k, _) =>
    match k with
    | .text key => rawFate options values key = .passed
    | _ => true

/-- The values with those that are passed on under a text. -/
def withPassed (values : List (String × Value)) (passed : RawOptions) : List (String × Value) :=
  values ++ passed.filterMap fun (k, v) => k.text?.map (·, v)

/-- The text that a key spells, as itself or in bytes. -/
def spelledKey? : Key → Option String
  | .text s => some s
  | .bytes bs => Text.textOfBytes? bs
  | _ => none

/-- The values as a configuration keeps them, with those that are passed on. A key in bytes becomes
the text that it spells, and takes the place of a value that is there under this text. -/
def keptValues (values : List (String × Value)) (passed : RawOptions) : List (String × Value) :=
  passed.foldl (fun acc (k, v) =>
    match spelledKey? k with
    | some key => Assoc.insert key v acc
    | none => acc) values

/-- Why raw values cannot be resolved. -/
inductive ResolutionFault where
  /-- The text of a value is asked for, and it has none. -/
  | text (fault : TextFault)
  /-- The family of JSON annotations is a composite value. -/
  | compositeMode (kind : String)
  /-- There are keys that are not texts. -/
  | keys (faults : List Document.Fault)
  deriving Repr

/-- The message for a fault. -/
def ResolutionFault.message : ResolutionFault → Message
  | text fault => ⟨fault.words, .absent⟩
  | compositeMode kind => ⟨compositeModeText kind, .absent⟩
  | keys faults => ⟨"", .document faults⟩

/-- The family of JSON annotations that a value names; any other value names the first one. -/
def jsonMappingOf : Value → Except ResolutionFault JsonMapping
  | .text s => .ok (if s = JsonMapping.jsonb.name then .jsonb else .jackson)
  | v => if v.isComposite then .error (.compositeMode v.kindName) else .ok .jackson

/-- The first fault in the values for the declared options. -/
def suppliedFault? (options : List OptionDecl) (raw : RawOptions) : Option TextFault :=
  options.findSome? (·.textFault? raw)

/-- The options that a run reads as switches, in the order in which they are read. -/
def switchOptions : List String := [beanValidationOption, genericResponseOption,
  gzipForTestsOption, loggingForTestsOption, serializableModelOption]

/-- The first fault in what is known of the switches. -/
def switchesFault? (known : List (String × Value)) : Option TextFault :=
  switchOptions.findSome? fun name => (known.lookup name).bind switchFault?

/-- The faults of the keys that are not texts. -/
def keyFaults (raw : RawOptions) : List Document.Fault :=
  match (Document.mapping Document.anything (.map raw)).behind (.key "values") with
  | .sound _ => []
  | .faulty faults => faults

/-- The warnings of all options. -/
def optionWarnings (options : List OptionDecl) (raw : RawOptions) : List String :=
  options.filterMap (·.warning? raw)

/-- The configuration for raw values. -/
def resolve (options : List OptionDecl) (raw : RawOptions) :
    Except ResolutionFault Configuration := do
  (checkText (suppliedFault? options raw)).mapError .text
  let declared := declaredValues options raw
  let passed := passedOn options raw declared
  let known := withPassed declared passed
  let switch (name : String) : Bool := turnsOn ((known.lookup name).getD (.bool false))
  let mapping ← jsonMappingOf ((known.lookup jsonMappingOption).getD (.text "jackson"))
  (checkText (switchesFault? known)).mapError .text
  let faults := keyFaults raw
  if !faults.isEmpty then throw (.keys faults)
  return {
    values := keptValues declared passed
    beanValidation := switch beanValidationOption
    genericResponse := switch genericResponseOption
    gzipForTests := switch gzipForTestsOption
    loggingForTests := switch loggingForTestsOption
    jsonMapping := mapping
    serializableModel := switch serializableModelOption
    warnings := optionWarnings options raw }

/-! ## Records -/

/-- The record about a raw value. There is none about a key that has no text. -/
def fateRecord? (fate : RawFate) (key : Key) : Option Log.Record :=
  if key.textFault?.isSome then none
  else match fate with
    | .declared => none
    | .ignored =>
      some ⟨.debug, "clientforge.config",
        "Ignoring raw value for derived flag '" ++ key.asText ++ "'"⟩
    | .passed =>
      some ⟨.debug, "clientforge.config",
        "Passing through undeclared option '" ++ key.asText ++ "'"⟩

/-- What is told while options are resolved, up to the first value that cannot be used. -/
def resolveRecords (options : List OptionDecl) (raw : RawOptions) : List Log.Record :=
  let values := declaredValues options raw
  let used := options.takeWhile fun o => (o.textFault? raw).isNone
  let warned := (optionWarnings used raw).map fun w => ⟨.warning, "clientforge.config", w⟩
  warned ++
    if (suppliedFault? options raw).isSome then []
    else raw.filterMap fun (k, _) =>
      match k with
      | .text key => fateRecord? (rawFate options values key) k
      | _ => fateRecord? .passed k

end ClientGen
