import ClientGen.Proofs.Names.Characters
import ClientGen.Render.ModelClass
import Mathlib.Data.List.Basic

/-!
# The annotations in a class

An annotation stands at the beginning of a line, and its short name can be read back from there
([annotationIn?]). The class of a model has, for each property, the annotations of its enumeration,
the one for its name in JSON and those for its constraints, and nothing but `Override` beside them
([annotationsIn_modelClass]). Lines that hold text of the description begin with a text of their own
that is no annotation ([OpensPlainly]), so what the description says does not matter.
-/

namespace ClientGen.Render

open Client

/-! ## Annotations of lines -/

/-- The short name of the annotation that a line begins with, behind spaces. -/
def annotationIn? (line : String) : Option String :=
  match line.toList.dropWhile (· == ' ') with
  | '@' :: rest => some <| Annotation.nameIn <| String.ofList ('@' :: rest)
  | _ => none

/-- The short names of the annotations that lines begin with, in their order. -/
def annotationsIn (lines : Lines) : List String := lines.filterMap annotationIn?

/-- Whether the first of some characters that is no space is there and begins no annotation. -/
def opensPlainly : List Char → Bool
  | [] => false
  | c :: rest => if c = ' ' then opensPlainly rest else c ≠ '@'

/-- Whether a line begins with something that is no annotation, whatever follows. -/
def OpensPlainly (line : String) : Prop := opensPlainly line.toList = true

instance (line : String) : Decidable (OpensPlainly line) :=
  inferInstanceAs (Decidable (opensPlainly line.toList = true))

theorem opensPlainly_append {cs : List Char} (h : opensPlainly cs = true) (ds : List Char) :
    opensPlainly (cs ++ ds) = true := by
  induction cs with
  | nil => cases h
  | cons c cs ih =>
    rw [opensPlainly] at h
    rw [List.cons_append, opensPlainly]
    split
    · next hc => exact ih (by rwa [if_pos hc] at h)
    · next hc => rwa [if_neg hc] at h

/-- Characters without the sign of an annotation in front change nothing. -/
theorem opensPlainly_prepend {cs : List Char} (hcs : '@' ∉ cs) {ds : List Char}
    (h : opensPlainly ds = true) : opensPlainly (cs ++ ds) = true := by
  induction cs with
  | nil => exact h
  | cons c cs ih =>
    rw [List.mem_cons, not_or] at hcs
    rw [List.cons_append, opensPlainly]
    split
    · exact ih hcs.2
    · exact decide_eq_true (Ne.symm hcs.1)

/-- What opens plainly begins with no annotation. -/
theorem annotationIn?_of_opensPlainly {line : String} (h : OpensPlainly line) :
    annotationIn? line = none := by
  unfold OpensPlainly at h
  unfold annotationIn?
  generalize line.toList = cs at h
  induction cs with
  | nil => cases h
  | cons c rest ih =>
    rw [opensPlainly] at h
    by_cases hc : c = ' '
    · rw [List.dropWhile_cons, if_pos (by simpa using hc)]
      rw [if_pos hc] at h
      exact ih h
    · rw [List.dropWhile_cons, if_neg (by simpa using hc)]
      rw [if_neg hc] at h
      split
      · next he => exact absurd (List.cons.inj he).1 (of_decide_eq_true h)
      · rfl

/-- A line whose beginning opens plainly begins with no annotation. -/
theorem annotationIn?_append {s : String} (h : OpensPlainly s) (t : String) :
    annotationIn? (s ++ t) = none := by
  refine annotationIn?_of_opensPlainly ?_
  rw [OpensPlainly, String.toList_append]
  exact opensPlainly_append h t.toList

/-- So does one that begins with a name and goes on plainly. -/
theorem annotationIn?_named {name : String} (hname : '@' ∉ name.toList) {indent s : String}
    (hindent : '@' ∉ indent.toList) (h : OpensPlainly s) (t : String) :
    annotationIn? (indent ++ (name ++ (s ++ t))) = none := by
  refine annotationIn?_of_opensPlainly ?_
  rw [OpensPlainly, String.toList_append, String.toList_append, String.toList_append]
  exact opensPlainly_prepend hindent (opensPlainly_prepend hname (opensPlainly_append h t.toList))

@[simp] theorem annotationIn?_empty : annotationIn? "" = none := rfl

/-- Of an annotation behind spaces the name up to the parenthesis is read. -/
theorem annotationIn?_of_toList {line : String} (n : Nat) (rest : List Char)
    (h : line.toList = List.replicate n ' ' ++ '@' :: rest) :
    annotationIn? line = some (String.ofList (rest.takeWhile (· != '('))) := by
  have hdrop : line.toList.dropWhile (· == ' ') = '@' :: rest := by
    rw [h, List.dropWhile_append_of_pos fun c hc => by simp [(List.mem_replicate.1 hc).2]]
    rfl
  unfold annotationIn?
  rw [hdrop]
  unfold Annotation.nameIn
  simp only [String.toList_ofList, List.drop_succ_cons, List.drop_zero]

/-- So is the name of one with arguments, whatever these are. -/
theorem annotationIn?_of_arguments {line name : String} (hname : '(' ∉ name.toList) (n : Nat)
    (rest : List Char)
    (h : line.toList = List.replicate n ' ' ++ '@' :: (name.toList ++ '(' :: rest)) :
    annotationIn? line = some name := by
  have hbefore : ∀ c ∈ name.toList, (c != '(') = true := fun c hc =>
    bne_iff_ne.2 fun heq => hname (heq ▸ hc)
  rw [annotationIn?_of_toList n _ h, List.takeWhile_append_of_pos hbefore]
  simp

/-- An annotation of a field is read back. -/
theorem annotationIn?_text (a : Annotation) : annotationIn? ("  " ++ a.text) = some a.name := by
  have htext : a.text.toList =
      '@' :: (a.name ++ (a.arguments?.map fun s => "(" ++ s ++ ")").getD "").toList := by
    unfold Annotation.text
    simp
  have hname := a.nameIn_text
  unfold Annotation.nameIn at hname
  rw [htext] at hname
  rw [annotationIn?_of_toList 2 _ (by rw [String.toList_append, htext]; rfl)]
  exact congrArg some hname

section
variable {α : Type}

@[simp] theorem annotationsIn_nil : annotationsIn [] = [] := rfl

@[simp] theorem annotationsIn_cons (line : String) (lines : Lines) :
    annotationsIn (line :: lines) = (annotationIn? line).toList ++ annotationsIn lines := by
  rw [annotationsIn, List.filterMap_cons]
  cases annotationIn? line <;> rfl

@[simp] theorem annotationsIn_append (a b : Lines) :
    annotationsIn (a ++ b) = annotationsIn a ++ annotationsIn b := List.filterMap_append

@[simp] theorem annotationsIn_flatMap (f : α → Lines) (items : List α) :
    annotationsIn (items.flatMap f) = items.flatMap fun x => annotationsIn (f x) :=
  List.filterMap_flatMap

@[simp] theorem annotationsIn_linesIf (condition : Bool) (lines : Lines) :
    annotationsIn (linesIf condition lines) = if condition then annotationsIn lines else [] := by
  cases condition <;> rfl

/-- Lines for a text have no annotations if they have none for any text. -/
theorem annotationsIn_linesFor {lines : String → Lines} (h : ∀ t, annotationsIn (lines t) = [])
    (s : Option String) : annotationsIn (linesFor s lines) = [] := by
  rw [linesFor, annotationsIn_linesIf, h, ite_self]

/-- Lines that are made alike have no annotations if one that is made so has none. -/
theorem annotationsIn_map_eq_nil {f : α → String} (h : ∀ x, annotationIn? (f x) = none)
    (items : List α) : annotationsIn (items.map f) = [] := by
  refine List.filterMap_eq_nil_iff.2 fun line hline => ?_
  obtain ⟨x, _, rfl⟩ := List.mem_map.1 hline
  exact h x

end

/-! ## Annotations of a class -/

/-- The annotations in the enumeration of a property. -/
def enumAnnotations : JsonMapping → List String
  | .jackson => ["JsonValue", "Override", "JsonCreator"]
  | .jsonb => ["Override"]

/-- The annotation for the name of a property in JSON. -/
def jsonNameTag : JsonMapping → String
  | .jackson => "JsonProperty"
  | .jsonb => "JsonbProperty"

/-- The annotations in the enumeration of a property, if it has one, and on its field. -/
def fieldAnnotations (mapping : JsonMapping) (p : Property) : List String :=
  (if p.isEnum then enumAnnotations mapping else []) ++
    jsonNameTag mapping :: importsFor p.annotations

theorem annotationsIn_packageHead (package : Value) (imports : List String) :
    annotationsIn (packageHead package imports) = [] := by
  have himports : annotationsIn (imports.map fun i => "import " ++ i ++ ";") = [] := by
    refine annotationsIn_map_eq_nil (fun i => ?_) imports
    rw [String.append_assoc]
    exact annotationIn?_append (by decide) _
  rw [packageHead, annotationsIn_append, himports]
  simp +decide [String.append_assoc, annotationIn?_append]

theorem annotationsIn_apiComment (s : Setting) : annotationsIn (apiComment s) = [] := by
  have hdescription : annotationsIn [" * " ++ s.appDescription] = [] := by
    simp +decide [annotationIn?_append]
  rw [apiComment, annotationsIn_append, annotationsIn_append, annotationsIn_linesIf, hdescription]
  simp +decide [String.append_assoc, annotationIn?_append, annotationIn?_of_opensPlainly]

/-- The constants of an enumeration begin with their names. -/
theorem annotationsIn_constantLines (baseType : String) (values : List String) :
    annotationsIn (constantLines baseType values) = [] := by
  induction values with
  | nil => rfl
  | cons v rest ih =>
    have hname : '@' ∉ (Java.constantName v).toList := by
      intro h
      exact absurd (Java.isNameChar_of_mem_constantName h) (by decide)
    rw [constantLines, annotationsIn, List.filterMap_cons, ← annotationsIn, ih]
    simp only [String.append_assoc]
    rw [annotationIn?_named hname (by decide) (by decide)]

/-- The annotations in the enumeration of a property whose name is no annotation. -/
theorem annotationsIn_enumCode {p : Property} (hp : '@' ∉ (p.enumName.getD "").toList)
    (mapping : JsonMapping) : annotationsIn (enumCode p mapping) = enumAnnotations mapping := by
  have hconstructor : annotationIn?
      ("    " ++ ((p.enumName.getD "") ++ (" (" ++ (p.baseType ++ " v) \x7b")))) = none :=
    annotationIn?_named hp (by decide) (by decide) _
  have hoverride : annotationIn? "    @Override" = some "Override" := by decide
  have hvalue : annotationIn? "    @JsonValue" = some "JsonValue" := by decide
  have hcreator : annotationIn? "    @JsonCreator" = some "JsonCreator" := by decide
  unfold enumCode
  cases mapping with
  | jackson =>
    simp +decide [annotationsIn_constantLines, String.append_assoc, annotationIn?_append,
      annotationIn?_of_opensPlainly, hconstructor, hoverride, hvalue, hcreator]
  | jsonb =>
    simp +decide [annotationsIn_constantLines, String.append_assoc, annotationIn?_append,
      annotationIn?_of_opensPlainly, hconstructor, hoverride]

/-- The annotation for the name of a property in its parts. -/
theorem jsonNameCode_eq (baseName : String) (mapping : JsonMapping) :
    jsonNameCode baseName mapping =
      "  @" ++ (jsonNameTag mapping ++ ("(\"" ++ (baseName ++ "\")"))) := by
  rw [← String.toList_inj]
  cases mapping with
  | jackson =>
    change ("  @JsonProperty(\"" ++ baseName ++ "\")").toList =
      ("  @" ++ ("JsonProperty" ++ ("(\"" ++ (baseName ++ "\")")))).toList
    simp only [String.toList_append, String.reduceToList, List.cons_append, List.nil_append]
  | jsonb =>
    change ("  @JsonbProperty(\"" ++ baseName ++ "\")").toList =
      ("  @" ++ ("JsonbProperty" ++ ("(\"" ++ (baseName ++ "\")")))).toList
    simp only [String.toList_append, String.reduceToList, List.cons_append, List.nil_append]

/-- It is read back, whatever the name is. -/
theorem annotationIn?_jsonNameCode (baseName : String) (mapping : JsonMapping) :
    annotationIn? (jsonNameCode baseName mapping) = some (jsonNameTag mapping) := by
  have hname : '(' ∉ (jsonNameTag mapping).toList := by
    cases mapping <;> decide
  refine annotationIn?_of_arguments hname 2 ('"' :: (baseName ++ "\")").toList) ?_
  rw [jsonNameCode_eq, String.toList_append, String.toList_append, String.toList_append]
  rfl

theorem annotationsIn_annotations (annotations : List Annotation) :
    annotationsIn (annotations.map fun a => "  " ++ a.text) = importsFor annotations := by
  rw [annotationsIn, List.filterMap_map, importsFor, ← List.filterMap_eq_map]
  exact congrArg (List.filterMap · annotations) (funext annotationIn?_text)

/-- The annotations of a property. -/
theorem annotationsIn_fieldCode {p : Property} (hp : '@' ∉ (p.enumName.getD "").toList)
    (mapping : JsonMapping) : annotationsIn (fieldCode p mapping) = fieldAnnotations mapping p := by
  have hdescription := annotationsIn_linesFor
    (fun d => (by simp +decide [annotationIn?_append, annotationIn?_of_opensPlainly] :
      annotationsIn [" /**", "  * " ++ d, "  **/"] = [])) p.description
  have henum : annotationsIn (if p.isEnum then enumCode p mapping else []) =
      if p.isEnum then enumAnnotations mapping else [] := by
    split
    · exact annotationsIn_enumCode hp mapping
    · rfl
  have hfield : annotationIn? ("  private " ++ p.datatype ++ " " ++ p.name ++ " = " ++
      initialValue p.container ++ ";") = none := by
    simp only [String.append_assoc]
    exact annotationIn?_append (by decide) _
  rw [fieldCode, fieldAnnotations]
  simp only [annotationsIn_append, henum, hdescription, annotationsIn_annotations]
  simp [annotationsIn, hfield, annotationIn?_jsonNameCode]

/-- Methods that add to a container have no annotations. -/
theorem annotationsIn_itemCode (classname : String) (p : Property) :
    annotationsIn (itemCode classname p) = [] := by
  unfold itemCode
  cases p.container with
  | none => rfl
  | some c =>
    cases c <;>
      simp +decide [String.append_assoc, annotationIn?_append, annotationIn?_of_opensPlainly]

/-- Methods that read and write a field have no annotations. -/
theorem annotationsIn_accessCode (classname : String) (p : Property) :
    annotationsIn (accessCode classname p) = [] := by
  rw [accessCode, annotationsIn_append, annotationsIn_itemCode]
  simp +decide [String.append_assoc, annotationIn?_append, annotationIn?_of_opensPlainly]

/-- One of the methods that show a model overrides an inherited one. -/
theorem annotationsIn_showCode (m : Model) (inherits : Bool) :
    annotationsIn (showCode m inherits) = ["Override"] := by
  have hshown : annotationsIn (m.properties.map fun p => "    sb.append(\"    " ++ p.name ++
      ": \").append(toIndentedString(" ++ p.name ++ ")).append(\"\\n\");") = [] := by
    refine annotationsIn_map_eq_nil (fun p => ?_) m.properties
    simp only [String.append_assoc]
    exact annotationIn?_append (by decide) _
  have hoverride : annotationIn? "  @Override" = some "Override" := by decide
  unfold showCode
  simp only [annotationsIn_append, hshown]
  simp +decide [String.append_assoc, annotationIn?_append, annotationIn?_of_opensPlainly, hoverride]

/-- The annotations of a class are those of its properties, and one on the method that shows it. -/
theorem annotationsIn_modelClass (s : Setting) {m : Model}
    (hm : ∀ p ∈ m.properties, '@' ∉ (p.enumName.getD "").toList) (imports : List String)
    (f : ModelFeatures) :
    annotationsIn (modelClass s m imports f) =
      m.properties.flatMap (fieldAnnotations f.jsonMapping) ++ ["Override"] := by
  have hhead : annotationIn? (classHead m (isThere m.parent && s.supportsInheritance)
      f.serializable) = none := by
    simp only [classHead, String.append_assoc]
    exact annotationIn?_append (by decide) _
  have hdescription := annotationsIn_linesFor
    (fun d => (by simp +decide [annotationIn?_append, annotationIn?_of_opensPlainly] :
      annotationsIn ["/**", " * " ++ d, " */"] = [])) m.description
  have hfields : annotationsIn (m.properties.flatMap (fieldCode · f.jsonMapping)) =
      m.properties.flatMap (fieldAnnotations f.jsonMapping) := by
    rw [annotationsIn_flatMap]
    exact List.flatMap_congr fun p hp => annotationsIn_fieldCode (hm p hp) f.jsonMapping
  have haccess : annotationsIn (m.properties.flatMap (accessCode m.classname)) = [] := by
    rw [annotationsIn_flatMap]
    exact List.flatMap_eq_nil_iff.2 fun p _ => annotationsIn_accessCode m.classname p
  rw [modelClass]
  simp only [annotationsIn_append, annotationsIn_packageHead, annotationsIn_apiComment,
    hdescription, annotationsIn_linesIf, hfields, haccess, annotationsIn_showCode]
  simp +decide [hhead, annotationIn?_of_opensPlainly]

end ClientGen.Render
