import ClientGen.Client.Basic
import ClientGen.Java.Literal
import ClientGen.Value.Display

/-!
# Validation annotations

[annotationsFor] turns the constraints of a property or parameter into annotations, in the order in
which they are written, and [Annotation.text] writes one. It can be written if its bounds have texts
([Annotation.textFault?]). The short name of an annotation can be read back from its text
([Annotation.nameIn_text]), whatever stands between its parentheses.
-/

namespace ClientGen.Client

open Api

namespace Annotation

/-- The short name of an annotation. -/
def name : Annotation → String
  | notNull => "NotNull"
  | valid => "Valid"
  | size .. => "Size"
  | pattern _ => "Pattern"
  | decimalMin .. => "DecimalMin"
  | decimalMax .. => "DecimalMax"

/-- The short names of all annotations. -/
def names : List String := ["NotNull", "Valid", "Size", "Pattern", "DecimalMin", "DecimalMax"]

/-- A bound as it is written in code. A whole number needs no fraction. -/
def boundText : Number → String
  | .int n => toString n
  | .double d =>
    match d.toInt? with
    | some n => toString n
    | none => d.text Double.plainLayout

/-- The arguments of a bound. -/
def boundArguments (bound : Number) (exclusive : Bool) : String :=
  let quoted := "\"" ++ boundText bound ++ "\""
  if exclusive then "value=" ++ quoted ++ ", inclusive=false" else quoted

/-- The arguments of bounds for a size. -/
def sizeArguments (least greatest : Option Int) : String :=
  ",".intercalate ((least.map fun n => "min=" ++ toString n).toList ++
    (greatest.map fun n => "max=" ++ toString n).toList)

/-- What stands between the parentheses of an annotation, if it has any. -/
def arguments? : Annotation → Option String
  | notNull => none
  | valid => none
  | size least greatest => some (sizeArguments least greatest)
  | pattern p => some ("regexp=\"" ++ Java.escapeQuotes p ++ "\"")
  | decimalMin bound exclusive => some (boundArguments bound exclusive)
  | decimalMax bound exclusive => some (boundArguments bound exclusive)

/-- An annotation as it is written in code. -/
def text (a : Annotation) : String :=
  "@" ++ a.name ++ (a.arguments?.map fun s => "(" ++ s ++ ")").getD ""

/-- Why a bound cannot be written, if it cannot. -/
def boundFault? : Number → Option TextFault
  | .int n => integerFault? n
  | .double _ => none

/-- Why an annotation cannot be written, if it cannot. -/
def textFault? : Annotation → Option TextFault
  | size least greatest => (least.bind integerFault?).or (greatest.bind integerFault?)
  | decimalMin bound _ => boundFault? bound
  | decimalMax bound _ => boundFault? bound
  | _ => none

/-- It can only be that a bound is too long. -/
theorem textFault?_cases (a : Annotation) :
    a.textFault? = none ∨ a.textFault? = some .longInteger := by
  have hbound (bound : Number) : boundFault? bound = none ∨ boundFault? bound = some .longInteger :=
    match bound with
    | .int n => integerFault?_cases n
    | .double _ => .inl rfl
  have hsize (bound : Option Int) :
      bound.bind integerFault? = none ∨ bound.bind integerFault? = some .longInteger :=
    match bound with
    | some n => integerFault?_cases n
    | none => .inl rfl
  cases a with
  | size least greatest =>
    rw [textFault?]
    rcases hsize least with h | h
    · rw [h]
      exact hsize greatest
    · exact .inr (by rw [h]; rfl)
  | decimalMin bound _ => exact hbound bound
  | decimalMax bound _ => exact hbound bound
  | _ => exact .inl rfl

/-- The short name in the text of an annotation. -/
def nameIn (text : String) : String :=
  String.ofList ((text.toList.drop 1).takeWhile (· != '('))

/-- The short name is read back from the text. -/
theorem nameIn_text (a : Annotation) : nameIn a.text = a.name := by
  have shown (n : String) (rest : String) (hn : ∀ c ∈ n.toList, (c != '(') = true)
      (hr : rest = "" ∨ ∃ s, rest = "(" ++ s) : nameIn ("@" ++ n ++ rest) = n := by
    have : rest.toList.takeWhile (· != '(') = [] := by
      rcases hr with rfl | ⟨s, rfl⟩ <;> simp
    simp [nameIn, List.takeWhile_append_of_pos hn, this]
  refine shown a.name _ ?_ ?_
  · cases a <;> simp [name]
  · cases h : a.arguments? with
    | none => exact .inl rfl
    | some s => exact .inr ⟨s ++ ")", by simp [String.append_assoc]⟩

end Annotation

/-- The annotation for bounds of a size, if there are any. -/
def sizeAnnotation? (least greatest : Option Int) : Option Annotation :=
  if least.isNone && greatest.isNone then none else some (.size least greatest)

/-- The annotations for constraints, in the order in which they are written. A model is validated in
its turn. -/
def annotationsFor (c : Constraints) (required isModel : Bool) : List Annotation :=
  (if required then [.notNull] else []) ++
    (if isModel then [.valid] else []) ++
    (sizeAnnotation? c.minLength c.maxLength).toList ++
    (sizeAnnotation? c.minItems c.maxItems).toList ++
    (c.pattern.map .pattern).toList ++
    (c.minimum.map (.decimalMin · c.exclusiveMinimum)).toList ++
    (c.maximum.map (.decimalMax · c.exclusiveMaximum)).toList

/-- The texts of annotations, if all of them can be written. -/
def annotationTexts (annotations : List Annotation) : Except TextFault (List String) :=
  match annotations.findSome? (·.textFault?) with
  | some fault => .error fault
  | none => .ok (annotations.map (·.text))

/-- The short names that are imported for annotations. -/
def importsFor (annotations : List Annotation) : List String := annotations.map (·.name)

end ClientGen.Client
