import ClientGen.Client.ModelHooks
import ClientGen.Client.OperationHooks
import ClientGen.Proofs.Imports.Models

/-!
# Annotations that validate

Constraints ask for annotations of some kinds, in a fixed order ([kinds]). Those that are asked for
are written if no bound is too long for it ([exists_texts_annotationsFor_iff]), and their names are
read back from what is written, whatever patterns and bounds stand in it
([annotationsTold_annotationsFor]). Bounds on the length of a text and bounds on the number of items
ask for annotations of one kind, so no kind comes twice just if at most one of them is there. The
hooks give such annotations to every property and parameter, and import their names
([distinct_annotations_iff]).
-/

namespace ClientGen

/-- Whether the length of a text is bounded. -/
def Api.Constraints.boundsLength (c : Api.Constraints) : Bool :=
  c.minLength.isSome || c.maxLength.isSome

/-- Whether the number of items is bounded. -/
def Api.Constraints.boundsItems (c : Api.Constraints) : Bool :=
  c.minItems.isSome || c.maxItems.isSome

/-- A bound that is a whole number. -/
def Number.int? : Number → Option Int
  | .int n => some n
  | .double _ => none

/-- The bounds that are whole numbers. -/
def Api.Constraints.wholeBounds (c : Api.Constraints) : List Int :=
  c.minLength.toList ++ c.maxLength.toList ++ (c.minItems.toList ++ c.maxItems.toList) ++
    ((c.minimum.bind (·.int?)).toList ++ (c.maximum.bind (·.int?)).toList)

namespace Client

/-! ## What constraints ask for -/

/-- The names of annotations in the order in which they are written, each with whether it is asked
for. The two bounds of a size share one annotation, but there are two sizes. -/
def kinds (c : Api.Constraints) (required isModel : Bool) : List (Bool × String) := [
  (required, "NotNull"),
  (isModel, "Valid"),
  (c.boundsLength, "Size"),
  (c.boundsItems, "Size"),
  (c.pattern.isSome, "Pattern"),
  (c.minimum.isSome, "DecimalMin"),
  (c.maximum.isSome, "DecimalMax")]

/-- Whether constraints ask for an annotation of some name. -/
def Asks (c : Api.Constraints) (required isModel : Bool) (name : String) : Prop :=
  (true, name) ∈ kinds c required isModel

instance (c : Api.Constraints) (required isModel : Bool) (name : String) :
    Decidable (Asks c required isModel name) :=
  inferInstanceAs (Decidable (_ ∈ _))

section
variable {c : Api.Constraints} {required isModel : Bool}

theorem importsFor_append (as bs : List Annotation) :
    importsFor (as ++ bs) = importsFor as ++ importsFor bs := List.map_append

/-- A kind that is asked for is the one annotation of its name. -/
theorem importsFor_toList_map {α : Type} (o : Option α) (make : α → Annotation) {name : String}
    (hname : ∀ a, (make a).name = name) :
    importsFor (o.map make).toList = if o.isSome then [name] else [] := by
  cases o with
  | none => rfl
  | some a => exact congrArg (fun n => [n]) (hname a)

theorem importsFor_sizeAnnotation? (least greatest : Option Int) :
    importsFor (sizeAnnotation? least greatest).toList =
      if least.isSome || greatest.isSome then ["Size"] else [] := by
  cases least <;> cases greatest <;> rfl

/-- The names of the annotations are those that are asked for, in their order. -/
theorem importsFor_annotationsFor :
    importsFor (annotationsFor c required isModel) =
      ((kinds c required isModel).filter (·.1)).map (·.2) := by
  have hrequired : importsFor (if required then [.notNull] else []) =
      if required then ["NotNull"] else [] := by
    cases required <;> rfl
  have hmodel : importsFor (if isModel then [.valid] else []) =
      if isModel then ["Valid"] else [] := by
    cases isModel <;> rfl
  have hasked (asked : Bool) (name : String) (rest : List (Bool × String)) :
      (((asked, name) :: rest).filter (·.1)).map (·.2) =
        (if asked then [name] else []) ++ (rest.filter (·.1)).map (·.2) := by
    cases asked <;> rfl
  rw [annotationsFor]
  simp only [importsFor_append, hrequired, hmodel, importsFor_sizeAnnotation?,
    importsFor_toList_map c.pattern .pattern (fun _ => rfl),
    importsFor_toList_map c.minimum (.decimalMin · c.exclusiveMinimum) (fun _ => rfl),
    importsFor_toList_map c.maximum (.decimalMax · c.exclusiveMaximum) (fun _ => rfl)]
  rw [kinds]
  simp only [hasked, List.append_assoc, List.filter_nil, List.map_nil, List.append_nil,
    Api.Constraints.boundsLength, Api.Constraints.boundsItems]

theorem mem_importsFor_annotationsFor {n : String} :
    n ∈ importsFor (annotationsFor c required isModel) ↔ Asks c required isModel n := by
  rw [importsFor_annotationsFor, Asks, List.mem_map]
  constructor
  · rintro ⟨⟨asked, name⟩, hin, rfl⟩
    obtain ⟨hkind, hasked⟩ := List.mem_filter.1 hin
    rw [← (hasked : asked = true)]
    exact hkind
  · exact fun h => ⟨(true, n), List.mem_filter.2 ⟨h, rfl⟩, rfl⟩

/-! ## Kinds that come twice -/

/-- If one of the sizes is not bounded, then the names are some of all names, in the order of
these. -/
theorem importsFor_sublist (h : ¬(c.boundsLength = true ∧ c.boundsItems = true)) :
    (importsFor (annotationsFor c required isModel)).Sublist Annotation.names := by
  -- without the size that is not asked for, each kind has a name of its own
  have hone (size : Bool) : ((([(required, "NotNull"), (isModel, "Valid"), (size, "Size"),
      (c.pattern.isSome, "Pattern"), (c.minimum.isSome, "DecimalMin"),
      (c.maximum.isSome, "DecimalMax")]).filter (·.1)).map (·.2)).Sublist Annotation.names :=
    List.filter_sublist.map _
  rw [importsFor_annotationsFor, kinds]
  cases hlength : c.boundsLength with
  | false => simpa [List.filter_cons] using hone c.boundsItems
  | true =>
    have hitems : c.boundsItems = false := Bool.eq_false_iff.2 fun hi => h ⟨hlength, hi⟩
    rw [hitems]
    simpa [List.filter_cons] using hone true

/-- If both are, their annotations have the same name. -/
theorem sizes_sublist (hlength : c.boundsLength = true) (hitems : c.boundsItems = true) :
    ["Size", "Size"].Sublist (importsFor (annotationsFor c required isModel)) := by
  have hkinds : [(true, "Size"), (true, "Size")].Sublist (kinds c required isModel) := by
    rw [kinds, hlength, hitems]
    exact .cons _ (.cons _ (.cons_cons _ (.cons_cons _ (List.nil_sublist _))))
  rw [importsFor_annotationsFor]
  exact (hkinds.filter (·.1)).map (·.2)

theorem nodup_importsFor_iff :
    (importsFor (annotationsFor c required isModel)).Nodup ↔
      ¬(c.boundsLength = true ∧ c.boundsItems = true) := by
  constructor
  · rintro hnodup ⟨hlength, hitems⟩
    exact absurd (hnodup.sublist (sizes_sublist hlength hitems)) (by decide)
  · exact fun h => (importsFor_sublist h).nodup (by decide)

/-- No other kind comes twice. -/
theorem nodup_filter_importsFor :
    ((importsFor (annotationsFor c required isModel)).filter (· ≠ "Size")).Nodup := by
  have hall : (importsFor (annotationsFor c required isModel)).Sublist
      ["NotNull", "Valid", "Size", "Size", "Pattern", "DecimalMin", "DecimalMax"] := by
    rw [importsFor_annotationsFor]
    exact List.filter_sublist.map _
  exact (hall.filter _).nodup (by decide)

end

/-! ## Bounds that are too long -/

section
open Annotation (boundFault? textFault?)
variable {c : Api.Constraints} {required isModel : Bool}

/-- Annotations have texts just if none of them has a fault, and these are their texts. -/
theorem annotationTexts_eq_ok_iff {annotations : List Annotation} {texts : List String} :
    annotationTexts annotations = .ok texts ↔
      (∀ a ∈ annotations, a.textFault? = none) ∧ texts = annotations.map (·.text) := by
  unfold annotationTexts
  rw [← List.findSome?_eq_none_iff]
  cases annotations.findSome? (·.textFault?) with
  | some fault => exact iff_of_false (fun h => nomatch h) (fun h => nomatch h.1)
  | none =>
    rw [Except.ok.injEq]
    exact ⟨fun h => ⟨rfl, h.symm⟩, fun h => h.2.symm⟩

theorem exists_annotationTexts_iff {annotations : List Annotation} :
    (∃ texts, annotationTexts annotations = .ok texts) ↔
      ∀ a ∈ annotations, a.textFault? = none :=
  ⟨fun ⟨_, h⟩ => (annotationTexts_eq_ok_iff.1 h).1,
    fun h => ⟨_, annotationTexts_eq_ok_iff.2 ⟨h, rfl⟩⟩⟩

/-- The bounds of a size are written just if none of them is too long. -/
theorem forall_mem_sizeAnnotation?_iff {least greatest : Option Int} :
    (∀ a ∈ (sizeAnnotation? least greatest).toList, a.textFault? = none) ↔
      (∀ n ∈ least.toList, integerFault? n = none) ∧
        ∀ n ∈ greatest.toList, integerFault? n = none := by
  cases least <;> cases greatest <;> simp [sizeAnnotation?, textFault?]

/-- A bound is written just if it is no whole number that is too long. -/
theorem forall_mem_bound_iff {bound : Option Number} {make : Number → Annotation}
    (hmake : ∀ b, (make b).textFault? = boundFault? b) :
    (∀ a ∈ (bound.map make).toList, a.textFault? = none) ↔
      ∀ n ∈ (bound.bind Number.int?).toList, integerFault? n = none := by
  rcases bound with _ | n | d <;> simp [hmake, boundFault?, Number.int?]

/-- The annotations for constraints have texts just if no bound is too long. -/
theorem exists_texts_annotationsFor_iff :
    (∃ texts, annotationTexts (annotationsFor c required isModel) = .ok texts) ↔
      ∀ n ∈ c.wholeBounds, integerFault? n = none := by
  have hrequired : ∀ a ∈ (if required then [.notNull] else [] : List Annotation),
      a.textFault? = none := by
    cases required <;> simp [textFault?]
  have hmodel : ∀ a ∈ (if isModel then [.valid] else [] : List Annotation),
      a.textFault? = none := by
    cases isModel <;> simp [textFault?]
  have hpattern : ∀ a ∈ (c.pattern.map .pattern : Option Annotation).toList,
      a.textFault? = none := by
    cases c.pattern <;> simp [textFault?]
  have hminimum := @forall_mem_bound_iff c.minimum (.decimalMin · c.exclusiveMinimum) fun _ => rfl
  have hmaximum := @forall_mem_bound_iff c.maximum (.decimalMax · c.exclusiveMaximum) fun _ => rfl
  rw [exists_annotationTexts_iff, annotationsFor, Api.Constraints.wholeBounds]
  simp only [List.forall_mem_append, forall_mem_sizeAnnotation?_iff, hminimum, hmaximum]
  tauto

end

/-! ## Properties and parameters -/

/-- What the texts of annotations tell about the constraints that they are for, by the names that are
read back from them. -/
structure TextsTold (c : Api.Constraints) (required isModel : Bool) (texts : List String) :
    Prop where
  /-- The names are those that are asked for, and of annotations that validate. -/
  asked : ∀ n, n ∈ texts.map Annotation.nameIn ↔ Asks c required isModel n
  known : ∀ n ∈ texts.map Annotation.nameIn, n ∈ Annotation.names
  /-- No name comes twice just if at most one of the sizes is bounded. Then they are in the order of
  all names. -/
  distinct : (texts.map Annotation.nameIn).Nodup ↔
    ¬(c.boundsLength = true ∧ c.boundsItems = true)
  ordered : (texts.map Annotation.nameIn).Nodup →
    (texts.map Annotation.nameIn).Sublist Annotation.names
  /-- No name but that of sizes ever does. -/
  others : ((texts.map Annotation.nameIn).filter (· ≠ "Size")).Nodup

/-- What annotations tell about the constraints that they are for. -/
structure AnnotationsTold (c : Api.Constraints) (required isModel : Bool)
    (annotations : List Annotation) : Prop where
  /-- They have texts just if no bound is too long. -/
  written : (∃ texts, annotationTexts annotations = .ok texts) ↔
    ∀ n ∈ c.wholeBounds, integerFault? n = none
  /-- Their names are read back from their texts, which tell the constraints. -/
  readBack : ∀ texts, annotationTexts annotations = .ok texts →
    texts.map Annotation.nameIn = importsFor annotations
  told : ∀ texts, annotationTexts annotations = .ok texts → TextsTold c required isModel texts

theorem annotationsTold_annotationsFor (c : Api.Constraints) (required isModel : Bool) :
    AnnotationsTold c required isModel (annotationsFor c required isModel) := by
  have hnames {texts : List String}
      (h : annotationTexts (annotationsFor c required isModel) = .ok texts) :
      texts.map Annotation.nameIn = importsFor (annotationsFor c required isModel) := by
    rw [(annotationTexts_eq_ok_iff.1 h).2, List.map_map]
    exact List.map_congr_left fun a _ => a.nameIn_text
  refine ⟨exists_texts_annotationsFor_iff, fun _ h => hnames h, fun texts h => ?_⟩
  constructor <;> rw [hnames h]
  · exact fun _ => mem_importsFor_annotationsFor
  · exact fun _ => mem_names_of_mem_importsFor
  · exact nodup_importsFor_iff
  · exact fun h => importsFor_sublist (nodup_importsFor_iff.1 h)
  · exact nodup_filter_importsFor

/-- The annotations for constraints, and those of the properties of a model and of the parameters of
an operation, with what is imported for them if all of them have texts. A property is validated in
its turn if it is a model, and a parameter if it is a body beside that. -/
theorem distinct_annotations_iff (c : Api.Constraints) (required isModel : Bool) (m : Model)
    (o : Operation) :
    AnnotationsTold c required isModel (annotationsFor c required isModel) ∧
      ((∀ p ∈ (m.withValidation true).properties,
          AnnotationsTold p.constraints p.required p.isModel p.annotations) ∧
        ((∀ p ∈ (m.withValidation true).properties,
            ∃ texts, annotationTexts p.annotations = .ok texts) →
          ∀ n, n ∈ (m.withValidation true).imports ↔
            (∃ p ∈ m.properties, Asks p.constraints p.required p.isModel n) ∨ n ∈ m.imports)) ∧
      (∀ p ∈ (o.withValidation true).parameters,
          AnnotationsTold p.constraints p.required (p.isModel && p.location == .body)
            p.annotations) ∧
        ((∀ p ∈ (o.withValidation true).parameters,
            ∃ texts, annotationTexts p.annotations = .ok texts) →
          ∀ n, n ∈ (o.withValidation true).imports ↔
            (∃ p ∈ o.parameters,
              Asks p.constraints p.required (p.isModel && p.location == .body) n) ∨
              n ∈ o.imports) := by
  refine ⟨annotationsTold_annotationsFor c required isModel,
    ⟨fun p hp => ?_, fun _ n => ?_⟩, fun p hp => ?_, fun _ n => ?_⟩
  · obtain ⟨q, -, rfl⟩ := List.mem_map.1 hp
    exact annotationsTold_annotationsFor q.constraints q.required q.isModel
  · simp [Model.withValidation, Model.addImports, List.mem_flatMap, Property.validated,
      mem_importsFor_annotationsFor]
  · obtain ⟨q, -, rfl⟩ := List.mem_map.1 hp
    exact annotationsTold_annotationsFor q.constraints q.required _
  · simp [Operation.withValidation, List.mem_flatMap, Parameter.validated,
      mem_importsFor_annotationsFor]

/-- Some codes, with a pattern that looks like annotations. -/
def codesProperty : Property :=
  (prepareProperty JaxrsCxf.backend.typeTable [] {
    name := "codes"
    container := some .array
    required := true
    constraints := { minItems := some 1, maxItems := some 9, pattern := some "@Size(\",)@Valid(" }
  }).1

/-- The annotations are of three kinds, and these are imported. -/
theorem distinct_annotations_iff_codes :
    let m : Model := { (default : Model) with properties := [codesProperty] }
    let texts := ["@NotNull", "@Size(min=1,max=9)", "@Pattern(regexp=\"@Size(\\\",)@Valid(\")"]
    (∀ p ∈ (m.withValidation true).properties, annotationTexts p.annotations = .ok texts) ∧
      (texts.map Annotation.nameIn).Nodup ∧
      "Size" ∈ (m.withValidation true).imports ∧ "Valid" ∉ (m.withValidation true).imports := by
  intro m texts
  have hone : ¬(codesProperty.constraints.boundsLength = true ∧
      codesProperty.constraints.boundsItems = true) := by decide +kernel
  have hvalid : ¬Asks codesProperty.constraints codesProperty.required codesProperty.isModel
      "Valid" := by decide +kernel
  have hshort : ∀ n ∈ codesProperty.constraints.wholeBounds, integerFault? n = none := by
    decide +kernel
  have hin : codesProperty.validated ∈ (m.withValidation true).properties := .head _
  obtain ⟨-, ⟨htold, himports⟩, -⟩ :=
    distinct_annotations_iff codesProperty.constraints true false m default
  have htexts (p) (hp : p ∈ (m.withValidation true).properties) :
      annotationTexts p.annotations = .ok texts := by
    obtain rfl := List.mem_singleton.1 hp
    obtain ⟨written, hwritten⟩ := (htold _ hin).written.2 hshort
    rw [hwritten, (annotationTexts_eq_ok_iff.1 hwritten).2]
    exact congrArg Except.ok (by decide +kernel)
  have himports := himports fun p hp => ⟨texts, htexts p hp⟩
  refine ⟨htexts, ((htold _ hin).told texts (htexts _ hin)).distinct.2 hone,
    (himports "Size").2 (.inl ⟨codesProperty, .head _, by decide +kernel⟩), fun h => ?_⟩
  rcases (himports "Valid").1 h with ⟨p, hp, hasks⟩ | hin
  · obtain rfl := List.mem_singleton.1 hp
    exact hvalid hasks
  · cases hin

/-- For texts whose number is bounded and whose lengths are, too, there are two annotations of one
kind. -/
theorem both_sizes_annotated :
    let p := (prepareProperty JaxrsCxf.backend.typeTable [] {
      name := "codes"
      container := some .array
      constraints := { minLength := some 1, minItems := some 1 } }).1
    p.validated.annotations.map (·.text) = ["@Size(min=1)", "@Size(min=1)"] ∧
      Render.fieldCode p.validated .jackson = ["", "  @JsonProperty(\"codes\")", "  @Size(min=1)",
        "  @Size(min=1)", "  private List<String> codes = new ArrayList<>();"] ∧
      ¬(importsFor p.validated.annotations).Nodup := by
  decide +kernel

end Client

end ClientGen
