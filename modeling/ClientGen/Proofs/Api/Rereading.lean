import ClientGen.Api.Source
import ClientGen.Api.Writer
import ClientGen.Proofs.Document.Rereading

/-!
# Reading a description again

A description that was read can be written as a document again, each of its records as a mapping
with the fields under either of their names ([IsDescription]), and this document is read
([parseDescription_written]). Reading brings methods, numbers and the codes of responses into one
form, which is then left as it is, with one exception: the word for every other code is understood
if it is given as a text, but if it is given in bytes it is kept as a word, and understood when the
description is read again ([reread_iff]).
-/

namespace ClientGen.Api

open Document

/-! ## Descriptions as documents -/

/-- What constraints may be written as. -/
def IsConstraints (c : Constraints) : Value → Prop := IsRecord [
  ⟨⟨"minLength", "min_length"⟩, Is c.minLength⟩,
  ⟨⟨"maxLength", "max_length"⟩, Is c.maxLength⟩,
  ⟨"pattern", Is c.pattern⟩,
  ⟨"minimum", Is c.minimum⟩,
  ⟨"maximum", Is c.maximum⟩,
  ⟨⟨"exclusiveMinimum", "exclusive_minimum"⟩, Is c.exclusiveMinimum⟩,
  ⟨⟨"exclusiveMaximum", "exclusive_maximum"⟩, Is c.exclusiveMaximum⟩,
  ⟨⟨"minItems", "min_items"⟩, Is c.minItems⟩,
  ⟨⟨"maxItems", "max_items"⟩, Is c.maxItems⟩]

/-- What a property may be written as. -/
def IsProperty (p : Property) : Value → Prop := IsRecord [
  ⟨"name", Is p.name⟩,
  ⟨"type", Is p.type⟩,
  ⟨"container", Is p.container⟩,
  ⟨"required", Is p.required⟩,
  ⟨"nullable", Is p.nullable⟩,
  ⟨"description", Is p.description⟩,
  ⟨"example", Is p.sample⟩,
  ⟨⟨"enum", "enum_values"⟩, Is p.allowed⟩,
  ⟨"constraints", IsConstraints p.constraints⟩]

/-- What a schema may be written as. -/
def IsSchema (s : Schema) : Value → Prop := IsRecord [
  ⟨"name", Is s.name⟩,
  ⟨"description", Is s.description⟩,
  ⟨"parent", Is s.parent⟩,
  ⟨"properties", IsList IsProperty s.properties⟩,
  ⟨"imports", Is s.imports⟩]

/-- What a parameter may be written as. -/
def IsParameter (p : Parameter) : Value → Prop := IsRecord [
  ⟨"name", Is p.name⟩,
  ⟨⟨"in", "location"⟩, Is p.location.name⟩,
  ⟨"type", Is p.type⟩,
  ⟨"container", Is p.container⟩,
  ⟨"required", Is p.required⟩,
  ⟨"description", Is p.description⟩,
  ⟨"default", Is p.default⟩,
  ⟨"constraints", IsConstraints p.constraints⟩]

/-- What a response may be written as. -/
def IsResponse (r : Response) : Value → Prop := IsRecord [
  ⟨"code", Is r.code⟩,
  ⟨"description", Is r.description⟩,
  ⟨"type", Is r.type⟩,
  ⟨"container", Is r.container⟩]

/-- What an operation may be written as. -/
def IsOperation (o : Operation) : Value → Prop := IsRecord [
  ⟨⟨"operationId", "operation_id"⟩, Is o.operationId⟩,
  ⟨"method", Is o.method.name⟩,
  ⟨"path", Is o.path⟩,
  ⟨"tags", Is o.tags⟩,
  ⟨"summary", Is o.summary⟩,
  ⟨"description", Is o.description⟩,
  ⟨"parameters", IsList IsParameter o.parameters⟩,
  ⟨"responses", IsList IsResponse o.responses⟩,
  ⟨"consumes", Is o.consumes⟩,
  ⟨"produces", Is o.produces⟩,
  ⟨"deprecated", Is o.deprecated⟩]

/-- What a description may be written as. -/
def IsDescription (d : Description) : Value → Prop := IsRecord [
  ⟨"title", Is d.title⟩,
  ⟨"version", Is d.version⟩,
  ⟨"description", Is d.description⟩,
  ⟨⟨"basePath", "base_path"⟩, Is d.basePath⟩,
  ⟨"operations", IsList IsOperation d.operations⟩,
  ⟨"schemas", IsList IsSchema d.schemas⟩]

/-! ## Reading them -/

theorem readsBack_container : ReadsBack readContainer := by
  intro c
  cases c <;> rfl

/-- An absent or present text, and the other values that may be absent. -/
theorem readsBack_text? : ReadsBack (nullable text) := readsBack_text.nullable fun _ => rfl

theorem readsBack_integer? : ReadsBack (nullable integer) := readsBack_integer.nullable fun _ => rfl

theorem readsBack_number? : ReadsBack (nullable number) :=
  readsBack_number.nullable fun n => by cases n <;> rfl

theorem readsBack_container? : ReadsBack (nullable readContainer) :=
  readsBack_container.nullable fun _ => rfl

theorem readsBack_texts : ReadsBack (list text) := readsBack_text.list

theorem readsBack_texts? : ReadsBack (nullable (list text)) :=
  readsBack_texts.nullable fun _ => rfl

/-- Constraints are read. -/
theorem readConstraints_of_is (c : Constraints) (v : Value) (h : IsConstraints c v) :
    readConstraints v = .sound c := by
  obtain ⟨entries, rfl, h₁, h₂, h₃, h₄, h₅, h₆, h₇, h₈, h₉⟩ :=
    h.exists_found (of_decide_eq_true rfl)
  change constraintFields entries = _
  rw [constraintFields, h₁.optional readsBack_integer?.of_is,
    h₂.optional readsBack_integer?.of_is, h₃.optional readsBack_text?.of_is,
    h₄.optional readsBack_number?.of_is, h₅.optional readsBack_number?.of_is,
    h₆.optional readsBack_truth.of_is, h₇.optional readsBack_truth.of_is,
    h₈.optional readsBack_integer?.of_is, h₉.optional readsBack_integer?.of_is]
  rfl

/-- So are properties. -/
theorem readProperty_of_is (p : Property) (v : Value) (h : IsProperty p v) :
    readProperty v = .sound p := by
  obtain ⟨entries, rfl, h₁, h₂, h₃, h₄, h₅, h₆, h₇, h₈, h₉⟩ :=
    h.exists_found (of_decide_eq_true rfl)
  change propertyFields entries = _
  rw [propertyFields, h₁.required readsBack_text.of_is,
    h₂.optional readsBack_text.of_is, h₃.optional readsBack_container?.of_is,
    h₄.optional readsBack_truth.of_is, h₅.optional readsBack_truth.of_is,
    h₆.optional readsBack_text?.of_is, h₇.optional readsBack_anything.of_is,
    h₈.optional readsBack_texts?.of_is, h₉.optional (readConstraints_of_is _)]
  rfl

/-- And schemas. -/
theorem readSchema_of_is (s : Schema) (v : Value) (h : IsSchema s v) : readSchema v = .sound s := by
  obtain ⟨entries, rfl, h₁, h₂, h₃, h₄, h₅⟩ :=
    h.exists_found (of_decide_eq_true rfl)
  change schemaFields entries = _
  rw [schemaFields, h₁.required readsBack_text.of_is,
    h₂.optional readsBack_text?.of_is, h₃.optional readsBack_text?.of_is,
    h₄.optional (list_of_isList readProperty_of_is),
    h₅.optional readsBack_texts.of_is]
  simp

/-- And parameters. -/
theorem readParameter_of_is (p : Parameter) (v : Value) (h : IsParameter p v) :
    readParameter v = .sound p := by
  obtain ⟨entries, rfl, h₁, h₂, h₃, h₄, h₅, h₆, h₇, h₈⟩ :=
    h.exists_found (of_decide_eq_true rfl)
  have hlocation (v : Value) (hv : Is p.location.name v) :
      member Location.all Location.name v = .sound p.location := by
    subst hv
    cases p.location <;> rfl
  change parameterFields entries = _
  rw [parameterFields, h₁.required readsBack_text.of_is, h₂.required hlocation,
    h₃.optional readsBack_text.of_is, h₄.optional readsBack_container?.of_is,
    h₅.optional readsBack_truth.of_is, h₆.optional readsBack_text?.of_is,
    h₇.optional readsBack_anything.of_is, h₈.optional (readConstraints_of_is _)]
  rfl

/-- The word for every other code. -/
def defaultWord : String := "default"

/-- A response with its code as it is understood. -/
def Response.understood (r : Response) : Response :=
  { r with code := if r.code = defaultWord then "0" else r.code }

/-- An operation with the codes of its responses as they are understood. -/
def Operation.understood (o : Operation) : Operation :=
  { o with responses := o.responses.map Response.understood }

/-- A description with the codes of all responses as they are understood. -/
def Description.understood (d : Description) : Description :=
  { d with operations := d.operations.map Operation.understood }

/-- Responses are read with their codes as they are understood. -/
theorem readResponse_of_is (r : Response) (v : Value) (h : IsResponse r v) :
    readResponse v = .sound r.understood := by
  obtain ⟨entries, rfl, h₁, h₂, h₃, h₄⟩ :=
    h.exists_found (of_decide_eq_true rfl)
  have hcode (v : Value) (hv : Is r.code v) :
      readCode v = .sound (if r.code = defaultWord then "0" else r.code) := by
    subst hv
    rfl
  change responseFields entries = _
  rw [responseFields, h₁.optional hcode, h₂.optional readsBack_text?.of_is,
    h₃.optional readsBack_text?.of_is, h₄.optional readsBack_container?.of_is]
  rfl

/-- So operations are too. -/
theorem readOperation_of_is (o : Operation) (v : Value) (h : IsOperation o v) :
    readOperation v = .sound o.understood := by
  obtain ⟨entries, rfl, h₁, h₂, h₃, h₄, h₅, h₆, h₇, h₈, h₉, h₁₀, h₁₁⟩ :=
    h.exists_found (of_decide_eq_true rfl)
  have hmethod (v : Value) (hv : Is o.method.name v) : readMethod v = .sound o.method := by
    subst hv
    cases o.method <;> rfl
  change operationFields entries = _
  rw [operationFields, h₁.optional readsBack_text?.of_is, h₂.required hmethod,
    h₃.required readsBack_text.of_is, h₄.optional readsBack_texts.of_is,
    h₅.optional readsBack_text?.of_is, h₆.optional readsBack_text?.of_is,
    h₇.optional (list_of_isList readParameter_of_is),
    h₈.optional (list_of_isList readResponse_of_is),
    h₉.optional readsBack_texts.of_is, h₁₀.optional readsBack_texts.of_is,
    h₁₁.optional readsBack_truth.of_is]
  simp [Operation.understood]

/-- And descriptions. -/
theorem readDescription_of_is (d : Description) (v : Value) (h : IsDescription d v) :
    readDescription v = .sound d.understood := by
  obtain ⟨entries, rfl, h₁, h₂, h₃, h₄, h₅, h₆⟩ :=
    h.exists_found (of_decide_eq_true rfl)
  change descriptionFields entries = _
  rw [descriptionFields, h₁.required readsBack_text.of_is,
    h₂.optional readsBack_text.of_is, h₃.optional readsBack_text?.of_is,
    h₄.optional readsBack_text.of_is,
    h₅.optional (list_of_isList readOperation_of_is),
    h₆.optional (list_of_isList readSchema_of_is)]
  simp [Description.understood]

/-- Whatever description was written, it is read with its codes as they are understood. -/
theorem parseDescription_written (origin : String) {d : Description} {v : Value}
    (h : IsDescription d v) : parseDescription origin v = .ok d.understood := by
  rw [parseDescription, readDescription_of_is d v h]
  rfl

/-! ## The documents of descriptions -/

/-- The document of constraints is one of those that they may be written as, and so it is for all
other parts of a description. -/
theorem isConstraints_toDocument (c : Constraints) : IsConstraints c (toDocument c) :=
  isRecord_fields (by simp [Is])

theorem isProperty_toDocument (p : Property) : IsProperty p (toDocument p) :=
  isRecord_fields (by simp [Is, isConstraints_toDocument])

theorem isSchema_toDocument (s : Schema) : IsSchema s (toDocument s) :=
  isRecord_fields (by simp [Is, isList_toDocument isProperty_toDocument])

theorem isParameter_toDocument (p : Parameter) : IsParameter p (toDocument p) :=
  isRecord_fields (by simp [Is, isConstraints_toDocument])

theorem isResponse_toDocument (r : Response) : IsResponse r (toDocument r) :=
  isRecord_fields (by simp [Is])

theorem isOperation_toDocument (o : Operation) : IsOperation o (toDocument o) :=
  isRecord_fields (by simp [Is, isList_toDocument isParameter_toDocument,
    isList_toDocument isResponse_toDocument])

theorem isDescription_toDocument (d : Description) : IsDescription d (toDocument d) :=
  isRecord_fields (by simp [Is, isList_toDocument isOperation_toDocument,
    isList_toDocument isSchema_toDocument])

/-! ## The word for every other code -/

/-- The documents of the responses in the document of a description. -/
def responsesIn (document : Value) : List Value :=
  (itemsIn document "operations").flatMap (itemsIn · "responses")

/-- Whether the document of a response gives the word for every other code in bytes. -/
def GivesWordInBytes (response : Value) : Prop :=
  ∃ bs, fieldOf? response "code" = some (.bytes bs) ∧ Text.textOfBytes? bs = some defaultWord

/-- An integer is not written as the word. -/
theorem toString_ne_defaultWord (n : Int) : toString n ≠ defaultWord := by
  rw [Int.toString_eq_repr]
  intro h
  cases n with
  | ofNat m =>
    have hrepr : String.ofList (Nat.toDigits 10 m) = defaultWord :=
      Nat.repr_eq_ofList_toDigits.symm.trans h
    have hd : 'd' ∈ Nat.toDigits 10 m := by
      rw [← String.toList_ofList (l := Nat.toDigits 10 m), hrepr]
      decide
    exact absurd (Nat.isDigit_of_mem_toDigits (by decide) (by decide) hd) (by decide)
  | negSucc m =>
    have hrepr : "-" ++ (m + 1).repr = defaultWord := h
    have hhead := congrArg (fun s => s.toList.head?) hrepr
    simp [defaultWord] at hhead

/-- Only bytes are read as the word. -/
theorem readCode_eq_defaultWord_iff {v : Value} {code : String} (h : readCode v = .sound code) :
    code = defaultWord ↔ ∃ bs, v = .bytes bs ∧ Text.textOfBytes? bs = some defaultWord := by
  have hnot {v : Value} (hv : ∀ bs, v ≠ .bytes bs) (hcode : code ≠ defaultWord) :
      code = defaultWord ↔ ∃ bs, v = .bytes bs ∧ Text.textOfBytes? bs = some defaultWord :=
    iff_of_false hcode fun ⟨bs, hbs, _⟩ => hv bs hbs
  cases v with
  | bool b =>
    cases h
    exact hnot (by simp) (by cases b <;> decide)
  | int n =>
    simp only [readCode] at h
    cases hlong : integerFault? n with
    | some f =>
      rw [hlong] at h
      cases h
    | none =>
      rw [hlong] at h
      cases h
      exact hnot (by simp) (toString_ne_defaultWord n)
  | text s =>
    cases h
    refine hnot (by simp) ?_
    split
    · decide
    · next hs => exact hs
  | bytes bs =>
    simp only [readCode, text, withText] at h
    cases hs : Text.textOfBytes? bs with
    | none =>
      rw [hs] at h
      cases h
    | some s =>
      rw [hs] at h
      cases h
      simp [hs]
  | _ => cases h

/-- So a response has the word for its code just if its document gives it in bytes. -/
theorem code_eq_defaultWord_iff {v : Value} {r : Response} (h : readResponse v = .sound r) :
    r.code = defaultWord ↔ GivesWordInBytes v := by
  cases v with
  | map entries =>
    have hfields : responseFields entries = .sound r := h
    -- All fields are sound, but only what was read of the first one matters.
    simp only [responseFields, Checked.map_eq, Checked.seq_eq, Checked.seq_eq_sound_iff,
      Checked.map_eq_sound_iff] at hfields
    obtain ⟨_, _, ⟨_, _, ⟨_, _, ⟨code, hcode, rfl⟩, -, rfl⟩, -, rfl⟩, -, rfl⟩ := hfields
    change code = defaultWord ↔ ∃ bs, Value.field? entries "code" = some (.bytes bs) ∧ _
    rcases optional_eq_sound hcode with ⟨hnone, rfl⟩ | ⟨v, hv, hread⟩
    · rw [hnone]
      exact iff_of_false (by decide) (by simp)
    · rw [hv, readCode_eq_defaultWord_iff hread]
      simp
  | _ => cases h

/-- Its responses are read from those in the document of an operation. -/
theorem forall₂_responses {v : Value} {o : Operation} (h : readOperation v = .sound o) :
    List.Forall₂ (fun v r => readResponse v = .sound r) (itemsIn v "responses") o.responses := by
  cases v with
  | map entries =>
    have hfields : operationFields entries = .sound o := h
    simp only [operationFields, Checked.map_eq, Checked.seq_eq, Checked.seq_eq_sound_iff,
      Checked.map_eq_sound_iff] at hfields
    obtain ⟨_, _, ⟨_, _, ⟨_, _, ⟨_, responses, ⟨_, _, ⟨_, _, ⟨_, _, ⟨_, _, ⟨_, _, ⟨_, _,
      ⟨_, -, rfl⟩, -, rfl⟩, -, rfl⟩, -, rfl⟩, -, rfl⟩, -, rfl⟩, -, rfl⟩, hresponses, rfl⟩,
      -, rfl⟩, -, rfl⟩, -, rfl⟩ := hfields
    exact forall₂_itemsIn hresponses
  | _ => cases h

/-- And its operations from those in the document of a description. -/
theorem forall₂_operations {v : Value} {d : Description} (h : readDescription v = .sound d) :
    List.Forall₂ (fun v o => readOperation v = .sound o) (itemsIn v "operations") d.operations := by
  cases v with
  | map entries =>
    have hfields : descriptionFields entries = .sound d := h
    simp only [descriptionFields, Checked.map_eq, Checked.seq_eq, Checked.seq_eq_sound_iff,
      Checked.map_eq_sound_iff] at hfields
    obtain ⟨_, _, ⟨_, operations, ⟨_, _, ⟨_, _, ⟨_, _, ⟨_, -, rfl⟩, -, rfl⟩, -, rfl⟩, -, rfl⟩,
      hoperations, rfl⟩, -, rfl⟩ := hfields
    exact forall₂_itemsIn hoperations
  | _ => cases h

/-- A response of a description that was read has the word for its code just if a response of the
document gives it in bytes. -/
theorem exists_defaultWord_iff {v : Value} {d : Description} (h : readDescription v = .sound d) :
    (∃ o ∈ d.operations, ∃ r ∈ o.responses, r.code = defaultWord) ↔
      ∃ r ∈ responsesIn v, GivesWordInBytes r := by
  have hoperations := exists_mem_iff_of_forall₂ (forall₂_operations h) fun _ _ ho =>
    exists_mem_iff_of_forall₂ (forall₂_responses ho) fun _ _ hr => (code_eq_defaultWord_iff hr).symm
  rw [← hoperations, responsesIn]
  simp only [List.mem_flatMap]
  constructor
  · rintro ⟨o, ho, r, hr, hword⟩
    exact ⟨r, ⟨o, ho, hr⟩, hword⟩
  · rintro ⟨r, ⟨o, ho, hr⟩, hword⟩
    exact ⟨o, ho, r, hr, hword⟩

/-- A description is as it is understood just if no response has the word for its code. -/
theorem understood_eq_iff (d : Description) :
    d.understood = d ↔ ¬∃ o ∈ d.operations, ∃ r ∈ o.responses, r.code = defaultWord := by
  have hresponse (r : Response) : r.understood = r ↔ r.code ≠ defaultWord := by
    obtain ⟨code, description, type, container⟩ := r
    simp only [Response.understood, Response.mk.injEq, and_true]
    by_cases hcode : code = defaultWord
    · rw [if_pos hcode, hcode]
      decide
    · rw [if_neg hcode]
      exact iff_of_true rfl hcode
  have hoperation (o : Operation) :
      o.understood = o ↔ ∀ r ∈ o.responses, r.code ≠ defaultWord := by
    cases o
    simp only [Operation.understood, Operation.mk.injEq, true_and, and_true, map_eq_self_iff,
      hresponse]
  cases d
  simp only [Description.understood, Description.mk.injEq, true_and, and_true, map_eq_self_iff,
    hoperation, not_exists, not_and]

/-! ## Reading again -/

/-- Every description that was read can be written as a document again, and whatever document it is
written as, with the fields under either of their names at every place, this is read with the same
result but for the codes that are the word for every other code, which are then understood. So
reading again leaves the description just if no response of the first document gives the word in
bytes. -/
theorem reread_iff {origin : String} {document : Value} {d : Description}
    (h : parseDescription origin document = .ok d) :
    (∃ v, IsDescription d v) ∧ ∀ v, IsDescription d v →
      parseDescription origin v = .ok d.understood ∧
      (parseDescription origin v = .ok d ↔ ∀ r ∈ responsesIn document, ¬GivesWordInBytes r) := by
  refine ⟨⟨_, isDescription_toDocument d⟩, fun v hv => ?_⟩
  have hagain := parseDescription_written origin hv
  refine ⟨hagain, ?_⟩
  have hread : readDescription document = .sound d := by
    unfold parseDescription at h
    cases hd : readDescription document with
    | faulty faults =>
      rw [hd] at h
      cases h
    | sound d' =>
      rw [hd] at h
      cases h
      rfl
  rw [hagain, Except.ok.injEq, understood_eq_iff, exists_defaultWord_iff hread]
  simp only [not_exists, not_and]

/-- The document of a description with a response, which gives a code. -/
def statusDocument (code : Value) : Value := fields [
  ("title", "Status"),
  ("basePath", "/v1"),
  ("operations", .list [fields [
    ("method", "GET"),
    ("path", "/status"),
    ("responses", .list [fields [("code", code)]])]])]

/-- The description that it is read as. -/
def statusDescription (code : String) : Description where
  title := "Status"
  basePath := "/v1"
  operations := [{ method := .get, path := "/status", responses := [{ code := code }] }]

/-- The description with one of its fields under its other name. -/
def statusWritten (code : String) : Value := fields [
  ("title", "Status"),
  ("version", "1.0.0"),
  ("description", .null),
  ("basePath", "/v1"),
  ("operations", (statusDescription code).operations),
  ("schemas", .list [])]

/-- It is one of the documents that the description may be written as. -/
theorem isDescription_statusWritten (code : String) :
    IsDescription (statusDescription code) (statusWritten code) := by
  refine ⟨_, _, ?_, .refl _, rfl⟩
  have hoperations := isList_toDocument isOperation_toDocument (statusDescription code).operations
  have hschemas := isList_toDocument isSchema_toDocument (statusDescription code).schemas
  exact .cons ⟨.inl rfl, rfl⟩ <| .cons ⟨.inl rfl, rfl⟩ <| .cons ⟨.inl rfl, rfl⟩ <|
    .cons ⟨.inl rfl, rfl⟩ <| .cons ⟨.inl rfl, hoperations⟩ <| .cons ⟨.inl rfl, hschemas⟩ .nil

/-- With the word as a text the description stays. -/
theorem reread_iff_text :
    parseDescription "status" (statusDocument "default") = .ok (statusDescription "0") ∧
      parseDescription "status" (statusWritten "0") = .ok (statusDescription "0") := by
  have hread : parseDescription "status" (statusDocument "default") =
      .ok (statusDescription "0") := by rfl
  refine ⟨hread, ((reread_iff hread).2 _ (isDescription_statusWritten "0")).2.2 ?_⟩
  rintro r hr ⟨bs, hbs, -⟩
  have hresponses : responsesIn (statusDocument "default") = [fields [("code", "default")]] := rfl
  rw [hresponses, List.mem_singleton] at hr
  subst hr
  cases hbs

/-- The word for every other code in bytes. -/
def wordBytes : List UInt8 := [100, 101, 102, 97, 117, 108, 116]

/-- Reading again does not always leave the description: with the word in bytes it is read as a word
at first, and understood the second time. -/
theorem reread_fails : ¬∀ origin document d v, parseDescription origin document = .ok d →
    IsDescription d v → parseDescription origin v = .ok d := by
  intro h
  have hread : parseDescription "status" (statusDocument (.bytes wordBytes)) =
      .ok (statusDescription "default") := by rfl
  have hagain : parseDescription "status" (statusWritten "default") =
      .ok (statusDescription "0") := by rfl
  have hsame := h _ _ _ _ hread (isDescription_statusWritten "default")
  rw [hagain] at hsame
  have hcodes := congrArg (fun d => d.operations.map (·.responses.map (·.code)))
    (Except.ok.inj hsame)
  exact absurd hcodes (by decide)

end ClientGen.Api
