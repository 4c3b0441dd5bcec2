import ClientGen.Client.ModelHooks
import ClientGen.Client.OperationHooks
import ClientGen.Proofs.Literals.Reading
import ClientGen.Render.ModelClass

/-!
# Patterns in annotations

The annotation for a pattern has the pattern in a string literal whose backslashes and quotes are
escaped, in front of a field ([mem_fieldCode_of_mem]) or a parameter
([exists_parameterCode_of_mem]). Nothing else is escaped, so the literal denotes the pattern just if
that is on one line ([pattern_kept_iff]); with the escapes of other literals a line feed would be
kept, too.
-/

namespace ClientGen

/-! ## Escaped texts -/

namespace Java

/-- Whether every quote is behind a backslash that is not escaped itself. The first argument says
whether the character in front is such a backslash. -/
def quotesEscaped : Bool → List Char → Bool
  | _, [] => true
  | true, _ :: rest => quotesEscaped false rest
  | false, c :: rest => c ≠ '"' && quotesEscaped (c = '\\') rest

/-- If no character is written with a quote of its own or leaves what follows escaped, then every
quote is escaped. -/
theorem quotesEscaped_flatMap {block : Char → List Char}
    (h : ∀ c rest, quotesEscaped false (block c ++ rest) = quotesEscaped false rest)
    (cs : List Char) : quotesEscaped false (cs.flatMap block) = true := by
  induction cs with
  | nil => rfl
  | cons c rest ih => rw [List.flatMap_cons, h, ih]

theorem quotesEscaped_escapeQuote (c : Char) (rest : List Char) :
    quotesEscaped false (escapeQuote c ++ rest) = quotesEscaped false rest := by
  unfold escapeQuote
  split
  · rfl
  · next h =>
    simp only [Bool.or_eq_true, decide_eq_true_eq, not_or] at h
    simp [quotesEscaped, h]

/-- A text with its quotes escaped has no other quotes. -/
theorem quotesEscaped_escapeQuotes (s : String) :
    quotesEscaped false (escapeQuotes s).toList = true := by
  rw [escapeQuotes, String.toList_ofList]
  exact quotesEscaped_flatMap quotesEscaped_escapeQuote s.toList

/-- Escapes of quotes leave the ends of lines. -/
theorem mem_escapeQuotes_iff {s : String} {c : Char} (hc : isLineEnd c = true) :
    c ∈ (escapeQuotes s).toList ↔ c ∈ s.toList := by
  have hblock (d : Char) : c ∈ escapeQuote d ↔ c = d := by
    have hslash : c ≠ '\\' := by
      rintro rfl
      cases hc
    unfold escapeQuote
    split <;> simp [hslash]
  simp [escapeQuotes, hblock]

theorem oneLine_escapeQuotes_iff {s : String} : OneLine (escapeQuotes s) ↔ OneLine s := by
  have hiff (t : String) : OneLine t ↔ ∀ c, isLineEnd c = true → c ∉ t.toList := by
    refine forall_congr' fun c => ?_
    cases isLineEnd c <;> simp
  rw [hiff, hiff]
  exact forall₂_congr fun c hc => not_congr (mem_escapeQuotes_iff hc)

/-- With the escapes of other literals there are no line feeds. -/
theorem not_mem_escapeText (s : String) : '\n' ∉ (escapeText s).toList := by
  have hblock (c : Char) : '\n' ∉ escapeChar c := by
    unfold escapeChar escapeQuote
    split
    · decide
    · next hc => split <;> simp [Ne.symm hc]
  rw [escapeText, String.toList_ofList, List.mem_flatMap]
  rintro ⟨c, _, hc⟩
  exact hblock c hc

/-- The two kinds of escapes differ in line feeds only. -/
theorem escapeQuotes_eq_escapeText_iff {s : String} :
    escapeQuotes s = escapeText s ↔ '\n' ∉ s.toList := by
  constructor
  · intro h hin
    exact not_mem_escapeText s (h ▸ (mem_escapeQuotes_iff rfl).2 hin)
  · intro h
    refine congrArg String.ofList (List.flatMap_congr fun c hc => ?_)
    have hne : c ≠ '\n' := fun he => h (he ▸ hc)
    exact (if_neg hne).symm

end Java

/-! ## Annotations in code -/

namespace Render

open Client

/-- Every annotation of a property has a line in front of its field. -/
theorem mem_fieldCode_of_mem {p : Property} {a : Annotation} (h : a ∈ p.annotations)
    (mapping : JsonMapping) : "  " ++ a.text ∈ fieldCode p mapping := by
  have hline : "  " ++ a.text ∈ p.annotations.map fun a => "  " ++ a.text :=
    List.mem_map.2 ⟨a, h, rfl⟩
  unfold fieldCode
  exact List.mem_append_left _ (List.mem_append_right _ hline)

/-- Every annotation of a parameter is in front of it. -/
theorem exists_parameterCode_of_mem {p : Parameter} {a : Annotation} (h : a ∈ p.annotations) :
    ∃ before after, parameterCode p = before ++ a.text ++ " " ++ after := by
  obtain ⟨first, rest, hsplit⟩ := List.append_of_mem h
  refine ⟨String.join (first.map fun a => a.text ++ " "),
    String.join (rest.map fun a => a.text ++ " ") ++ locationCode p ++ defaultCode p ++
      argumentType p ++ " " ++ argumentName p, ?_⟩
  rw [parameterCode, hsplit, List.map_append, List.map_cons, String.join_append, String.join_cons]
  simp only [String.append_assoc]

end Render

/-! ## Annotations for patterns -/

namespace Client

/-- Whether a text is an annotation whose literal is on one line and denotes a pattern. -/
def KeepsPattern (pattern text : String) : Prop :=
  ∃ literal, text = "@Pattern(regexp=\"" ++ literal ++ "\")" ∧ Java.OneLine literal ∧
    Java.quotesEscaped false literal.toList = true ∧ Java.literalText? literal = some pattern

theorem text_pattern (p : String) :
    Annotation.text (.pattern p) = "@Pattern(regexp=\"" ++ Java.escapeQuotes p ++ "\")" := by
  have hhead : "@Pattern(regexp=\"" = "@" ++ "Pattern" ++ "(" ++ "regexp=\"" := by decide
  have htail : "\")" = "\"" ++ ")" := by decide
  rw [hhead, htail]
  change "@" ++ "Pattern" ++ ("(" ++ ("regexp=\"" ++ Java.escapeQuotes p ++ "\"") ++ ")") = _
  simp only [String.append_assoc]

/-- The annotation of a pattern keeps it just if it is on one line. -/
theorem keepsPattern_iff {p : String} :
    let code := Annotation.text (.pattern p)
    KeepsPattern p code ↔ Java.OneLine p := by
  constructor
  · rintro ⟨literal, htext, hline, -, -⟩
    rw [text_pattern, String.append_left_inj, String.append_right_inj] at htext
    rw [← htext] at hline
    exact Java.oneLine_escapeQuotes_iff.1 hline
  · intro h
    refine ⟨Java.escapeQuotes p, text_pattern p, Java.oneLine_escapeQuotes_iff.2 h,
      Java.quotesEscaped_escapeQuotes p, ?_⟩
    rw [Java.literalText?_escapeQuotes, if_pos h]

/-- Constraints have one annotation for their pattern. -/
theorem filter_pattern_annotationsFor {c : Api.Constraints} {p : String} (h : c.pattern = some p)
    (required isModel : Bool) :
    ((annotationsFor c required isModel).filter fun a => a.name = "Pattern") = [.pattern p] := by
  have hother {α : Type} {f : α → Annotation} (hf : ∀ x, (f x).name ≠ "Pattern")
      (bound : Option α) : ((bound.map f).toList.filter fun a => a.name = "Pattern") = [] := by
    cases bound <;> simp [hf]
  have hsize (least greatest : Option Int) :
      ((sizeAnnotation? least greatest).toList.filter fun a => a.name = "Pattern") = [] := by
    unfold sizeAnnotation?
    split <;> rfl
  have hleast := hother (f := (.decimalMin · c.exclusiveMinimum)) (by simp [ Annotation.name])
    c.minimum
  have hgreatest := hother (f := (.decimalMax · c.exclusiveMaximum)) (by simp [ Annotation.name])
    c.maximum
  simp only [annotationsFor, List.filter_append, hsize, hleast, hgreatest, h]
  cases required <;> cases isModel <;> rfl

/-- Constraints with a pattern have one annotation for it, which is written in the code of their
property or parameter. It keeps the pattern just if that is on one line. Other quotes never end its
literal; the escapes of other literals are the same just if there is no line feed. -/
theorem pattern_kept_iff (c : Api.Constraints) {p : String} (h : c.pattern = some p)
    (required isModel : Bool) :
    let code := Annotation.text (.pattern p)
    ((annotationsFor c required isModel).filter fun a => a.name = "Pattern") = [.pattern p] ∧
      code = "@Pattern(regexp=\"" ++ Java.escapeQuotes p ++ "\")" ∧
      Java.quotesEscaped false (Java.escapeQuotes p).toList = true ∧
      (KeepsPattern p code ↔ Java.OneLine p) ∧
      (Java.escapeQuotes p = Java.escapeText p ↔ '\n' ∉ p.toList) ∧
      (∀ q : Property, q.constraints = c → ∀ mapping,
        "  " ++ code ∈ Render.fieldCode q.validated mapping) ∧
      ∀ q : Parameter, q.constraints = c → ∃ before after,
        Render.parameterCode q.validated = before ++ code ++ " " ++ after := by
  have hmem (required isModel : Bool) : .pattern p ∈ annotationsFor c required isModel := by
    refine List.mem_of_mem_filter (p := fun a => a.name = "Pattern") ?_
    rw [filter_pattern_annotationsFor h]
    exact List.mem_singleton_self _
  refine ⟨filter_pattern_annotationsFor h required isModel, text_pattern p,
    Java.quotesEscaped_escapeQuotes p, keepsPattern_iff, Java.escapeQuotes_eq_escapeText_iff,
    fun q hq mapping => ?_, fun q hq => ?_⟩
  · subst hq
    exact Render.mem_fieldCode_of_mem (hmem q.required q.isModel) mapping
  · subst hq
    exact Render.exists_parameterCode_of_mem (hmem q.required (q.isModel && q.location == .body))

/-- Backslashes and quotes are kept, and what looks like a Unicode escape. -/
theorem pattern_kept_iff_escapes :
    let c : Api.Constraints := { pattern := some "\\u0041\\d+\"" }
    let code := Annotation.text (.pattern "\\u0041\\d+\"")
    c.pattern = some "\\u0041\\d+\"" ∧ Java.OneLine "\\u0041\\d+\"" ∧
      code = "@Pattern(regexp=\"\\\\u0041\\\\d+\\\"\")" ∧
      (annotationsFor c true false).map (·.text) = ["@NotNull", code] ∧
      KeepsPattern "\\u0041\\d+\"" code := by
  intro c code
  have hline : Java.OneLine "\\u0041\\d+\"" := by decide
  exact ⟨rfl, hline, by decide +kernel, by decide +kernel,
    (pattern_kept_iff c rfl true false).2.2.2.1.2 hline⟩

/-- A pattern that ends with a line feed is not kept, and its literal is not the one that the other
escapes lead to. -/
theorem pattern_with_line_feed_broken :
    let c : Api.Constraints := { pattern := some "a\n" }
    let code := Annotation.text (.pattern "a\n")
    (annotationsFor c false false).map (·.text) = [code] ∧ code = "@Pattern(regexp=\"a\n\")" ∧
      ¬Java.OneLine code ∧ ¬KeepsPattern "a\n" code ∧
      '\r' ∉ "a\n".toList ∧ Java.escapeQuotes "a\n" ≠ Java.escapeText "a\n" ∧
      Java.literalText? (Java.escapeText "a\n") = some "a\n" :=
  ⟨by decide +kernel, by decide +kernel, by decide +kernel, mt keepsPattern_iff.1 (by decide),
    by decide, by decide +kernel, by decide +kernel⟩

end Client

end ClientGen
