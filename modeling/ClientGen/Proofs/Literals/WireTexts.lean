import ClientGen.Proofs.Imports.Written
import ClientGen.Proofs.Literals.Lengths

/-!
# Names and defaults in annotations

The names of parameters and properties, and defaults that are texts, are sent over the wire, and
annotations tell them in string literals. A name is written there as it is, and of a default the
quotes are taken off that were put around it, with all others at its ends
([Render.SentAs.tellsParameter]). In every client this is so for each property of a schema, in the
class of its model, and for each parameter of an operation, in the interface of each of its groups
([JaxrsCxf.wire_texts_kept_iff]). Nothing is escaped, so a literal denotes the text just if that is
plain.
-/

namespace ClientGen

open Client

namespace Render

/-! ## Literals in code -/

/-- What is around a literal in code, its quotes included. -/
structure LiteralFrame where
  before : String
  after : String

namespace LiteralFrame

/-- The code with something written in the literal. -/
def around (f : LiteralFrame) (written : String) : String := f.before ++ written ++ f.after

/-- Whether some code has a literal in the frame, and the literal denotes a text. -/
def Denotes (f : LiteralFrame) (code value : String) : Prop :=
  ∃ written, code = f.around written ∧ Java.literalText? written = some value

theorem denotes_around_iff {f : LiteralFrame} {written value : String} :
    f.Denotes (f.around written) value ↔ Java.literalText? written = some value := by
  constructor
  · rintro ⟨other, hcode, hread⟩
    rw [around, around, String.append_left_inj, String.append_right_inj] at hcode
    rwa [hcode]
  · exact fun h => ⟨written, rfl, h⟩

end LiteralFrame

/-- The annotation for the name of a parameter, by where it is sent. A body has no name. -/
def nameFrame? (inMultipart : Bool) (p : Api.Parameter) : Option LiteralFrame :=
  match p.location with
  | .path => some ⟨"@PathParam(\"", "\") "⟩
  | .query => some ⟨"@QueryParam(\"", "\") "⟩
  | .header => some ⟨"@HeaderParam(\"", "\") "⟩
  | .cookie => some ⟨"@CookieParam(\"", "\") "⟩
  | .body => none
  | .form =>
    if inMultipart then
      some ⟨"@Multipart(value = \"",
        "\"" ++ (if p.required then "" else ", required = false") ++ ") "⟩
    else some ⟨"@FormParam(\"", "\") "⟩

/-- The annotation for a default. -/
def defaultFrame : LiteralFrame := ⟨"@DefaultValue(\"", "\") "⟩

/-- The annotation for the name of a property. -/
def jsonNameFrame : JsonMapping → LiteralFrame
  | .jackson => ⟨"  @JsonProperty(\"", "\")"⟩
  | .jsonb => ⟨"  @JsonbProperty(\"", "\")"⟩

/-- Whether a line tells the name of a property. The literal denotes it just if it is plain. -/
def TellsProperty (mapping : JsonMapping) (p : Api.Property) (line : String) : Prop :=
  line = (jsonNameFrame mapping).around p.name ∧
    ((jsonNameFrame mapping).Denotes line p.name ↔ Java.IsPlain p.name)

/-- Whether the code of a parameter tells its name, and its default if that is a text and can be
told. The literals denote them just if they are plain. -/
def TellsParameter (inMultipart : Bool) (p : Api.Parameter) (code : String) : Prop :=
  ∃ annotations name default declared, code = annotations ++ name ++ default ++ declared ∧
    (∀ f, nameFrame? inMultipart p = some f →
      name = f.around p.name ∧ (f.Denotes name p.name ↔ Java.IsPlain p.name)) ∧
    ∀ s, p.default = .text s → p.location = .query ∨ p.location = .header →
      default = defaultFrame.around (Text.trimChar '"' s) ∧
        (defaultFrame.Denotes default s ↔ Java.IsPlain s)

/-- Whether a line holds the code of parameters, in their order, with commas in between. -/
def TellsParameters (inMultipart : Bool) (ps : List Api.Parameter) (line : String) : Prop :=
  ∃ before codes after, line = before ++ commaed codes ++ after ∧
    List.Forall₂ (TellsParameter inMultipart) ps codes

/-! ## Parameters and properties -/

theorem tellsProperty (mapping : JsonMapping) (p : Api.Property) :
    TellsProperty mapping p (jsonNameCode p.name mapping) := by
  have hcode : jsonNameCode p.name mapping = (jsonNameFrame mapping).around p.name := by
    cases mapping <;> rfl
  refine ⟨hcode, ?_⟩
  rw [hcode, LiteralFrame.denotes_around_iff, Java.literalText?_eq_self_iff]

/-- Whether a parameter of a client is sent as a described one, with its name and its default. -/
structure SentAs (inMultipart : Bool) (p : Api.Parameter) (q : Parameter) : Prop where
  baseName : q.baseName = p.name
  location : q.location = p.location
  required : q.required = p.required
  default : q.default = codeDefault p.default
  inMultipart : q.inMultipart = inMultipart

section
variable {inMultipart : Bool} {p : Api.Parameter} {q : Parameter}

/-- The code for the name of a parameter is its frame with the name in it. -/
theorem SentAs.locationCode_eq (h : SentAs inMultipart p q) {f : LiteralFrame}
    (hf : nameFrame? inMultipart p = some f) : locationCode q = f.around p.name := by
  unfold nameFrame? at hf
  unfold locationCode
  rw [h.location, h.baseName, h.required, h.inMultipart]
  cases hp : p.location with
  | body =>
    rw [hp] at hf
    cases hf
  | path | query | header | cookie =>
    rw [hp] at hf
    cases hf
    rfl
  | form =>
    rw [hp] at hf
    cases inMultipart with
    | false =>
      cases hf
      rfl
    | true =>
      cases hf
      simp only [LiteralFrame.around, if_true, String.append_assoc]

/-- Of a default that is a text, the quotes around it are taken off with those at its ends. -/
theorem SentAs.defaultCode_eq (h : SentAs inMultipart p q) {s : String} (hs : p.default = .text s)
    (hlocation : p.location = .query ∨ p.location = .header) :
    defaultCode q = defaultFrame.around (Text.trimChar '"' s) := by
  have hquoted : q.default = some ("\"" ++ s ++ "\"") := by
    rw [h.default, hs]
    rfl
  have htrim : Text.trimChar '"' ("\"" ++ s ++ "\"") = Text.trimChar '"' s := by
    rw [Text.trimChar, String.toList_append, String.toList_append]
    exact congrArg String.ofList (Text.dropEnds_quoted rfl s.toList)
  have hcan : (q.location == .query || q.location == .header) = true := by
    rw [h.location]
    rcases hlocation with hp | hp <;> rw [hp] <;> rfl
  unfold defaultCode
  rw [hquoted]
  simp only [hcan, if_true, htrim]
  rfl

/-- So its code tells its name and its default, whatever its type and its annotations are. -/
theorem SentAs.tellsParameter (h : SentAs inMultipart p q) :
    TellsParameter inMultipart p (parameterCode q) := by
  refine ⟨String.join (q.annotations.map (·.text ++ " ")), locationCode q, defaultCode q,
    argumentType q ++ " " ++ argumentName q, ?_, fun f hf => ?_, fun s hs hlocation => ?_⟩
  · simp only [parameterCode, String.append_assoc]
  · rw [h.locationCode_eq hf]
    exact ⟨rfl, LiteralFrame.denotes_around_iff.trans Java.literalText?_eq_self_iff⟩
  · rw [h.defaultCode_eq hs hlocation]
    exact ⟨rfl, LiteralFrame.denotes_around_iff.trans Java.literalText?_trimChar_iff⟩

end

end Render

namespace JaxrsCxf

open Render

/-! ## Clients -/

/-- Whether an operation takes a form of several parts. -/
def takesParts (o : Api.Operation) : Bool := o.consumes.any (Text.startsWith · multipartForm)

section
variable {d : Api.Description} {c : Configuration}

/-- The parameters of a member are sent as those of its operation. -/
theorem IsFinished.parameters {tag : String} {o : Api.Operation} {m : Operation}
    (hm : IsFinished d c tag o m) :
    List.Forall₂ (SentAs (takesParts o)) o.parameters m.parameters := by
  obtain ⟨joined, hjoined, rfl⟩ := hm
  have hparameters : joined.parameters = o.parameters.map fun p =>
      (prepareParameter backend.typeTable (schemaNames d) p).1 :=
    hjoined.parameters.trans List.map_map
  have hparts : joined.takesMultipart = takesParts o := by
    rw [Operation.takesMultipart, hjoined.consumes]
    rfl
  rw [Operation.parameters_finished, hparameters, List.map_map]
  refine List.forall₂_map_right_iff.2 (List.forall₂_same.2 fun p _ => ?_)
  rw [Function.comp_apply, hparts]
  cases c.operationFeatures.beanValidation <;> exact ⟨rfl, rfl, rfl, rfl, rfl⟩

/-- The method of an operation tells its parameters. -/
theorem tellsParameters {g : Group} (hg : g ∈ (groupsOf d backend.selectFiles c).groups)
    {o : Api.Operation} (ho : o ∈ d.operations) (htag : g.name ∈ tagsFor o) :
    ∃ line ∈ interfaceLines d c g, TellsParameters (takesParts o) o.parameters line := by
  obtain ⟨m, hm, hfinished⟩ := exists_mem_of_forall₂ (members_of_mem_groups hg).flip
    (List.mem_filter.2 ⟨ho, decide_eq_true htag⟩)
  replace hfinished : IsFinished d c g.name o m := hfinished
  refine ⟨"    public " ++ m.renderedReturnType.getD "void" ++ " " ++ m.nickname ++ "(" ++
    commaed (m.parameters.map parameterCode) ++ ");", ?_, _, m.parameters.map parameterCode, ");",
    rfl, ?_⟩
  · have hmethod : "    public " ++ m.renderedReturnType.getD "void" ++ " " ++ m.nickname ++ "(" ++
        commaed (m.parameters.map parameterCode) ++ ");" ∈ operationCode m := by
      simp [operationCode]
    rw [interfaceLines, groupInterface]
    exact List.mem_append_left _ (List.mem_append_right _ (List.mem_flatMap.2 ⟨m, hm, hmethod⟩))
  · exact List.forall₂_map_right_iff.2 (hfinished.parameters.imp fun p q h => h.tellsParameter)

/-- The class of a model tells the names of its properties. -/
theorem tellsProperties {x : Api.Schema} {p : Api.Property} (hp : p ∈ x.properties) :
    ∃ line ∈ modelLines d c x, TellsProperty c.jsonMapping p line := by
  obtain ⟨q, hq, hname⟩ : ∃ q ∈ (modelOf (schemaNames d) c.modelFeatures x).properties,
      q.baseName = p.name := by
    rw [properties_modelOf, properties_prepareModel, List.map_map]
    refine ⟨_, List.mem_map_of_mem hp, ?_⟩
    rw [Function.comp_apply]
    split <;> rfl
  refine ⟨jsonNameCode p.name c.jsonMapping, ?_, tellsProperty c.jsonMapping p⟩
  have hfield : jsonNameCode p.name c.jsonMapping ∈ fieldCode q c.jsonMapping := by
    rw [← hname]
    simp [fieldCode]
  have hfields : jsonNameCode p.name c.jsonMapping ∈
      (modelOf (schemaNames d) c.modelFeatures x).properties.flatMap (fieldCode · c.jsonMapping) :=
    List.mem_flatMap.2 ⟨q, hq, hfield⟩
  rw [modelLines, modelClass]
  simp only [List.mem_append]
  exact .inl (.inl (.inl (.inr hfields)))

end

/-- With keys that are texts there is a client just if all that a run is asked to write has a text.
It has a file for each schema, in which each property of it is told by its name, and a file for each
group of operations, in which each parameter of its operations is told by its name and by its
default: as it is written in a literal, where it is denoted just if it is plain. -/
theorem wire_texts_kept_iff (d : Api.Description) (raw : RawOptions) :
    (TextKeys raw → ((∃ r, generate d backend raw = .ok r) ↔ HasTexts d raw)) ∧
      ∀ r, generate d backend raw = .ok r → ∃ c, resolve backend.options raw = .ok c ∧
        (∀ x ∈ d.schemas, (∃ file ∈ r.files, file.content = textOf (modelLines d c x)) ∧
          ∀ p ∈ x.properties, ∃ line ∈ modelLines d c x, TellsProperty c.jsonMapping p line) ∧
        ∀ g ∈ (groupsOf d backend.selectFiles c).groups,
          (∃ file ∈ r.files, file.content = textOf (interfaceLines d c g)) ∧
          ∀ o ∈ d.operations, g.name ∈ tagsFor o →
            ∃ line ∈ interfaceLines d c g, TellsParameters (takesParts o) o.parameters line := by
  refine ⟨exists_generate_iff d raw, fun r hr => ?_⟩
  obtain ⟨c, folders, hc, _, hfiles⟩ := exists_filesOf hr
  have hcontent {text : String} (htext : text ∈ r.files.map (·.content)) :
      ∃ file ∈ r.files, file.content = text := List.mem_map.1 htext
  rw [hfiles] at hcontent ⊢
  simp only [contents_filesOf, List.mem_append, List.mem_map, List.mem_flatMap] at hcontent
  refine ⟨c, hc, fun x hx => ⟨hcontent (.inl (.inl ⟨x, hx, rfl⟩)), fun p => tellsProperties⟩,
    fun g hg => ⟨hcontent (.inl (.inr ⟨g, hg, List.mem_cons_self⟩)),
      fun o ho htag => tellsParameters hg ho htag⟩⟩

/-- Pets with photographs, which are asked for if there are any. -/
def photoDescription : Api.Description where
  title := "Pets"
  operations := [
    { method := .get
      path := "/pets"
      parameters := [{ name := "If-Match", location := .header, default := .text "*" }] }]
  schemas := [{ name := "pet", properties := [{ name := "photo-urls" }] }]

/-- The names and the default are plain, so the literals denote them. -/
theorem wire_texts_kept_iff_photos :
    ∃ r c, generate photoDescription backend [] = .ok r ∧ resolve backend.options [] = .ok c ∧
      (∀ x ∈ photoDescription.schemas, ∃ line ∈ modelLines photoDescription c x,
        (jsonNameFrame c.jsonMapping).Denotes line "photo-urls") ∧
      ∃ g ∈ (groupsOf photoDescription backend.selectFiles c).groups,
        ∃ line ∈ interfaceLines photoDescription c g, ∃ before name default after,
          line = before ++ name ++ default ++ after ∧
          LiteralFrame.Denotes ⟨"@HeaderParam(\"", "\") "⟩ name "If-Match" ∧
          defaultFrame.Denotes default "*" := by
  obtain ⟨hexists, hall⟩ := wire_texts_kept_iff photoDescription []
  obtain ⟨r, hr⟩ := (hexists fun e he => by cases he).2 (by decide +kernel)
  obtain ⟨c, hc, hmodels, hgroups⟩ := hall r hr
  refine ⟨r, c, hr, hc, fun x hx => ?_, ?_⟩
  · obtain rfl := List.mem_singleton.1 hx
    obtain ⟨line, hline, _, htold⟩ := (hmodels _ hx).2 _ List.mem_cons_self
    exact ⟨line, hline, htold.2 (by decide)⟩
  · obtain ⟨g, hg, hname⟩ : ∃ g ∈ (groupsOf photoDescription backend.selectFiles c).groups,
        g.name = "default" := ⟨_, .head _, rfl⟩
    obtain ⟨line, hline, before, codes, after, rfl, htold⟩ :=
      (hgroups g hg).2 _ List.mem_cons_self (hname ▸ by decide)
    obtain ⟨code, rest, hcode, hrest, rfl⟩ := List.forall₂_cons_left_iff.1 htold
    obtain rfl := List.forall₂_nil_left_iff.1 hrest
    obtain ⟨annotations, name, default, declared, rfl, hnamed, hdefault⟩ := hcode
    refine ⟨g, hg, _, hline, before ++ annotations, name, default, declared ++ after, ?_,
      (hnamed _ rfl).2.2 (by decide), (hdefault "*" rfl (.inr rfl)).2.2 (by decide)⟩
    simp only [commaed, String.intercalate_singleton, String.append_assoc]

/-- A name and a default with quotes. The literal of the name ends before the name does, and from
the default the quotes are gone. -/
theorem quoted_texts_not_kept :
    let name := "say \"hi\""
    let p : Api.Parameter := { name, location := .header, default := .text "\"1\"" }
    let q := (prepareParameter backend.typeTable [] p).1
    Java.OneLine name ∧ Java.OneLine "\"1\"" ∧
      jsonNameCode name .jackson = "  @JsonProperty(\"say \"hi\"\")" ∧
      ¬(jsonNameFrame .jackson).Denotes (jsonNameCode name .jackson) name ∧
      locationCode q = "@HeaderParam(\"say \"hi\"\") " ∧
      ¬LiteralFrame.Denotes ⟨"@HeaderParam(\"", "\") "⟩ (locationCode q) name ∧
      defaultCode q = "@DefaultValue(\"1\") " ∧
      defaultFrame.Denotes (defaultCode q) "1" ∧ ¬defaultFrame.Denotes (defaultCode q) "\"1\"" := by
  intro name p q
  have hq : SentAs false p q := ⟨rfl, rfl, rfl, rfl, rfl⟩
  have hdefault : defaultCode q = defaultFrame.around "1" :=
    (hq.defaultCode_eq rfl (.inr rfl)).trans (by decide +kernel)
  have hplain : ¬Java.IsPlain name := by decide
  refine ⟨by decide, by decide, by decide +kernel, ?_, by decide +kernel, ?_, by decide +kernel,
    ?_, ?_⟩
  · exact fun h => hplain ((tellsProperty .jackson { name }).2.1 h)
  · rw [hq.locationCode_eq rfl, LiteralFrame.denotes_around_iff, Java.literalText?_eq_self_iff]
    exact hplain
  · rw [hdefault, LiteralFrame.denotes_around_iff]
    decide +kernel
  · rw [hdefault, LiteralFrame.denotes_around_iff]
    decide +kernel

end JaxrsCxf

end ClientGen
