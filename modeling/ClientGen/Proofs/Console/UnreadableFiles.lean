import ClientGen.Proofs.Console.Streams
import ClientGen.Proofs.Steps
import ClientGen.Proofs.Text.Utf8

/-!
# Files that cannot be read

Whatever is wrong with the text of a description, or with that of an options file, is a failure that
a run provides for: it ends with the code for failures of the kind, and says what is wrong. Bytes
that are no text are not provided for. They end a run as something that was not expected
([bad_files_reported]). Both hold as long as what is said is not refused by the console that colours
it ([Ends]).
-/

namespace ClientGen

open Files

/-! ## Texts -/

/-- Whether all that the readers of JSON and YAML find wrong with a text is that it is none of
theirs. Otherwise some part of it has no value. -/
structure PlainlyRead (order : Yaml.SetOrder) (text : String) : Prop where
  json : ∀ fault, Json.read text = .error fault → fault.reading? = none
  yaml : ∀ fault, Yaml.read order text ≠ .error (.reading fault)

section
variable {order : Yaml.SetOrder} {text : String}

/-- Then this is all that is wrong with a description that is read as YAML. -/
theorem Api.parseYaml_ne_reading (h : PlainlyRead order text) (json : Option Json.Fault)
    (fault : ReadingFault) : parseYaml order json text ≠ .error (.reading fault) := by
  unfold parseYaml
  split
  · exact fun heq => nomatch heq
  · next hyaml => exact absurd hyaml (h.yaml _)
  · exact fun heq => nomatch heq
  · exact fun heq => nomatch heq
  · exact fun heq => nomatch heq

/-- And with any description. -/
theorem Api.parseContent_ne_reading (h : PlainlyRead order text) (format : Format)
    (fault : ReadingFault) : parseContent order format text ≠ .error (.reading fault) := by
  unfold parseContent
  split
  · exact parseYaml_ne_reading h none fault
  · split
    · exact fun heq => nomatch heq
    · exact fun heq => nomatch heq
    · next hjson =>
      rw [h.json _ hjson]
      dsimp only
      split
      · exact fun heq => nomatch heq
      · exact parseYaml_ne_reading h _ fault

/-- And with an options file. -/
theorem kind?_of_parseOptionsText (h : PlainlyRead order text) {path : Path}
    {fault : OptionsFileFault} (hparsed : parseOptionsText order path text = .error fault) :
    (Failure.options (.file fault)).kind? = some .configuration := by
  unfold parseOptionsText at hparsed
  split at hparsed
  · cases hjson : Json.read text with
    | ok v =>
      rw [hjson] at hparsed
      cases hparsed
    | error f =>
      rw [hjson, mapError_error, h.json f hjson] at hparsed
      cases hparsed
      rfl
  · cases hyaml : Yaml.read order text with
    | ok v =>
      rw [hyaml] at hparsed
      cases hparsed
    | error f =>
      cases f with
      | malformed =>
        rw [hyaml] at hparsed
        cases hparsed
        rfl
      | reading g => exact absurd hyaml (h.yaml g)

end

/-! ## Files -/

/-- Bytes that are no text have no text as those of a file. -/
theorem exists_fileText_error {bytes : ByteArray} (h : ¬Text.IsText bytes) :
    ∃ fault, fileText bytes = .error fault := by
  obtain ⟨fault, hfault⟩ := Text.exists_decode_error h
  exact ⟨fault, by rw [fileText, hfault]; rfl⟩

/-- Bytes that are one have one. -/
theorem exists_fileText_ok {bytes : ByteArray} (h : Text.IsText bytes) :
    ∃ text, fileText bytes = .ok text := by
  obtain ⟨s, hs⟩ := h
  exact ⟨_, by rw [fileText, Text.decode_eq_ok_iff.2 hs]; rfl⟩

section
variable {order : Yaml.SetOrder} {tree : FileTree} {start : Place} {bytes : ByteArray}

/-- The document in a file is that of its text, if there is more than blanks. -/
theorem Api.loadFile_of_found {source text : String}
    (hfound : tree.findFile start (Path.ofText source) = .ok (some bytes))
    (htext : fileText bytes = .ok text) : loadFile order tree start source =
      if Text.isBlankText text then .error (.empty source)
      else (parseContent order (formatOfPath (Path.ofText source)) text).mapError .content := by
  simp only [loadFile, hfound, htext, mapError_ok, bind, Except.bind]
  split <;> rfl

section
variable {input source : String} {fetch : String → Api.Fetched} (hsource : source ≠ "-")
  (hurl : Api.isUrl source = false)
include hsource hurl

/-- A description that is neither the standard input nor behind a URL is that of a file. -/
theorem Api.load_eq_loadFile : load order tree start input fetch source =
    loadFile order tree start source >>= parseDescription source := by
  rw [load, if_neg hsource, hurl, if_neg Bool.false_ne_true]

variable (hfound : tree.findFile start (Path.ofText source) = .ok (some bytes))
include hfound

/-- A description whose file is no text is not loaded, and a run does not provide for that. -/
theorem exists_load_error (h : ¬Text.IsText bytes) : ∃ fault,
    Api.load order tree start input fetch source = .error fault ∧
      (Failure.description fault).kind? = none := by
  obtain ⟨fault, hfault⟩ := exists_fileText_error h
  refine ⟨.undecodable fault, ?_, rfl⟩
  rw [Api.load_eq_loadFile hsource hurl, Api.loadFile]
  simp only [hfound, hfault, mapError_ok, mapError_error, bind, Except.bind]

/-- If it is one, a run provides for whatever is wrong. -/
theorem kind?_of_load (h : Text.IsText bytes)
    (hread : ∀ text, fileText bytes = .ok text → PlainlyRead order text) {fault : Api.LoadFault}
    (hload : Api.load order tree start input fetch source = .error fault) :
    (Failure.description fault).kind? = some .description := by
  obtain ⟨text, htext⟩ := exists_fileText_ok h
  rw [Api.load_eq_loadFile hsource hurl, Api.loadFile_of_found hfound htext] at hload
  split at hload
  · cases hload
    rfl
  · cases hparsed : Api.parseContent order (Api.formatOfPath (Path.ofText source)) text with
    | error f =>
      rw [hparsed] at hload
      cases hload
      cases f with
      | reading g => exact absurd hparsed (Api.parseContent_ne_reading (hread text htext) _ g)
      | _ => rfl
    | ok v =>
      rw [hparsed] at hload
      change Api.parseDescription source v = .error fault at hload
      unfold Api.parseDescription at hload
      cases hvalid : (Api.readDescription v).toExcept with
      | ok d =>
        rw [hvalid] at hload
        cases hload
      | error faults =>
        rw [hvalid] at hload
        cases hload
        rfl

end

section
variable {path : Path} (hfound : tree.findFile start path = .ok (some bytes))
include hfound

/-- Neither is an options file that is no text, and a run does not provide for that either. -/
theorem exists_loadOptionsFile_error (h : ¬Text.IsText bytes) : ∃ fault,
    loadOptionsFile order tree start path = .error fault ∧
      (Failure.options (.file fault)).kind? = none := by
  obtain ⟨fault, hfault⟩ := exists_fileText_error h
  refine ⟨.undecodable fault, ?_, rfl⟩
  simp only [loadOptionsFile, hfound, hfault, mapError_ok, mapError_error, bind, Except.bind]

/-- If it is one, a run provides for whatever is wrong. -/
theorem kind?_of_loadOptionsFile (h : Text.IsText bytes)
    (hread : ∀ text, fileText bytes = .ok text → PlainlyRead order text) {fault : OptionsFileFault}
    (hload : loadOptionsFile order tree start path = .error fault) :
    (Failure.options (.file fault)).kind? = some .configuration := by
  obtain ⟨text, htext⟩ := exists_fileText_ok h
  simp only [loadOptionsFile, hfound, htext, mapError_ok, bind, Except.bind] at hload
  cases hparsed : parseOptionsText order path text with
  | error f =>
    rw [hparsed] at hload
    cases hload
    exact kind?_of_parseOptionsText (hread text htext) hparsed
  | ok v =>
    rw [hparsed] at hload
    cases v <;> cases hload
    all_goals rfl

end

end

/-! ## Runs -/

namespace Console

/-- How a run ends that has some lines to say and changes nothing. If the console refuses one of them,
which it can only where colours are allowed, the code is that for failures in general. -/
structure Ends (w : World) (r : Reporter) (code : Nat) (lines : List Line) (o : Outcome) :
    Prop where
  taken : (r.colored = true → w.Takes lines) → o = ⟨code, lines, w.tree⟩
  refused : ¬w.Takes lines → o.code = 1 ∧ o.tree = w.tree

section
variable {w : World} {r : Reporter} {lines before : List Line} {tree : FileTree} {f : Failure}

/-- A failure whose report is refused ends a run with the code for failures in general. -/
theorem code_ended_of_refused (h : ¬w.Takes (r.error f.report)) :
    (ended w r lines tree f).code = 1 := by
  rcases World.said_cases w (r.error f.report) with ⟨htakes, _⟩ | ⟨_, _, _, words, _, _, _, hsaid⟩
  · exact absurd htakes h
  · rw [ended, hsaid]
    rfl

/-- So does what is wrong with a line, whether or not its report is taken. -/
theorem code_ended_markup (words : String) : (ended w r lines tree (.markup words)).code = 1 := by
  unfold ended
  split <;> rfl

/-- And so does a failure whose report a command cannot say. -/
theorem code_failed_of_refused (h : ¬w.Takes (r.error f.report)) :
    (failed w r lines tree f).code = 1 := by
  unfold failed
  split
  · exact code_ended_markup _
  · exact code_ended_of_refused h

/-- A run that fails before it has files ends with the report of its failure. -/
theorem ends_of_planned_error {q : GenerateRequest} (h : planned w r q = (before, .error f)) :
    Ends w r f.exitCode (before ++ r.error f.report ++ r.log f.records) (runGenerate w r q) := by
  have hlines : AllDiagnostic r (before ++ r.error f.report ++ r.log f.records) := by
    have hbefore := (tellsBefore_planned w r q).diagnostics
    rw [h] at hbefore
    exact (hbefore.append (allDiagnostic_error r _)).append (allDiagnostic_log r _)
  constructor
  · intro htakes
    have htakes : w.Takes (before ++ r.error f.report ++ r.log f.records) := by
      cases hcolored : r.colored with
      | true => exact htakes hcolored
      | false => exact hlines.takes hcolored w
    rw [World.takes_append, World.takes_append] at htakes
    have hupTo : w.upTo (planned w r q) = (before, .error f) := by
      rw [World.upTo_of_takes (h ▸ htakes.1.1), h]
    rw [runGenerate, hupTo]
    exact failed_of_takes htakes.1.2
  · intro hrefused
    rw [runGenerate]
    rcases World.upTo_cases w (planned w r q) with ⟨hbefore, hsame⟩ | ⟨words, hmarkup⟩
    · rw [hsame, h]
      rw [h] at hbefore
      refine ⟨code_failed_of_refused fun hreport => hrefused ?_, tree_failed⟩
      rw [World.takes_append, World.takes_append]
      exact ⟨⟨hbefore, hreport⟩, takes_log r w f.records⟩
    · rw [hmarkup]
      exact ⟨code_ended_markup words, tree_failed⟩

/-- A failure that a run provides for ends it with the code of its kind, and with its message. -/
theorem ends_of_kind {q : GenerateRequest} (h : planned w r q = (before, .error f))
    {kind : FailureKind} (hkind : f.kind? = some kind) :
    Ends w r kind.exitCode (before ++ r.error f.message) (runGenerate w r q) := by
  have hends := ends_of_planned_error h
  have hlog : r.log [] = [] := rfl
  simp only [Failure.exitCode, Failure.report, Failure.records, hkind, Option.getD_some,
    Option.isSome_some, if_true, hlog, List.append_nil] at hends
  exact hends

/-- What is said of any other failure. -/
def unexpected (r : Reporter) (f : Failure) : List Line :=
  r.error { f.message with headline := "Unexpected error: " ++ f.message.headline } ++
    r.log [⟨.debug, "clientforge.app", "Unhandled exception"⟩]

/-- Any other one ends it with the code of failures in general, and is said to be unexpected. -/
theorem ends_of_none {q : GenerateRequest} (h : planned w r q = (before, .error f))
    (hkind : f.kind? = none) :
    Ends w r FailureKind.general.exitCode (before ++ unexpected r f)
      (runGenerate w r q) := by
  have hends := ends_of_planned_error h
  simp only [Failure.exitCode, Failure.report, Failure.records, hkind, Option.getD_none,
    Option.isSome_none, Bool.false_eq_true, if_false, List.append_assoc] at hends
  exact hends

end

section
variable {w : World} {r : Reporter} {q : GenerateRequest} {b : Backend}

/-- A run whose description is not loaded fails with that. -/
theorem planned_of_load_error (hb : w.registry.get q.backend = .ok b) {fault : Api.LoadFault}
    (hload : Api.load w.setOrder w.tree w.start w.input w.fetch q.input = .error fault) :
    planned w r q = (registryLines w r, .error (.description fault)) := by
  simp only [planned, hb, hload]

/-- A run whose options file is not read fails with that, if the file of the project is. -/
theorem planned_of_options_error (hb : w.registry.get q.backend = .ok b)
    {d : Api.Description}
    (hload : Api.load w.setOrder w.tree w.start w.input w.fetch q.input = .ok d)
    {project : Option RawOptions}
    (hproject : loadProjectOptions w.setOrder w.tree w.start = .ok project)
    {config : String} (hconfig : q.config = some config) {fault : OptionsFileFault}
    (hfile : loadOptionsFile w.setOrder w.tree w.start (Path.ofText config) = .error fault) :
    planned w r q = (registryLines w r ++ r.debug (loadedText d),
      .error (.options (.file fault))) := by
  have hcollect : collect w.setOrder b.options w.tree w.start w.environment q.pairs
      (q.config.map Path.ofText) = .error (.file fault) := by
    simp only [collect, hproject, hconfig, Option.map_some, hfile, mapError_ok, mapError_error,
      bind, Except.bind]
  simp only [planned, hb, hload, hcollect]

end

/-- For a file whose text, if it is one, has a value or is none of a reader's: all that can be wrong
with it, as a description or as options, is provided for just if it is a text. A run then ends with
the code for its kind and says no more than what is wrong; otherwise it ends with the code for
failures in general, and the failure is said to be unexpected. -/
theorem bad_files_reported {bytes : ByteArray} (w : World)
    (hread : ∀ text, fileText bytes = .ok text → PlainlyRead w.setOrder text) (r : Reporter)
    (q : GenerateRequest) :
    (q.input ≠ "-" → Api.isUrl q.input = false →
      w.tree.findFile w.start (Path.ofText q.input) = .ok (some bytes) →
        (Text.IsText bytes → ∀ fault,
          Api.load w.setOrder w.tree w.start w.input w.fetch q.input = .error fault →
            (Failure.description fault).kind? = some .description ∧
            ∀ b, w.registry.get q.backend = .ok b →
              Ends w r 7 (registryLines w r ++ r.error fault.message) (runGenerate w r q)) ∧
        (¬Text.IsText bytes → ∃ fault,
          Api.load w.setOrder w.tree w.start w.input w.fetch q.input = .error fault ∧
            (Failure.description fault).kind? = none ∧
            ∀ b, w.registry.get q.backend = .ok b →
              Ends w r 1 (registryLines w r ++ unexpected r (.description fault))
                (runGenerate w r q))) ∧
    ∀ config, w.tree.findFile w.start (Path.ofText config) = .ok (some bytes) →
      (Text.IsText bytes → ∀ fault,
        loadOptionsFile w.setOrder w.tree w.start (Path.ofText config) = .error fault →
          (Failure.options (.file fault)).kind? = some .configuration ∧
          ∀ b d project, w.registry.get q.backend = .ok b →
            Api.load w.setOrder w.tree w.start w.input w.fetch q.input = .ok d →
            loadProjectOptions w.setOrder w.tree w.start = .ok project → q.config = some config →
              Ends w r 1 (registryLines w r ++ r.debug (loadedText d) ++ r.error fault.message)
                (runGenerate w r q)) ∧
      (¬Text.IsText bytes → ∃ fault,
        loadOptionsFile w.setOrder w.tree w.start (Path.ofText config) = .error fault ∧
          (Failure.options (.file fault)).kind? = none ∧
          ∀ b d project, w.registry.get q.backend = .ok b →
            Api.load w.setOrder w.tree w.start w.input w.fetch q.input = .ok d →
            loadProjectOptions w.setOrder w.tree w.start = .ok project → q.config = some config →
              Ends w r 1 (registryLines w r ++ r.debug (loadedText d) ++
                unexpected r (.options (.file fault))) (runGenerate w r q)) := by
  refine ⟨fun hsource hurl hfound => ⟨?_, ?_⟩, fun config hfound => ⟨?_, ?_⟩⟩
  · intro htext fault hload
    have hkind := kind?_of_load hsource hurl hfound htext hread hload
    exact ⟨hkind, fun b hb => ends_of_kind (planned_of_load_error hb hload) hkind⟩
  · intro htext
    obtain ⟨fault, hload, hkind⟩ := exists_load_error hsource hurl hfound htext
    exact ⟨fault, hload, hkind, fun b hb => ends_of_none (planned_of_load_error hb hload) hkind⟩
  · intro htext fault hload
    have hkind := kind?_of_loadOptionsFile hfound htext hread hload
    refine ⟨hkind, fun b d project hb hd hproject hconfig => ?_⟩
    exact ends_of_kind (planned_of_options_error hb hd hproject hconfig hload) hkind
  · intro htext
    obtain ⟨fault, hload, hkind⟩ := exists_loadOptionsFile_error hfound htext
    refine ⟨fault, hload, hkind, fun b d project hb hd hproject hconfig => ?_⟩
    exact ends_of_none (planned_of_options_error hb hd hproject hconfig hload) hkind

/-- What is seen by a run beside one file. -/
def fileWorld (bytes : ByteArray) : World where
  tree := FileTree.empty.putFileAt ["api.yaml"] bytes
  start := []
  fetch := fun _ => .failed ""

/-- A list is a text, but no description. -/
theorem bad_files_reported_list :
    let w := fileWorld "[1]".toUTF8
    ∃ fault, Api.load w.setOrder w.tree w.start w.input w.fetch "api.yaml" = .error fault ∧
      (Failure.description fault).kind? = some .description ∧
      (∀ r, Ends w r 7 (registryLines w r ++ r.error fault.message)
        (runGenerate w r { input := "api.yaml" })) ∧
      ∀ r, r.colored = false → runGenerate w r { input := "api.yaml" } =
        ⟨7, registryLines w r ++ r.error fault.message, w.tree⟩ := by
  intro w
  have htext : fileText "[1]".toUTF8 = .ok "[1]" := by
    rw [fileText, Text.decode_eq_ok_iff.2 rfl]
    rfl
  have hread : ∀ text, fileText "[1]".toUTF8 = .ok text → PlainlyRead w.setOrder text := by
    intro text hsame
    cases htext.symm.trans hsame
    have hjson : (Json.read "[1]").toOption.isSome = true := by decide +kernel
    have hyaml : (Yaml.read w.setOrder "[1]").toOption.isSome = true := by decide +kernel
    exact ⟨fun fault h => by simp [h, Except.toOption] at hjson,
      fun fault h => by simp [h, Except.toOption] at hyaml⟩
  have hfound : w.tree.findFile w.start (Path.ofText "api.yaml") = .ok (some "[1]".toUTF8) := by rfl
  have hurl : Api.isUrl "api.yaml" = false := by decide +kernel
  have hload : ∃ fault,
      Api.load w.setOrder w.tree w.start w.input w.fetch "api.yaml" = .error fault := by
    have hparsed : (Api.parseContent w.setOrder (Api.formatOfPath (Path.ofText "api.yaml"))
        "[1]").toOption.isNone = true := by decide +kernel
    rw [Api.load_eq_loadFile (by decide) hurl, Api.loadFile_of_found hfound htext,
      if_neg (by decide)]
    revert hparsed
    cases Api.parseContent w.setOrder (Api.formatOfPath (Path.ofText "api.yaml")) "[1]" with
    | ok v => exact fun hparsed => nomatch hparsed
    | error f => exact fun _ => ⟨.content f, rfl⟩
  obtain ⟨fault, hfault⟩ := hload
  have hreported (r : Reporter) := ((bad_files_reported w hread r { input := "api.yaml" }).1
    (by decide) hurl hfound).1 ⟨"[1]", rfl⟩ fault hfault
  have hbackend : w.registry.get JaxrsCxf.name = .ok JaxrsCxf.backend := rfl
  refine ⟨fault, hfault, (hreported (w.reporter {})).1, fun r => (hreported r).2 _ hbackend,
    fun r hcolored => ((hreported r).2 _ hbackend).taken fun hcolors => ?_⟩
  cases hcolored.symm.trans hcolors

/-- The byte 255 is in no text, and a run that is given it ends with the code for failures in
general. -/
theorem undecodable_file_unexpected :
    let w := fileWorld ⟨#[0xFF]⟩
    (∃ fault, Api.load w.setOrder w.tree w.start w.input w.fetch "api.yaml" = .error fault ∧
      (Failure.description fault).kind? = none) ∧
    (∃ fault, loadOptionsFile w.setOrder w.tree w.start (Path.ofText "api.yaml") = .error fault ∧
      (Failure.options (.file fault)).kind? = none) ∧
    (run w ["generate", "-i", "api.yaml"]).code = 1 := by
  intro w
  have htext : ¬Text.IsText ⟨#[0xFF]⟩ := by
    rintro ⟨s, hs⟩
    have hdecoded := Text.decode_eq_ok_iff.2 hs
    rw [Text.decode, Text.toList_eq] at hdecoded
    cases hdecoded
  have hfound : w.tree.findFile w.start (Path.ofText "api.yaml") = .ok (some ⟨#[0xFF]⟩) := by rfl
  have hurl : Api.isUrl "api.yaml" = false := by decide +kernel
  obtain ⟨fault, hload, hkind⟩ : ∃ fault,
      Api.load w.setOrder w.tree w.start w.input w.fetch "api.yaml" = .error fault ∧
        (Failure.description fault).kind? = none :=
    exists_load_error (by decide) hurl hfound htext
  refine ⟨⟨fault, hload, hkind⟩, exists_loadOptionsFile_error hfound htext, ?_⟩
  have hinvocation : Invocation.of ["generate", "-i", "api.yaml"] =
      .run {} (.generate { input := "api.yaml" }) := by
    decide +kernel
  have hbackend : w.registry.get JaxrsCxf.name = .ok JaxrsCxf.backend := rfl
  have htakes (lines : List Line) : w.Takes lines := fun l _ => by
    rw [World.refusal?]
    exact ite_self _
  have hends := ends_of_none (r := w.reporter {})
    (planned_of_load_error (q := { input := "api.yaml" }) hbackend hload) hkind
  rw [run, hinvocation, runInvocation, runCommand, hends.taken fun _ => htakes _]
  rfl

end Console

end ClientGen
