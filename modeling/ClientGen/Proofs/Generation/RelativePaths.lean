import ClientGen.Proofs.Files.Confinement
import ClientGen.Proofs.Generation.Paths
import Mathlib.Data.List.Induction
import Mathlib.Data.List.TakeWhile

/-!
# Paths below the output directory

A path that is relative and has no double dots leads below wherever it is followed from
([Files.Path.settle_eq_append]), so that a file with such a path is never refused for being outside
the output directory ([Files.fault_ne_outside]). The source folder of a client is taken off the
slashes at its ends before the packages are put behind it. If something is left of it, the paths of
the client are relative; if not, those of its models and interfaces begin with the slash that
follows ([JaxrsCxf.paths_relative_iff]).
-/

namespace ClientGen

/-! ## Segments -/

namespace Text

/-- The pieces of a list of characters that have something in them. -/
def filledPieces (sep : Char) (cs : List Char) : List (List Char) :=
  (pieces sep cs).filter fun p => !p.isEmpty

section
variable (sep : Char)

/-- At a separator those of what is before it end, and those of the rest begin. -/
theorem filledPieces_append_sep (cs rest : List Char) :
    filledPieces sep (cs ++ sep :: rest) = filledPieces sep cs ++ filledPieces sep rest := by
  rw [filledPieces, pieces_append_sep, List.filter_append, filledPieces, filledPieces]

/-- Separators in front do not matter. -/
theorem filledPieces_dropWhile (cs : List Char) :
    filledPieces sep (cs.dropWhile (· == sep)) = filledPieces sep cs := by
  induction cs with
  | nil => rfl
  | cons c rest ih =>
    by_cases hc : c = sep
    · have hsep : filledPieces sep (c :: rest) = filledPieces sep rest := by
        rw [hc, filledPieces, pieces_sep]
        rfl
      rw [List.dropWhile_cons, if_pos (beq_iff_eq.2 hc), ih, hsep]
    · rw [List.dropWhile_cons, if_neg (by simpa using hc)]

/-- Nor do separators at the end. -/
theorem filledPieces_dropEnd (cs : List Char) :
    filledPieces sep (dropEnd (· == sep) cs) = filledPieces sep cs := by
  induction cs using List.reverseRecOn with
  | nil => rfl
  | append_singleton cs c ih =>
    by_cases hc : c = sep
    · have hdrop : dropEnd (· == sep) (cs ++ [c]) = dropEnd (· == sep) cs := by
        simp [dropEnd, hc]
      rw [hdrop, ih, hc, filledPieces_append_sep]
      exact (List.append_nil _).symm
    · rw [@dropEnd_append (· == sep) c (beq_eq_false_iff_ne.2 hc)]
      rfl

/-- What is left without separators at the ends is nothing, or begins with something else. -/
theorem dropEnds_cases (cs : List Char) :
    dropEnds (· == sep) cs = [] ∧ (∀ c ∈ cs, c = sep) ∨
      ∃ c rest, dropEnds (· == sep) cs = c :: rest ∧ c ∈ cs ∧ c ≠ sep := by
  rw [dropEnds]
  cases hcs : cs.dropWhile (· == sep) with
  | nil =>
    have hall := List.dropWhile_eq_nil_iff.1 hcs
    exact .inl ⟨rfl, fun c hc => eq_of_beq (hall c hc)⟩
  | cons c after =>
    have hne : (c == sep) = false := by
      have hhead := List.head_dropWhile_not (· == sep) (hcs ▸ List.cons_ne_nil c after)
      simpa only [hcs, List.head_cons] using hhead
    have hmem : c ∈ cs := (List.dropWhile_sublist _).subset (hcs ▸ List.mem_cons_self)
    exact .inr ⟨c, dropEnd (· == sep) after, @dropEnd_append (· == sep) c hne [] after, hmem,
      beq_eq_false_iff_ne.1 hne⟩

end

end Text

namespace Files.Path

/-- The segments of a path are the pieces of its text that have something in them, without single
dots. -/
theorem parts_ofText (s : String) :
    (ofText s).parts =
      ((Text.filledPieces '/' s.toList).map String.ofList).filter (· != ".") := by
  have hempty (p : List Char) : (String.ofList p != "") = !p.isEmpty := by
    cases p with
    | nil => rfl
    | cons c rest =>
      rw [bne_iff_ne.2 fun h => by simpa using congrArg String.toList h]
      rfl
  simp only [ofText, Text.filledPieces, List.filter_map, List.filter_filter, Function.comp_def,
    hempty, Bool.and_comm]

/-- Behind a slash the segments of the rest begin. -/
theorem parts_ofText_slash (folder rest : String) :
    (ofText (folder ++ "/" ++ rest)).parts = (ofText folder).parts ++ (ofText rest).parts := by
  have hslash : (folder ++ "/" ++ rest).toList = folder.toList ++ '/' :: rest.toList := by simp
  simp only [parts_ofText, hslash, Text.filledPieces_append_sep, List.map_append,
    List.filter_append]

/-- Slashes at the ends of a text make no segments. -/
theorem parts_ofText_trimChar (s : String) :
    (ofText (Text.trimChar '/' s)).parts = (ofText s).parts := by
  rw [parts_ofText, parts_ofText, Text.trimChar, String.toList_ofList, Text.dropEnds,
    Text.filledPieces_dropEnd, Text.filledPieces_dropWhile]

/-- A segment has no other characters than the text. -/
theorem mem_toList_of_mem_parts {s p : String} (hp : p ∈ (ofText s).parts) {c : Char}
    (hc : c ∈ p.toList) : c ∈ s.toList := by
  obtain ⟨hp, -⟩ := List.mem_filter.1 hp
  obtain ⟨q, hq, rfl⟩ := List.mem_map.1 hp
  rw [String.toList_ofList] at hc
  exact Text.mem_of_mem_pieces hq hc

/-- Behind a folder without slashes at its ends a path is absolute just if the folder is gone. -/
theorem isAbsolute_trimmed (folder rest : String) :
    (ofText (Text.trimChar '/' folder ++ "/" ++ rest)).isAbsolute = false ↔
      ∃ c ∈ folder.toList, c ≠ '/' := by
  rw [isAbsolute_ofText, startsWith_slash]
  simp only [Text.startsWith, Text.trimChar, String.toList_append, String.toList_ofList]
  rcases Text.dropEnds_cases '/' folder.toList with ⟨hnone, hslashes⟩ | ⟨c, rest, hc, hmem, hne⟩
  · rw [hnone]
    refine iff_of_false (by decide) ?_
    rintro ⟨c, hc, hne⟩
    exact hne (hslashes c hc)
  · rw [hc]
    exact iff_of_true (by simp [List.isPrefixOf, Ne.symm hne]) ⟨c, hmem, hne⟩

/-- A relative path without double dots leads below wherever it is followed from. -/
theorem settle_eq_append {p : Path} (hrelative : p.isAbsolute = false) (hdots : ".." ∉ p.parts)
    (base : Place) : p.settle base = base ++ p.parts := by
  rw [settle, hrelative, if_neg Bool.false_ne_true]
  generalize p.parts = parts at hdots
  induction parts generalizing base with
  | nil => exact (List.append_nil base).symm
  | cons s rest ih =>
    rw [List.mem_cons, not_or] at hdots
    rw [List.foldl_cons, ih _ hdots.2, stepTo, if_neg (Ne.symm hdots.1), List.append_assoc]
    rfl

end Files.Path

namespace Files

section
variable {base : Place} {files : List GeneratedFile} {t t' : FileTree}

/-- A file inside is not refused for being outside. -/
theorem writeFile_ne_outside {f : GeneratedFile} (h : base <+: targetOf base f) (path : String) :
    writeFile base t f ≠ (t', .error (.outside path)) := by
  have hinside : isInside (targetOf base f) base = true := by
    rwa [isInside, List.isPrefixOf_iff_prefix]
  have hreplace : replaceFile t (targetOf base f) f ≠ (t', .error (.outside path)) := by
    unfold replaceFile
    split <;> (intro h; cases h)
  unfold writeFile
  simp only [hinside, Bool.not_true, Bool.false_eq_true, if_false]
  split
  · intro h
    cases h
  · split
    · exact hreplace
    · split
      · intro h
        cases h
      · intro h
        cases h
      · exact hreplace

/-- No file is, if all paths are relative and have no double dots. -/
theorem fault_ne_outside (hrelative : ∀ f ∈ files, (Path.ofText f.path).isAbsolute = false)
    (hdots : ∀ f ∈ files, ".." ∉ (Path.ofText f.path).parts) (path : String) :
    (writeFiles base files t).fault ≠ some (.outside path) := by
  intro hfault
  obtain ⟨k, f, fault, hk, hearlier, hstop⟩ := exists_stop (hfault ▸ Option.some_ne_none _)
  have hmem := List.mem_of_getElem? hk
  have hsame := (writeFiles_of_stop hk hearlier hstop).2
  rw [hfault] at hsame
  cases hsame
  refine writeFile_ne_outside ?_ path hstop
  rw [targetOf, Path.settle_eq_append (hrelative f hmem) (hdots f hmem)]
  exact List.prefix_append base _

end

end Files

open Client Files Render

/-! ## Folders -/

/-- The folder of a package has no dots. -/
theorem dot_not_mem_packagePath (package : String) : '.' ∉ (packagePath package).toList := by
  rw [packagePath, Text.toList_replaceAll_char (c := '.') rfl, List.mem_flatMap]
  rintro ⟨c, -, hc⟩
  split at hc
  · exact absurd hc (by decide)
  · next hne => exact hne (List.mem_singleton.1 hc).symm

/-- So a double dot is none of its segments. -/
theorem dots_not_mem_parts_of_dot {s : String} (h : '.' ∉ s.toList) :
    ".." ∉ (Path.ofText s).parts :=
  fun hmem => h (Path.mem_toList_of_mem_parts hmem (.head _))

/-- A class is not in a double dot either. -/
theorem dots_not_mem_classFile {cls : String} (h : '/' ∉ cls.toList) :
    ".." ∉ (Path.ofText (classFile cls)).parts := by
  rw [Path.parts_ofText, Text.filledPieces,
    Text.pieces_of_not_mem (slash_not_mem_classFile h)]
  intro hmem
  obtain ⟨hmem, -⟩ := List.mem_filter.1 hmem
  obtain ⟨cs, hcs, hdots⟩ := List.mem_map.1 hmem
  rw [List.mem_singleton.1 (List.mem_filter.1 hcs).1, String.ofList_toList] at hdots
  have hlast := getLast?_java cls
  rw [← classFile, hdots] at hlast
  exact absurd hlast (by decide)

namespace JaxrsCxf

/-- The folders of a client. -/
def clientFolders (source models interfaces : String) : Folders where
  models := Text.trimChar '/' source ++ "/" ++ packagePath models
  interfaces := Text.trimChar '/' source ++ "/" ++ packagePath interfaces
  tests := Text.trimChar '/' backend.testFolder ++ "/" ++ packagePath interfaces

/-- They are made of texts. -/
theorem exists_clientFolders {d : Api.Description} {c : Configuration} {folders : Folders}
    (h : foldersOf (Setting.of d c backend) = .ok folders) :
    ∃ source models interfaces,
      c.get "source-folder" (.text "src/main/java") = .text source ∧
        folders = clientFolders source models interfaces := by
  unfold foldersOf at h
  obtain ⟨_, hsource, h⟩ := bind_eq_ok_iff.1 h
  obtain ⟨_, hmodels, h⟩ := bind_eq_ok_iff.1 h
  obtain ⟨_, hinterfaces, h⟩ := bind_eq_ok_iff.1 h
  unfold folderText at hsource
  unfold packageFolder at hmodels hinterfaces
  split at hsource
  · next source htext =>
    split at hmodels
    · split at hinterfaces
      · cases hsource
        cases hmodels
        cases hinterfaces
        cases h
        exact ⟨source, _, _, htext, rfl⟩
      · cases hinterfaces
    · cases hmodels
  · cases hsource

end JaxrsCxf

/-! ## Classes -/

section
variable {folder package cls : String}

/-- The path of a class is absolute just if nothing is left of the folder in front. -/
theorem isAbsolute_classPath : (Path.ofText
      (classPath (Text.trimChar '/' folder ++ "/" ++ packagePath package) cls)).isAbsolute = false ↔
    ∃ c ∈ folder.toList, c ≠ '/' := by
  have hpath : classPath (Text.trimChar '/' folder ++ "/" ++ packagePath package) cls =
      Text.trimChar '/' folder ++ "/" ++ (packagePath package ++ "/" ++ classFile cls) := by
    simp only [classPath, String.append_assoc]
  rw [hpath, Path.isAbsolute_trimmed]

/-- It has no double dots but those of the folder. -/
theorem dots_not_mem_classPath (hslash : '/' ∉ cls.toList)
    (hdots : ".." ∉ (Path.ofText folder).parts) : ".." ∉ (Path.ofText
      (classPath (Text.trimChar '/' folder ++ "/" ++ packagePath package) cls)).parts := by
  rw [classPath, Path.parts_ofText_slash, Path.parts_ofText_slash, Path.parts_ofText_trimChar,
    List.mem_append, List.mem_append, not_or, not_or]
  exact ⟨⟨hdots, dots_not_mem_parts_of_dot (dot_not_mem_packagePath package)⟩,
    dots_not_mem_classFile hslash⟩

end

section
variable {Φ : Type} {d : Api.Description} {models interfaces tests : Φ}

/-- Every class is where models, interfaces or tests are. -/
theorem fst_of_mem_classesOf {e : Φ × String} (he : e ∈ classesOf d models interfaces tests) :
    e.1 = models ∨ e.1 = interfaces ∨ e.1 = tests := by
  rcases List.mem_append.1 he with he | he
  · obtain ⟨s, -, rfl⟩ := List.mem_map.1 he
    exact .inl rfl
  · obtain ⟨k, -, he⟩ := List.mem_flatMap.1 he
    rcases List.mem_cons.1 he with rfl | he
    · exact .inr (.inl rfl)
    · rw [List.mem_singleton.1 he]
      exact .inr (.inr rfl)

/-- Every operation is in a group. -/
theorem tagsFor_ne_nil (o : Api.Operation) : tagsFor o ≠ [] := by
  unfold tagsFor
  dsimp only
  split
  · exact List.cons_ne_nil _ _
  · next hkeys => exact fun hnil => hkeys (List.isEmpty_iff.2 hnil)

/-- A description that is not empty has a model or an interface. -/
theorem exists_mem_classesOf (h : ¬(d.schemas = [] ∧ d.operations = [])) :
    ∃ e ∈ classesOf d models interfaces tests, e.1 = models ∨ e.1 = interfaces := by
  cases hschemas : d.schemas with
  | cons s rest =>
    have hs : s.name ∈ schemaNames d := by simp [schemaNames, hschemas]
    exact ⟨(models, Java.modelName s.name),
      List.mem_append_left _ (List.mem_map.2 ⟨s.name, hs, rfl⟩), .inl rfl⟩
  | nil =>
    obtain ⟨o, ho⟩ := List.exists_mem_of_ne_nil _ fun hnil => h ⟨hschemas, hnil⟩
    obtain ⟨k, hk⟩ := List.exists_mem_of_ne_nil _ (tagsFor_ne_nil o)
    have hkey : k ∈ groupKeys d := List.mem_eraseDups.2 (List.mem_flatMap.2 ⟨o, ho, hk⟩)
    exact ⟨(interfaces, Java.apiName k),
      List.mem_append_right _ (List.mem_flatMap.2 ⟨k, hkey, List.mem_cons_self⟩), .inr rfl⟩

end

/-! ## Paths of a client -/

namespace JaxrsCxf

section
variable {d : Api.Description} {c : Configuration} {s : Setting} {source models interfaces : String}

/-- What holds of the paths of all classes and of the build file holds of those of all files. -/
theorem forall_filesOf_iff {folders : Folders} {P : String → Prop} (hpom : P "pom.xml") :
    (∀ f ∈ filesOf d c s folders, P f.path) ↔
      ∀ e ∈ classesOf d folders.models folders.interfaces folders.tests, P (classPath e.1 e.2) := by
  have hpaths : (∀ f ∈ filesOf d c s folders, P f.path) ↔
      ∀ path ∈ (filesOf d c s folders).map (·.path), P path := List.forall_mem_map.symm
  rw [hpaths, paths_filesOf, List.forall_mem_append, List.forall_mem_map]
  exact and_iff_left (List.forall_mem_singleton.2 hpom)

/-- The paths are relative just if there is more than slashes in the source folder, or there is
nothing but the build file. -/
theorem isAbsolute_filesOf_iff :
    (∀ f ∈ filesOf d c s (clientFolders source models interfaces),
      (Path.ofText f.path).isAbsolute = false) ↔
        (∃ c ∈ source.toList, c ≠ '/') ∨ d.schemas = [] ∧ d.operations = [] := by
  rw [forall_filesOf_iff (P := fun path => (Path.ofText path).isAbsolute = false) (by decide)]
  constructor
  · intro hall
    by_cases hnone : d.schemas = [] ∧ d.operations = []
    · exact .inr hnone
    · obtain ⟨⟨folder, cls⟩, he, hfolder⟩ := exists_mem_classesOf hnone
      have hrelative := hall _ he
      rcases hfolder with rfl | rfl
      · exact .inl (isAbsolute_classPath.1 hrelative)
      · exact .inl (isAbsolute_classPath.1 hrelative)
  · rintro (hsource | ⟨hschemas, hoperations⟩) ⟨folder, cls⟩ he
    · rcases fst_of_mem_classesOf he with rfl | rfl | rfl
      · exact isAbsolute_classPath.2 hsource
      · exact isAbsolute_classPath.2 hsource
      · exact isAbsolute_classPath.2 ⟨'s', by decide, by decide⟩
    · rw [classesOf, schemaNames, groupKeys, hschemas, hoperations] at he
      cases he

/-- They have no double dots but those of the source folder. -/
theorem dots_not_mem_filesOf (hdots : ".." ∉ (Path.ofText source).parts) :
    ∀ f ∈ filesOf d c s (clientFolders source models interfaces),
      ".." ∉ (Path.ofText f.path).parts := by
  rw [forall_filesOf_iff (P := fun path => ".." ∉ (Path.ofText path).parts) (by decide)]
  rintro ⟨folder, cls⟩ he
  have hslash := slash_not_mem_of_mem_classesOf he
  rcases fst_of_mem_classesOf he with rfl | rfl | rfl
  · exact dots_not_mem_classPath hslash hdots
  · exact dots_not_mem_classPath hslash hdots
  · exact dots_not_mem_classPath hslash (by decide)

end

/-- A client has a source folder, and if that has no double dots no path of the client has. The
paths are then relative just if there is more than slashes in the source folder, or there is nothing
but the build file; and if they are no file is refused for being outside the output directory. With
keys that are texts there is a client just if all that a run is asked to write has a text. -/
theorem paths_relative_iff (d : Api.Description) (raw : RawOptions) :
    (TextKeys raw → ((∃ r, generate d backend raw = .ok r) ↔ HasTexts d raw)) ∧
      ∀ r, generate d backend raw = .ok r →
        ∃ source, r.configuration.lookup "source-folder" = some (.text source) ∧
          (".." ∉ (Path.ofText source).parts →
            (∀ f ∈ r.files, ".." ∉ (Path.ofText f.path).parts) ∧
            ((∀ f ∈ r.files, (Path.ofText f.path).isAbsolute = false) ↔
              (∃ c ∈ source.toList, c ≠ '/') ∨ d.schemas = [] ∧ d.operations = []) ∧
            ((∀ f ∈ r.files, (Path.ofText f.path).isAbsolute = false) →
              ∀ base t path, (writeFiles base r.files t).fault ≠ some (.outside path))) := by
  refine ⟨exists_generate_iff d raw, fun r hr => ?_⟩
  obtain ⟨c, folders, hc, -, hfolders, -, rfl⟩ := generate_eq_ok_iff.1 hr
  obtain ⟨source, models, interfaces, hsource, rfl⟩ := exists_clientFolders hfolders
  have hlookup : c.values.lookup "source-folder" = some (.text source) := by
    obtain ⟨o, ho, hname, -⟩ := exists_of_mem_textDefaults _ (.head _)
    have hsome := lookup_resolve distinctNames_options ho hc
    rw [hname] at hsome
    rwa [Configuration.get, hsome, Option.getD_some, ← Option.some_inj, ← hsome] at hsource
  refine ⟨source, hlookup, fun hdots => ?_⟩
  have hnone : ∀ f ∈ filesOf d c (Setting.of d c backend) (clientFolders source models interfaces),
      ".." ∉ (Path.ofText f.path).parts := dots_not_mem_filesOf hdots
  exact ⟨hnone, isAbsolute_filesOf_iff, fun hrelative base t path =>
    fault_ne_outside hrelative hnone path⟩

/-- A description of one schema. -/
def petDescription : Api.Description where
  title := "Pets"
  schemas := [{ name := "pet" }]

/-- Slashes at the ends of the source folder and a single dot in it do no harm. -/
theorem paths_relative_iff_slashes :
    let raw : RawOptions := [(.text "source-folder", .text "/src/./gen/")]
    ∃ r, generate petDescription backend raw = .ok r ∧
      (∀ f ∈ r.files, ".." ∉ (Path.ofText f.path).parts ∧
        (Path.ofText f.path).isAbsolute = false) ∧
      ∀ base t path, (writeFiles base r.files t).fault ≠ some (.outside path) := by
  intro raw
  have hkeys : TextKeys raw := fun e he => ⟨_, congrArg Prod.fst (List.mem_singleton.1 he)⟩
  obtain ⟨hexists, hall⟩ := paths_relative_iff petDescription raw
  obtain ⟨r, hr⟩ := (hexists hkeys).2 (by decide +kernel)
  obtain ⟨source, hsource, hpaths⟩ := hall r hr
  have hgiven : source = "/src/./gen/" := by
    obtain ⟨c, folders, hc, -, -, -, rfl⟩ := generate_eq_ok_iff.1 hr
    have htext : ((resolve backend.options raw).toOption.bind fun c =>
        (c.values.lookup "source-folder").map Value.asText) = some "/src/./gen/" := by
      decide +kernel
    change c.values.lookup "source-folder" = some (.text source) at hsource
    rw [hc, Except.toOption, Option.bind_some, hsource] at htext
    exact Option.some.inj htext
  subst hgiven
  obtain ⟨hdots, hrelative, hwritten⟩ := hpaths (by decide +kernel)
  have hrelative := hrelative.2 (.inl ⟨'s', by decide, by decide⟩)
  exact ⟨r, hr, fun f hf => ⟨hdots f hf, hrelative f hf⟩, hwritten hrelative⟩

/-- With no source folder at all the first file has an absolute path, and is refused. -/
theorem empty_source_folder_refused :
    let raw : RawOptions := [(.text "source-folder", .text "")]
    ".." ∉ (Path.ofText "").parts ∧
      ∃ r, generate petDescription backend raw = .ok r ∧
        (r.files.map (·.path)).head? = some "/io/swagger/model/Pet.java" ∧
        (Path.ofText "/io/swagger/model/Pet.java").isAbsolute = true ∧
        (writeFiles ["out"] r.files .empty).fault =
          some (.outside "/io/swagger/model/Pet.java") := by
  intro raw
  have hkeys : TextKeys raw := fun e he => ⟨_, congrArg Prod.fst (List.mem_singleton.1 he)⟩
  have hfolders : ((resolve backend.options raw).toOption.bind fun c =>
      (foldersOf (Setting.of petDescription c backend)).toOption) =
        some ⟨"/io/swagger/model", "/io/swagger/api", "src/test/java/io/swagger/api"⟩ := by
    decide +kernel
  have hclasses : (classesOf petDescription "/io/swagger/model" "/io/swagger/api"
      "src/test/java/io/swagger/api").map (fun e => classPath e.1 e.2) =
        ["/io/swagger/model/Pet.java"] := by
    decide +kernel
  obtain ⟨r, hr⟩ := (exists_generate_iff petDescription raw hkeys).2 (by decide +kernel)
  obtain ⟨c, folders, hc, hf, hfiles⟩ := exists_filesOf hr
  rw [hc, Except.toOption, Option.bind_some, hf] at hfolders
  cases hfolders
  have hpaths := paths_filesOf petDescription c (Setting.of petDescription c backend)
    ⟨"/io/swagger/model", "/io/swagger/api", "src/test/java/io/swagger/api"⟩
  rw [hclasses, ← hfiles] at hpaths
  refine ⟨by decide, r, hr, by rw [hpaths]; rfl, by decide, ?_⟩
  cases hfirst : r.files with
  | nil =>
    rw [hfirst] at hpaths
    cases hpaths
  | cons f rest =>
    rw [hfirst] at hpaths
    have hpath : f.path = "/io/swagger/model/Pet.java" := (List.cons.inj hpaths).1
    have houtside : ¬["out"] <+: targetOf ["out"] f := by
      rw [targetOf, hpath]
      decide +kernel
    have hstop := writeFile_of_outside (t := .empty) houtside
    rw [writeFiles, hstop, outsideFault, hpath]
    rfl

end JaxrsCxf

end ClientGen
