import ClientGen.Proofs.Files.Writing
import ClientGen.Proofs.Generation.Files
import ClientGen.Proofs.Imports.Groups
import ClientGen.Proofs.Imports.Models
import ClientGen.Proofs.Names.Characters
import Mathlib.Data.List.Nodup
import Mathlib.Data.List.Perm.Basic

/-!
# The paths of a client

Each file of a client but its build file is that of a class. It stands in a folder under the name of
the class, and no other class has its path ([classPath_inj]) or, below whatever directory the client
is written, its place ([settle_classPath]). But several schemas may have one class, and several
groups too, as the name of a class tells less than that of a schema or the key of a group. So the
paths of a client are distinct exactly if its classes are ([JaxrsCxf.NoClash]), and then no file is
written over another one ([JaxrsCxf.distinct_paths_iff]).
-/

namespace ClientGen

open Client Files Render

/-! ## Places of paths -/

namespace Files.Path

/-- A text stands for an absolute path iff a slash is in front. -/
theorem isAbsolute_ofText (s : String) : (ofText s).isAbsolute = Text.startsWith s "/" := by
  cases hone : Text.startsWith s "/" with
  | true =>
    unfold isAbsolute ofText
    simp only [hone]
    split <;> rfl
  | false =>
    have htwo : Text.startsWith s "//" = false := by
      by_contra h
      obtain ⟨rest, rfl⟩ := Text.startsWith_iff.1 ((Bool.not_eq_false _).mp h)
      rw [← Bool.not_eq_true, Text.startsWith_iff] at hone
      exact hone ⟨"/" ++ rest, by rw [← String.append_assoc]; rfl⟩
    unfold isAbsolute ofText
    simp only [hone, htwo]
    rfl

/-- Whether a slash is in front of a text that begins with a text and a slash. -/
theorem startsWith_slash (folder rest : String) :
    Text.startsWith (folder ++ "/" ++ rest) "/" = Text.startsWith (folder ++ "/") "/" := by
  simp only [Text.startsWith, String.toList_append]
  cases folder.toList <;> rfl

/-- A name is one step further than the folder. -/
theorem settle_ofText_name (base : Place) (folder : String) {name : String}
    (hslash : '/' ∉ name.toList) (hempty : name ≠ "") (hdot : name ≠ ".") (hdots : name ≠ "..") :
    (ofText (folder ++ "/" ++ name)).settle base =
      (ofText (folder ++ "/")).settle base ++ [name] := by
  have hparts : (ofText (folder ++ "/" ++ name)).parts =
      (ofText (folder ++ "/")).parts ++ [name] := by
    simp [ofText, Text.pieces_append_sep, Text.pieces_of_not_mem hslash, Text.pieces, hempty, hdot]
  unfold settle
  rw [isAbsolute_ofText, isAbsolute_ofText, startsWith_slash, hparts, List.foldl_append]
  exact if_neg hdots

end Files.Path

/-! ## Files of classes -/

/-- The name of the file of a class. -/
def classFile (cls : String) : String := cls ++ ".java"

/-- The path of the file of a class in a folder. -/
def classPath (folder cls : String) : String := folder ++ "/" ++ classFile cls

/-- Such a file has a name with a fixed end. -/
theorem getLast?_java (s : String) : (s ++ ".java").toList.getLast? = some 'a' := by
  simp

section
variable {folder folder' cls cls' : String}

theorem classFile_inj (h : classFile cls = classFile cls') : cls = cls' :=
  String.append_left_inj ".java" |>.1 h

theorem slash_not_mem_classFile (h : '/' ∉ cls.toList) : '/' ∉ (classFile cls).toList := by
  rw [classFile, String.toList_append, List.mem_append, not_or]
  exact ⟨h, by decide⟩

/-- Only one class in one folder has a path. -/
theorem classPath_inj (h : '/' ∉ cls.toList) (h' : '/' ∉ cls'.toList)
    (heq : classPath folder cls = classPath folder' cls') : folder = folder' ∧ cls = cls' := by
  have hpieces : ∀ {folder cls : String}, '/' ∉ cls.toList →
      Text.pieces '/' (classPath folder cls).toList =
        Text.pieces '/' folder.toList ++ [(classFile cls).toList] := by
    intro folder cls h
    have hcs : (classPath folder cls).toList = folder.toList ++ '/' :: (classFile cls).toList := by
      simp [classPath]
    rw [hcs, Text.pieces_append_sep, Text.pieces_of_not_mem (slash_not_mem_classFile h)]
  have hlast := congrArg (fun s => (Text.pieces '/' s.toList).getLast?) heq
  simp only [hpieces h, hpieces h', List.getLast?_concat, Option.some.injEq,
    String.toList_inj] at hlast
  refine ⟨?_, classFile_inj hlast⟩
  rw [classPath, classPath, hlast, String.append_left_inj, String.append_left_inj] at heq
  exact heq

/-- The build file has the path of no class. -/
theorem classPath_ne_pom (folder cls : String) : classPath folder cls ≠ "pom.xml" := by
  intro h
  have hlast := getLast?_java (folder ++ "/" ++ cls)
  rw [String.append_assoc, ← classFile, ← classPath, h] at hlast
  exact absurd hlast (by decide)

/-- The place of a folder below a directory. -/
def folderPlace (base : Place) (folder : String) : Place :=
  (Path.ofText (folder ++ "/")).settle base

/-- The file of a class is in the place of its folder. -/
theorem settle_classPath (base : Place) (folder : String) (h : '/' ∉ cls.toList) :
    (Path.ofText (classPath folder cls)).settle base =
      folderPlace base folder ++ [classFile cls] := by
  have hlast {short : String} (hshort : short.toList.getLast? ≠ some 'a') :
      classFile cls ≠ short := by
    rintro rfl
    exact hshort (getLast?_java cls)
  exact Path.settle_ofText_name base folder (slash_not_mem_classFile h) (hlast (by decide))
    (hlast (by decide)) (hlast (by decide))

end

/-! ## Distinct classes -/

/-- Blocks of distinct things: one of what belongs to each of some keys, then two of what belongs to
each of some others. -/
theorem nodup_blocks_iff {α β γ : Type} {as : List α} {bs : List β} {f : α → γ} {g h : β → γ}
    (has : as.Nodup) (hbs : bs.Nodup) (hgh : ∀ b b', g b ≠ h b')
    (hinj : ∀ b b', h b = h b' → g b = g b') :
    (as.map f ++ bs.flatMap fun b => [g b, h b]).Nodup ↔
      (∀ a ∈ as, ∀ a' ∈ as, f a = f a' → a = a') ∧
      (∀ b ∈ bs, ∀ b' ∈ bs, g b = g b' → b = b') ∧
      (∀ a ∈ as, ∀ b ∈ bs, f a ≠ g b) ∧ ∀ a ∈ as, ∀ b ∈ bs, f a ≠ h b := by
  have hpairs : (bs.flatMap fun b => [g b, h b]).Nodup ↔
      ∀ b ∈ bs, ∀ b' ∈ bs, g b = g b' → b = b' := by
    have hperm : (bs.flatMap (fun b => [g b]) ++ bs.flatMap fun b => [h b]).Perm
        (bs.flatMap fun b => [g b, h b]) := List.flatMap_append_perm bs _ _
    rw [← hperm.nodup_iff, ← List.map_eq_flatMap, ← List.map_eq_flatMap, List.nodup_append',
      List.nodup_map_iff_inj_on hbs, List.nodup_map_iff_inj_on hbs]
    refine ⟨fun hall => hall.1, fun hg => ⟨hg, ?_, fun c hc hc' => ?_⟩⟩
    · exact fun b hb b' hb' he => hg b hb b' hb' (hinj b b' he)
    · obtain ⟨b, _, rfl⟩ := List.mem_map.1 hc
      obtain ⟨b', _, he⟩ := List.mem_map.1 hc'
      exact hgh b b' he.symm
  rw [List.nodup_append', List.nodup_map_iff_inj_on has, hpairs]
  refine and_congr_right fun _ => and_congr_right fun _ => ?_
  constructor
  · intro hdisjoint
    have hout (a : α) (ha : a ∈ as) (b : β) (hb : b ∈ bs) (c : γ) (hc : c ∈ [g b, h b]) : f a ≠ c :=
      fun he => hdisjoint (List.mem_map_of_mem ha) (List.mem_flatMap.2 ⟨b, hb, he ▸ hc⟩)
    exact ⟨fun a ha b hb => hout a ha b hb (g b) (by simp),
      fun a ha b hb => hout a ha b hb (h b) (by simp)⟩
  · rintro ⟨hg, hh⟩ c hc hc'
    obtain ⟨a, ha, rfl⟩ := List.mem_map.1 hc
    obtain ⟨b, hb, hc'⟩ := List.mem_flatMap.1 hc'
    rcases List.mem_cons.1 hc' with he | hc'
    · exact hg a ha b hb he
    · exact hh a ha b hb (List.mem_singleton.1 hc')

/-- The keys of the groups of a description, in their order. -/
def groupKeys (d : Api.Description) : List String := (d.operations.flatMap tagsFor).eraseDups

/-- When no two classes of a client are the same, given where those of the models, the interfaces
and the tests are. -/
structure NoClash {Φ : Type} (d : Api.Description) (models interfaces tests : Φ) : Prop where
  /-- No two schemas have one class. -/
  schemas : ∀ s ∈ schemaNames d, ∀ s' ∈ schemaNames d, Java.modelName s = Java.modelName s' → s = s'
  /-- No two groups have one interface. -/
  groups : ∀ k ∈ groupKeys d, ∀ k' ∈ groupKeys d, Java.apiName k = Java.apiName k' → k = k'
  /-- No model is in the way of an interface. -/
  interfaces : models = interfaces →
    ∀ s ∈ schemaNames d, ∀ k ∈ groupKeys d, Java.modelName s ≠ Java.apiName k
  /-- No model is in the way of a test. -/
  tests : models = tests →
    ∀ s ∈ schemaNames d, ∀ k ∈ groupKeys d, Java.modelName s ≠ Java.apiName k ++ "Test"

/-- The classes of a client with where they are. -/
def classesOf {Φ : Type} (d : Api.Description) (models interfaces tests : Φ) : List (Φ × String) :=
  (schemaNames d).map (fun s => (models, Java.modelName s)) ++
    (groupKeys d).flatMap fun k =>
      [(interfaces, Java.apiName k), (tests, Java.apiName k ++ "Test")]

/-- The folders may be told in another way. -/
theorem classesOf_map {Φ Ψ : Type} (f : Φ → Ψ) (d : Api.Description) (models interfaces tests : Φ) :
    classesOf d (f models) (f interfaces) (f tests) =
      (classesOf d models interfaces tests).map fun e => (f e.1, e.2) := by
  simp only [classesOf, List.map_append, List.map_map, List.map_flatMap, List.map_cons,
    List.map_nil, Function.comp_def]

/-- An interface is not named like a test. -/
theorem apiName_ne_test (k k' : String) : Java.apiName k ≠ Java.apiName k' ++ "Test" := by
  obtain ⟨name, hk, _⟩ := Java.exists_apiName_eq k
  intro h
  have hlast := congrArg (fun s => s.toList.getLast?) (hk.symm.trans h)
  simp at hlast

/-- The names of the classes of a client are parts of a path. -/
theorem slash_not_mem_of_mem_classesOf {Φ : Type} {d : Api.Description}
    {models interfaces tests : Φ} {e : Φ × String} (he : e ∈ classesOf d models interfaces tests) :
    '/' ∉ e.2.toList := by
  have hmodel (s : String) : '/' ∉ (Java.modelName s).toList := fun h =>
    absurd (Java.isAlphanum_of_mem_modelName s '/' h) (by decide)
  have hapi (k : String) : '/' ∉ (Java.apiName k).toList := by
    obtain ⟨name, hk, hname⟩ := Java.exists_apiName_eq k
    rw [hk, String.toList_append, List.mem_append, not_or]
    exact ⟨fun h => absurd (hname '/' h) (by decide), by decide⟩
  rcases List.mem_append.1 he with he | he
  · obtain ⟨s, _, rfl⟩ := List.mem_map.1 he
    dsimp only
    exact hmodel s
  · obtain ⟨k, _, he⟩ := List.mem_flatMap.1 he
    rcases List.mem_cons.1 he with rfl | he
    · dsimp only
      exact hapi k
    · rw [List.mem_singleton.1 he, String.toList_append, List.mem_append, not_or]
      exact ⟨hapi k, by decide⟩

section
variable {Φ : Type} {d : Api.Description} {models interfaces tests : Φ}

/-- The classes are distinct iff there is no clash. -/
theorem nodup_classesOf_iff (h : (schemaNames d).Nodup) :
    (classesOf d models interfaces tests).Nodup ↔ NoClash d models interfaces tests := by
  have hkeys : (groupKeys d).Nodup := nodup_eraseDups _
  rw [classesOf, nodup_blocks_iff h hkeys
    (fun k k' he => apiName_ne_test k k' (Prod.mk.inj he).2)
    (fun k k' he => congrArg _ (String.append_left_inj "Test" |>.1 (Prod.mk.inj he).2))]
  simp only [Prod.mk.injEq, true_and, ne_eq, not_and]
  constructor
  · rintro ⟨hschemas, hgroups, hinterfaces, htests⟩
    exact ⟨hschemas, hgroups, fun hf s hs k hk => hinterfaces s hs k hk hf,
      fun hf s hs k hk => htests s hs k hk hf⟩
  · intro hno
    exact ⟨hno.schemas, hno.groups, fun s hs k hk hf => hno.interfaces hf s hs k hk,
      fun s hs k hk hf => hno.tests hf s hs k hk⟩

/-- So is whatever tells classes apart, with one thing more that is of no class. -/
theorem nodup_located_iff {Λ : Type} (locate : Φ → String → Λ) {last : Λ}
    (hinj : ∀ φ φ' cls cls', '/' ∉ cls.toList → '/' ∉ cls'.toList →
      locate φ cls = locate φ' cls' → φ = φ' ∧ cls = cls')
    (hlast : ∀ φ cls, locate φ cls ≠ last) (h : (schemaNames d).Nodup) :
    ((classesOf d models interfaces tests).map (fun e => locate e.1 e.2) ++ [last]).Nodup ↔
      NoClash d models interfaces tests := by
  rw [← nodup_classesOf_iff h, List.nodup_append']
  constructor
  · exact fun hall => hall.1.of_map _
  · intro hclasses
    refine ⟨hclasses.map_on fun e he e' he' heq => ?_, List.nodup_singleton _, ?_⟩
    · obtain ⟨hφ, hcls⟩ := hinj e.1 e'.1 e.2 e'.2 (slash_not_mem_of_mem_classesOf he)
        (slash_not_mem_of_mem_classesOf he') heq
      exact Prod.ext hφ hcls
    · rw [List.disjoint_singleton]
      intro hin
      obtain ⟨e, _, he⟩ := List.mem_map.1 hin
      exact hlast e.1 e.2 he

end

/-! ## Paths and places of a client -/

namespace JaxrsCxf

/-- There is a model for each schema. -/
theorem length_modelsOf (d : Api.Description) (c : Configuration) :
    (modelsOf d backend.selectFiles c).length = d.schemas.length := by
  rw [modelsOf_eq, List.length_map]

/-- The classes of the models are named after the schemas. -/
theorem classnames_modelsOf (d : Api.Description) (c : Configuration) :
    (modelsOf d backend.selectFiles c).map (·.classname) = (schemaNames d).map Java.modelName := by
  rw [modelsOf_eq, schemaNames, List.map_map, List.map_map]
  refine List.map_congr_left fun s _ => ?_
  rw [Function.comp_apply, Function.comp_apply, classname_modelOf]

/-- Those of the interfaces are named after the keys of the groups. -/
theorem classnames_groupsOf (d : Api.Description) (c : Configuration) :
    (groupsOf d backend.selectFiles c).groups.map (·.classname) =
      (groupKeys d).map Java.apiName := by
  have hkeys : (groupAll (preparedOperations d backend)).names = groupKeys d := by
    rw [groupAll_eq_run, Grouping.names_run, preparedOperations, List.flatMap_map,
      List.map_flatMap, groupKeys]
    simp only [submissions, List.map_map, Function.comp_def, List.map_id']
  have hclass : ∀ g ∈ (groupAll (preparedOperations d backend)).groups,
      g.classname = Java.apiName g.name := by
    intro g hg
    have hmade := group?_groupAll_of_mem hg
    rw [group?_groupAll] at hmade
    exact Group.made_classname hmade
  rw [groupsOf_eq, List.map_map, ← hkeys, Grouping.names, List.map_map]
  exact List.map_congr_left hclass

section
variable (d : Api.Description) (c : Configuration) (s : Setting) (folders : Folders)

/-- The paths of a client are those of its classes. -/
theorem paths_clientFiles (models : List Model) (groups : List Group) :
    (clientFiles c s folders models groups).map (·.path) =
      (models.map (·.classname)).map (classPath folders.models) ++
        (groups.map (·.classname)).flatMap (fun cls =>
          [classPath folders.interfaces cls, classPath folders.tests (cls ++ "Test")]) ++
        ["pom.xml"] := by
  have htest : "Test.java" = "Test" ++ ".java" := rfl
  rw [clientFiles]
  simp only [List.map_append, List.map_map, List.map_flatMap, List.flatMap_map, List.map_cons,
    List.map_nil, htest, Function.comp_def, modelFile, interfaceFile, testFile, projectFile,
    classPath, classFile, String.append_assoc]

/-- The files of the client of a description. -/
def filesOf : List GeneratedFile :=
  clientFiles c s folders (modelsOf d backend.selectFiles c)
    (groupsOf d backend.selectFiles c).groups

/-- They are those of its classes, and the build file. -/
theorem paths_filesOf :
    (filesOf d c s folders).map (·.path) =
      (classesOf d folders.models folders.interfaces folders.tests).map
        (fun e => classPath e.1 e.2) ++ ["pom.xml"] := by
  rw [filesOf, paths_clientFiles, classnames_modelsOf, classnames_groupsOf, classesOf]
  simp only [List.map_append, List.map_map, List.map_flatMap, List.flatMap_map, List.map_cons,
    List.map_nil, Function.comp_def]

/-- Their places below a directory. -/
theorem places_filesOf (base : Place) :
    (filesOf d c s folders).map (targetOf base) =
      (classesOf d (folderPlace base folders.models) (folderPlace base folders.interfaces)
        (folderPlace base folders.tests)).map (fun e => e.1 ++ [classFile e.2]) ++
          [base ++ ["pom.xml"]] := by
  have hplaces := congrArg (List.map fun path => (Path.ofText path).settle base)
    (paths_filesOf d c s folders)
  rw [List.map_map] at hplaces
  refine hplaces.trans ?_
  rw [classesOf_map (folderPlace base), List.map_append, List.map_map, List.map_map]
  refine congrArg₂ _ (List.map_congr_left fun e he => ?_) rfl
  exact settle_classPath base e.1 (slash_not_mem_of_mem_classesOf he)

end

/-- The files of a run are those of the client of its description. -/
theorem exists_filesOf {d : Api.Description} {raw : RawOptions} {r : Generation}
    (hr : generate d backend raw = .ok r) :
    ∃ c folders, resolve backend.options raw = .ok c ∧
      foldersOf (Setting.of d c backend) = .ok folders ∧
      r.files = filesOf d c (Setting.of d c backend) folders := by
  obtain ⟨c, folders, hc, _, hf, _, rfl⟩ := generate_eq_ok_iff.1 hr
  exact ⟨c, folders, hc, hf, rfl⟩

section
variable {d : Api.Description} (h : (schemaNames d).Nodup) (c : Configuration) (s : Setting)
  (folders : Folders)
include h

/-- The paths are distinct iff no two classes are the same in one folder. -/
theorem nodup_paths_filesOf_iff :
    ((filesOf d c s folders).map (·.path)).Nodup ↔
      NoClash d folders.models folders.interfaces folders.tests := by
  rw [paths_filesOf]
  exact nodup_located_iff classPath (fun _ _ _ _ hcls hcls' => classPath_inj hcls hcls')
    classPath_ne_pom h

/-- The places are distinct iff no two classes are the same in one place. -/
theorem nodup_places_filesOf_iff (base : Place) :
    ((filesOf d c s folders).map (targetOf base)).Nodup ↔
      NoClash d (folderPlace base folders.models) (folderPlace base folders.interfaces)
        (folderPlace base folders.tests) := by
  rw [places_filesOf]
  refine nodup_located_iff (fun place cls => place ++ [classFile cls]) ?_ ?_ h
  · intro place place' cls cls' _ _ heq
    obtain ⟨hplace, hname⟩ := List.append_inj' heq rfl
    exact ⟨hplace, classFile_inj (List.singleton_inj.1 hname)⟩
  · intro place cls heq
    have hname := List.singleton_inj.1 (List.append_inj' heq rfl).2
    have hlast := getLast?_java cls
    rw [← classFile, hname] at hlast
    exact absurd hlast (by decide)

end

/-- The paths of a client are distinct iff no two of its classes are the same in one folder, and so
are the places of its files below any directory, where folders are the same if they are in one
place. Then writing it loses none of its classes. With keys that are texts there is a client just if
all that a run is asked to write has a text. -/
theorem distinct_paths_iff {d : Api.Description} (h : (schemaNames d).Nodup) (raw : RawOptions) :
    (TextKeys raw → ((∃ r, generate d backend raw = .ok r) ↔ HasTexts d raw)) ∧
      ∀ r, generate d backend raw = .ok r →
        ∃ c folders, resolve backend.options raw = .ok c ∧
          foldersOf (Setting.of d c backend) = .ok folders ∧
          ((r.files.map (·.path)).Nodup ↔
            NoClash d folders.models folders.interfaces folders.tests) ∧
          ∀ base,
            ((r.files.map (targetOf base)).Nodup ↔
              NoClash d (folderPlace base folders.models) (folderPlace base folders.interfaces)
                (folderPlace base folders.tests)) ∧
            ((r.files.map (targetOf base)).Nodup →
              ∀ t, (writeFiles base r.files t).fault = none →
                ∀ f ∈ r.files, f.overwrite = true →
                  (writeFiles base r.files t).tree.file? (targetOf base f) =
                    some f.content.toUTF8) := by
  refine ⟨exists_generate_iff d raw, fun r hr => ?_⟩
  obtain ⟨c, folders, hc, hf, hfiles⟩ := exists_filesOf hr
  refine ⟨c, folders, hc, hf, ?_, fun base => ⟨?_, fun hnodup t hfault f hmem hover => ?_⟩⟩
  · rw [hfiles]
    exact nodup_paths_filesOf_iff h c _ folders
  · rw [hfiles]
    exact nodup_places_filesOf_iff h c _ folders base
  · exact file?_writeFiles hfault hnodup hmem hover

/-- Schemas and tags that are told apart by more than the case of a letter. -/
def apartDescription : Api.Description where
  title := "Pets"
  operations := [
    { method := .get, path := "/pets", tags := ["pet"] },
    { method := .get, path := "/owners", tags := ["pet", "pet-owner"] }]
  schemas := [{ name := "pet" }, { name := "pet_api" }, { name := "owner" }]

/-- Their classes are not in each other's way: that of a schema is named like an interface, but it
is in another folder. -/
theorem distinct_paths_iff_apart :
    (schemaNames apartDescription).Nodup ∧
      Java.modelName "pet_api" = Java.apiName "pet" ∧
      ∃ r, generate apartDescription backend [] = .ok r ∧ (r.files.map (·.path)).Nodup := by
  have hnames : (schemaNames apartDescription).Nodup := by decide
  have hfolders : ((resolve backend.options []).toOption.bind fun c =>
      (foldersOf (Setting.of apartDescription c backend)).toOption) =
        some ⟨"src/gen/java/io/swagger/model", "src/gen/java/io/swagger/api",
          "src/test/java/io/swagger/api"⟩ := by
    decide +kernel
  obtain ⟨hexists, hall⟩ := distinct_paths_iff hnames []
  obtain ⟨r, hr⟩ := (hexists fun e he => by cases he).2 (by decide +kernel)
  obtain ⟨c, folders, hc, hf, hpaths, _⟩ := hall r hr
  rw [hc, Except.toOption, Option.bind_some, hf] at hfolders
  cases hfolders
  refine ⟨hnames, by decide +kernel, r, hr, hpaths.2 ?_⟩
  exact ⟨by decide +kernel, by decide +kernel, fun h => absurd h (by decide),
    fun h => absurd h (by decide)⟩

/-- Schemas and tags that are told apart by the case of a letter alone. -/
def clashDescription : Api.Description where
  title := "Pets"
  operations := [
    { method := .get, path := "/pets", tags := ["pet"] },
    { method := .get, path := "/owners", tags := ["Pet"] }]
  schemas := [{ name := "pet" }, { name := "Pet" }]

/-- They have one class, and the files of one are written over those of the other. -/
theorem distinct_paths_fail :
    (schemaNames clashDescription).Nodup ∧
      ∃ r, generate clashDescription backend [] = .ok r ∧ ¬(r.files.map (·.path)).Nodup := by
  have hnames : (schemaNames clashDescription).Nodup := by decide
  obtain ⟨r, hr⟩ := (exists_generate_iff clashDescription [] fun e he => by cases he).2
    (by decide +kernel)
  obtain ⟨c, folders, _, _, hfiles⟩ := exists_filesOf hr
  refine ⟨hnames, r, hr, fun hpaths => ?_⟩
  rw [hfiles, nodup_paths_filesOf_iff hnames] at hpaths
  exact absurd (hpaths.schemas "pet" (by decide) "Pet" (by decide) (by decide +kernel)) (by decide)

end JaxrsCxf

end ClientGen
