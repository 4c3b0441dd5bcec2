import ClientGen.Proofs.Generation.SchemaOrder
import ClientGen.Proofs.Imports.Meanings
import Mathlib.Data.List.Sort

/-!
# Imports in whatever order they are met

The short names that a file needs are a set, and the members of a set may be met in any order. What
is written are the imports of the names ([Imported]) in the order of their code points, each once,
so neither the order of the names nor that of the classes of models matters, nor how often one is
met ([resolveImports_congr_names]). Templates read the written list alone and no set
([Render.render_withoutImports]), so a file is the same in whatever order its imports were met.
-/

namespace ClientGen

open Client

namespace Client

/-! ## The list of imports -/

/-- What is imported for some short names, where `classes` are the classes of models. A name that
needs no import has none, even if it is that of a class. -/
inductive Imported (table : TypeTable) (classes : List String) (package : String)
    (names : List String) : String → Prop where
  | model {n : String} : n ∈ names → n ∉ importedAnyway → n ∈ classes →
      Imported table classes package names (package ++ "." ++ n)
  | known {n ref : String} : n ∈ names → n ∉ importedAnyway → n ∉ classes →
      table.importFor n = some ref → Imported table classes package names ref

section
variable {table : TypeTable} {classes names names' : List String} {package ref : String}

/-- What is in the list. -/
theorem mem_resolveImports_iff_imported :
    ref ∈ resolveImports table classes package names ↔
      Imported table classes package names ref := by
  rw [mem_resolveImports]
  constructor
  · rintro ⟨n, hn, himport⟩
    by_cases hanyway : n ∈ importedAnyway
    · rw [importOf?, if_pos (List.contains_iff_mem.2 hanyway)] at himport
      cases himport
    · by_cases hclass : n ∈ classes
      · rw [importOf?_of_mem hclass hanyway] at himport
        cases himport
        exact .model hn hanyway hclass
      · rw [importOf?_of_not_mem hclass hanyway] at himport
        exact .known hn hanyway hclass himport
  · intro h
    cases h with
    | @model n hn hanyway hclass => exact ⟨n, hn, importOf?_of_mem hclass hanyway⟩
    | @known n _ hn hanyway hclass himport =>
      exact ⟨n, hn, (importOf?_of_not_mem hclass hanyway).trans himport⟩

/-- The list is in order, and so without repetitions. -/
theorem pairwise_resolveImports : (resolveImports table classes package names).Pairwise (· < ·) :=
  NameSet.ordered _

/-- The same names have the same imports in the same order. -/
theorem resolveImports_congr_names (h : SameNames names names') :
    resolveImports table classes package names = resolveImports table classes package names' := by
  refine pairwise_resolveImports.eq_of_mem_iff pairwise_resolveImports fun ref => ?_
  rw [mem_resolveImports, mem_resolveImports]
  exact exists_congr fun n => and_congr_left' (sameNames_iff.1 h n)

end

/-- The code points of a text. -/
def codePoints (s : String) : List Nat := s.toList.map Char.toNat

/-- Texts are in the order of their code points. -/
theorem codePoints_lt {s t : String} (h : s < t) : codePoints s < codePoints t :=
  List.map_lt (fun _ _ hc => Char.lt_def.1 hc) (String.lt_iff.1 h)

/-- Whether the imports of some names are told by the names as a set. -/
structure Reproducible (table : TypeTable) (classes : List String) (package : String)
    (names : List String) : Prop where
  /-- Every import comes before the next one, by the first code point in which they differ. -/
  ordered : (resolveImports table classes package names).Pairwise (codePoints · < codePoints ·)
  members : ∀ ref, ref ∈ resolveImports table classes package names ↔
    Imported table classes package names ref
  /-- The same names and classes, in another order or repeated, lead to the same list. -/
  same : ∀ classes' names', SameNames classes' classes → SameNames names' names →
    resolveImports table classes' package names' = resolveImports table classes package names

theorem reproducible_resolveImports (table : TypeTable) (classes : List String) (package : String)
    (names : List String) : Reproducible table classes package names where
  ordered := pairwise_resolveImports.imp codePoints_lt
  members _ := mem_resolveImports_iff_imported
  same classes' names' hclasses hnames := by
    rw [resolveImports_congr hclasses table package]
    exact resolveImports_congr_names hnames

/-! ## Sets are not rendered -/

/-- A model without its import set. -/
def Model.withoutImports (m : Model) : Model := { m with imports := .empty }

/-- An operation without its import set. -/
def Operation.withoutImports (o : Operation) : Operation := { o with imports := .empty }

/-- A group without its import set, and without those of its operations. -/
def Group.withoutImports (g : Group) : Group :=
  { g with operations := g.operations.map Operation.withoutImports, imports := .empty }

end Client

namespace Render

/-- A subject without any import set. The resolved imports stay. -/
def Subject.withoutImports : Subject → Subject
  | model m imports f => model m.withoutImports imports f
  | group g imports f scaffold => group g.withoutImports imports f scaffold
  | run groups models f scaffold serializable =>
    run (groups.map Group.withoutImports) (models.map Model.withoutImports) f scaffold serializable

section
variable (s : Setting) (imports : List String)

/-- What is written for each operation of a group is written without the sets of operations. -/
theorem flatMap_withoutImports (lines : Operation → Lines)
    (h : ∀ o, lines o.withoutImports = lines o) (g : Group) :
    g.withoutImports.operations.flatMap lines = g.operations.flatMap lines := by
  rw [Group.withoutImports, List.flatMap_map]
  exact List.flatMap_congr fun o _ => h o

theorem map_withoutImports (line : Operation → String)
    (h : ∀ o, line o.withoutImports = line o) (g : Group) :
    g.withoutImports.operations.map line = g.operations.map line := by
  rw [Group.withoutImports, List.map_map]
  exact List.map_congr_left fun o _ => h o

/-- The interface of a group is rendered without the sets, and so are its test and its page. -/
theorem groupInterface_withoutImports (g : Group) :
    groupInterface s g.withoutImports imports = groupInterface s g imports := by
  unfold groupInterface
  rw [flatMap_withoutImports operationCode fun _ => rfl]
  rfl

theorem groupTest_withoutImports (g : Group) (f : ScaffoldFeatures) :
    groupTest s g.withoutImports imports f = groupTest s g imports f := by
  unfold groupTest
  rw [flatMap_withoutImports operationTest fun _ => rfl]
  rfl

theorem groupPage_withoutImports (g : Group) : groupPage s g.withoutImports = groupPage s g := by
  have hclass : g.withoutImports.classname = g.classname := rfl
  rw [groupPage, groupPage, hclass, map_withoutImports _ fun _ => rfl,
    flatMap_withoutImports operationSection fun _ => rfl]

/-- And so is the introduction. -/
theorem introduction_withoutImports (groups : List Group) (models : List Model) :
    introduction s (groups.map Group.withoutImports) (models.map Model.withoutImports) =
      introduction s groups models := by
  have hgroups : (groups.map Group.withoutImports).flatMap
      (fun g => g.operations.map (operationRow g)) =
        groups.flatMap fun g => g.operations.map (operationRow g) := by
    rw [List.flatMap_map]
    refine List.flatMap_congr fun g _ => ?_
    exact map_withoutImports (operationRow g) (fun _ => rfl) g
  unfold introduction
  rw [hgroups, List.map_map]
  rfl

end

/-- No template reads a set. -/
theorem lines_withoutImports (t : Template) (name : String) (dirs : List String) (s : Setting)
    (subject : Subject) :
    t.lines name dirs s subject.withoutImports = t.lines name dirs s subject := by
  cases subject with
  | model m imports f => cases t <;> rfl
  | group g imports f scaffold =>
    cases t with
    | groupPage => exact congrArg Except.ok (groupPage_withoutImports s g)
    | groupInterface =>
      simp only [Template.lines, Subject.withoutImports, groupInterface_withoutImports]
    | groupTest => simp only [Template.lines, Subject.withoutImports, groupTest_withoutImports]
    | _ => rfl
  | run groups models f scaffold serializable =>
    cases t with
    | introduction =>
      simp only [Template.lines, Subject.withoutImports, introduction_withoutImports]
    | _ => rfl

/-- So what is rendered depends on no set. -/
theorem render_withoutImports (dirs : List String) (s : Setting) (subject : Subject)
    (template : String) :
    render dirs s subject.withoutImports template = render dirs s subject template := by
  unfold render
  split
  · rfl
  · rw [lines_withoutImports]

/-! ## Files -/

/-- The subject of a model whose import set is met as a list of names, and seen in no other way. -/
def modelSubjectMet (c : Configuration) (s : Setting) (table : TypeTable)
    (classes names : List String) (m : Model) : Subject :=
  .model m.withoutImports (resolveImports table classes s.modelPackage.asText names)
    c.modelFeatures

/-- The subject of a group whose import set is met so. -/
def groupSubjectMet (c : Configuration) (s : Setting) (table : TypeTable)
    (classes names : List String) (g : Group) : Subject :=
  .group g.withoutImports (resolveImports table classes s.modelPackage.asText names)
    c.operationFeatures c.scaffoldFeatures

/-- Whether the files of a run with some classes of models are the same in whatever order, and
however often, the members of import sets and the classes are met. -/
structure RenderedAlike (table : TypeTable) (classes : List String) : Prop where
  model : ∀ dirs s c template m classes' names, SameNames classes' classes →
    SameNames names m.imports.toList →
    render dirs s (modelSubjectMet c s table classes' names m) template =
      render dirs s (modelSubject c s table classes m) template
  group : ∀ dirs s c template g classes' names, SameNames classes' classes →
    SameNames names g.imports.toList →
    render dirs s (groupSubjectMet c s table classes' names g) template =
      render dirs s (groupSubject c s table classes g) template
  /-- Supporting files have no imports of their own. -/
  supporting : ∀ dirs s c template groups models,
    render dirs s (runSubject c groups models).withoutImports template =
      render dirs s (runSubject c groups models) template

theorem renderedAlike (table : TypeTable) (classes : List String) :
    RenderedAlike table classes where
  model dirs s c template m classes' names hclasses hnames := by
    have hsame := reproducible_resolveImports table classes s.modelPackage.asText m.imports.toList
    rw [modelSubjectMet, hsame.same classes' names hclasses hnames]
    exact render_withoutImports dirs s (modelSubject c s table classes m) template
  group dirs s c template g classes' names hclasses hnames := by
    have hsame := reproducible_resolveImports table classes s.modelPackage.asText g.imports.toList
    rw [groupSubjectMet, hsame.same classes' names hclasses hnames]
    exact render_withoutImports dirs s (groupSubject c s table classes g) template
  supporting dirs s c template groups models :=
    render_withoutImports dirs s (runSubject c groups models) template

end Render

open Render

/-- For every table of types and all classes of models: the imports of any names, in any package of
the models, are told by the names as a set, and no file depends on the order in which the members of
its import set are met. -/
theorem imports_reproducible (table : TypeTable) (classes : List String) :
    (∀ package names, Reproducible table classes package names) ∧ RenderedAlike table classes :=
  ⟨fun package names => reproducible_resolveImports table classes package names,
    renderedAlike table classes⟩

/-- A model with a list of days, and with names that need no import or have none. -/
def calendar : Model where
  name := "calendar"
  classname := "Calendar"
  imports := .ofList ["List", "LocalDate", "Pet", "String", "Weekday"]

/-- Its names in another order and with repetitions, and classes that are met in the same way. One
of them has the name of a type that needs no import. -/
theorem imports_reproducible_repeated :
    let table := JaxrsCxf.backend.typeTable
    let names := ["Weekday", "Pet", "List", "String", "LocalDate", "List", "Pet"]
    resolveImports table ["String", "Pet", "Pet"] "io.pets" names =
        ["io.pets.Pet", "java.util.List", "org.joda.time.LocalDate"] ∧
      render JaxrsCxf.backend.templateDirs default
          (modelSubjectMet {} default table ["String", "Pet", "Pet"] names calendar)
          "model.java.j2" =
        render JaxrsCxf.backend.templateDirs default
          (modelSubject {} default table ["Pet", "String"] calendar) "model.java.j2" := by
  have hclasses : SameNames ["String", "Pet", "Pet"] ["Pet", "String"] := by
    simp [sameNames_iff, or_comm]
  have hnames : SameNames ["Weekday", "Pet", "List", "String", "LocalDate", "List", "Pet"]
      calendar.imports.toList := by
    refine sameNames_iff.2 fun n => ?_
    change _ ↔ n ∈ calendar.imports
    rw [calendar, NameSet.mem_ofList]
    simp only [List.mem_cons, List.not_mem_nil, or_false]
    tauto
  obtain ⟨hlist, hfiles⟩ := imports_reproducible JaxrsCxf.backend.typeTable ["Pet", "String"]
  refine ⟨((hlist "io.pets" calendar.imports.toList).same _ _ hclasses hnames).trans ?_,
    hfiles.model _ _ _ _ _ _ _ hclasses hnames⟩
  decide +kernel

end ClientGen
