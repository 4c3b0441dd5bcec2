import ClientGen.Backend.JaxrsCxf
import ClientGen.Proofs.Imports.Lines
import ClientGen.Proofs.Imports.Types
import ClientGen.Proofs.Names.Characters

/-!
# What imported names mean

Some short names are imported because a type, a container, an annotation or the generic response is
written by them; others are the classes of schemas. Both are in one set, and a name of both kinds is
taken for the class. So the names mean what they are meant to ([JaxrsCxf.MeantImports]) iff no class
of a schema has one of them, or one of the names that every interface or test imports, unless it is
that very type ([JaxrsCxf.KeptApart], [JaxrsCxf.meantImports_iff]).
-/

namespace ClientGen

open Client Render

namespace Client

/-- The short names that a type needs besides the class of a schema. -/
inductive NeedsRegistered (table : TypeTable) (schemas : List String) (type : String)
    (container : Option Api.Container) : String → Prop where
  | target {name : String} : type ∉ schemas → table.types.lookup type = some name →
      (table.importFor name).isSome → NeedsRegistered table schemas type container name
  | container {c : Api.Container} {name : String} : container = some c →
      name ∈ containerImports c → NeedsRegistered table schemas type container name

/-- A short name is needed as one of these, or as the class of the type. -/
theorem needs_iff {table : TypeTable} {schemas : List String} {type n : String}
    {container : Option Api.Container} :
    Needs table schemas type container n ↔
      NeedsRegistered table schemas type container n ∨
        type ∈ schemas ∧ n = Java.modelName type := by
  constructor
  · intro h
    cases h with
    | schema hin => exact .inr ⟨hin, rfl⟩
    | target hout ht hi => exact .inl (.target hout ht hi)
    | container hc hn => exact .inl (.container hc hn)
  · rintro (h | ⟨hin, hn⟩)
    · cases h with
      | target hout ht hi => exact .target hout ht hi
      | container hc hn => exact .container hc hn
    · rw [hn]
      exact .schema hin

section
variable {table : TypeTable} {classes : List String} {package n ref : String}

/-- A class of a schema is imported from the package of the models. -/
theorem importOf?_of_mem (hn : n ∈ classes) (hwritten : n ∉ importedAnyway) :
    importOf? table classes package n = some (package ++ "." ++ n) := by
  unfold importOf?
  simp [hn, hwritten]

/-- Any other name is imported as the table says. -/
theorem importOf?_of_not_mem (hn : n ∉ classes) (hwritten : n ∉ importedAnyway) :
    importOf? table classes package n = table.importFor n := by
  unfold importOf?
  simp [hn, hwritten]

theorem mem_resolveImports {names : List String} :
    ref ∈ resolveImports table classes package names ↔
      ∃ n ∈ names, importOf? table classes package n = some ref := by
  refine NameSet.mem_ofList.trans ?_
  exact List.mem_filterMap

end

end Client

namespace JaxrsCxf

/-! ## The table -/

section
variable {n ref : String}

/-- What is imported for a short name is one type of that simple name, and the name needs an
import. -/
theorem of_importFor (h : backend.typeTable.importFor n = some ref) :
    simpleName ref = n ∧ n ∉ importedAnyway ∧ ref.toList.getLast? ≠ some '*' := by
  have hall : ∀ e ∈ backend.typeTable.imports,
      simpleName e.2 = e.1 ∧ e.1 ∉ importedAnyway ∧ e.2.toList.getLast? ≠ some '*' := by
    decide +kernel
  exact hall (n, ref) (Assoc.mem_of_lookup h)

/-- The same holds of all that is imported. -/
theorem of_importOf? {schemas : List String} {package : String}
    (h : importOf? backend.typeTable (schemas.map Java.modelName) package n = some ref) :
    simpleName ref = n ∧ n ∉ importedAnyway ∧ ref.toList.getLast? ≠ some '*' := by
  by_cases hwritten : n ∈ importedAnyway
  · rw [importOf?, List.contains_iff_mem.2 hwritten] at h
    cases h
  · by_cases hn : n ∈ schemas.map Java.modelName
    · rw [importOf?_of_mem hn hwritten] at h
      cases h
      obtain ⟨schema, _, rfl⟩ := List.mem_map.1 hn
      have hout {c : Char} (hc : c.isAlphanum = false) : c ∉ (Java.modelName schema).toList := by
        intro hin
        rw [Java.isAlphanum_of_mem_modelName schema c hin] at hc
        cases hc
      have hchars : (Java.modelName schema).toList ≠ [] := by
        intro hnil
        refine Java.modelName_ne_empty schema ?_
        rw [← @String.ofList_toList (Java.modelName schema), hnil]
      refine ⟨simpleName_append (hout (by decide)) package, hwritten,
        fun hlast => hout (c := '*') (by decide) ?_⟩
      rw [String.toList_append, List.getLast?_append_of_ne_nil _ hchars] at hlast
      exact List.mem_of_getLast? hlast
    · rw [importOf?_of_not_mem hn hwritten] at h
      exact of_importFor h

end

/-- A type with the simple name of a class is not imported, unless it is that class. -/
theorem not_mem_resolveImports {schemas names : List String} {package x ref : String}
    (hx : x ∈ schemas) (hsame : simpleName ref = Java.modelName x)
    (hother : ref ≠ package ++ "." ++ Java.modelName x) :
    ref ∉ resolveImports backend.typeTable (schemas.map Java.modelName) package names := by
  intro hin
  obtain ⟨n, _, himport⟩ := mem_resolveImports.1 hin
  obtain ⟨hsimple, hwritten, _⟩ := of_importOf? himport
  have hname : n = Java.modelName x := hsimple.symm.trans hsame
  rw [hname] at hwritten himport
  rw [importOf?_of_mem (List.mem_map_of_mem hx) hwritten] at himport
  exact hother (Option.some_inj.1 himport).symm

/-! ## Files -/

/-- Whether the imports of a file mean what they are meant to, where `puts` are the short names that
are written in it for a type, a container, an annotation or the generic response. -/
structure MeantImports (lines : Lines) (puts : String → Prop) : Prop where
  /-- Such a name is imported as the table says. -/
  meant : ∀ n, puts n →
    ∃ ref, backend.typeTable.importFor n = some ref ∧ ref ∈ importedTypes lines
  /-- Imported types are told apart by their simple names. -/
  apart : ∀ a ∈ importedTypes lines, ∀ b ∈ importedTypes lines,
    simpleName a = simpleName b → a = b

/-- Whether the classes of schemas, in the package of the models, are kept apart from such names and
from the types that are imported by every file of a kind. -/
structure KeptApart (schemas : List String) (package : String) (imports : NameSet)
    (fixed : List String) (puts : String → Prop) : Prop where
  /-- A class with such a name is the type that the table has for it. -/
  named : ∀ x ∈ schemas, puts (Java.modelName x) → Java.modelName x ∈ imports ∧
    backend.typeTable.importFor (Java.modelName x) =
      some (package ++ "." ++ Java.modelName x)
  /-- A class that is imported is the type of its simple name that is imported anyway, if there is
  one. -/
  fixed : ∀ x ∈ schemas, Java.modelName x ∈ imports → ∀ ref ∈ fixed,
    simpleName ref = Java.modelName x → ref = package ++ "." ++ Java.modelName x

/-- The types that are imported by every interface or test, with their simple names. -/
def fixedNames : List (String × String) := [
  ("java.io.InputStream", "InputStream"),
  ("java.io.OutputStream", "OutputStream"),
  ("java.util.ArrayList", "ArrayList"),
  ("java.util.HashMap", "HashMap"),
  ("java.util.List", "List"),
  ("java.util.Map", "Map"),
  ("javax.ws.rs.core.MediaType", "MediaType"),
  ("javax.ws.rs.core.Response", "Response"),
  ("org.junit.Before", "Before"),
  ("org.junit.Test", "Test"),
  ("org.apache.cxf.feature.Feature", "Feature"),
  ("org.apache.cxf.jaxrs.client.ClientConfiguration", "ClientConfiguration"),
  ("org.apache.cxf.jaxrs.client.JAXRSClientFactory", "JAXRSClientFactory"),
  ("org.apache.cxf.jaxrs.client.WebClient", "WebClient"),
  ("org.apache.cxf.jaxrs.ext.multipart.Attachment", "Attachment"),
  ("org.apache.cxf.ext.logging.LoggingFeature", "LoggingFeature"),
  ("org.apache.cxf.transport.common.gzip.GZIPFeature", "GZIPFeature"),
  ("org.apache.cxf.jaxrs.provider.jsrjsonb.JsonBProvider", "JsonBProvider"),
  ("com.fasterxml.jackson.jaxrs.json.JacksonJsonProvider", "JacksonJsonProvider")]

theorem simpleName_of_mem_fixedNames : ∀ e ∈ fixedNames, simpleName e.1 = e.2 := by
  have hall : fixedNames.map (fun e => simpleName e.1) = fixedNames.map (·.2) := by
    simp only [fixedNames, List.map_cons, List.map_nil]
    repeat rw [simpleName_ofList]
    decide +kernel
  exact List.map_inj_left.1 hall

/-- Whether these are some of them. -/
def FixedTypes (fixed : List String) : Prop := ∀ ref ∈ fixed, ref ∈ fixedNames.map (·.1)

instance (fixed : List String) : Decidable (FixedTypes fixed) :=
  inferInstanceAs (Decidable (∀ ref ∈ fixed, ref ∈ fixedNames.map (·.1)))

theorem fixedTypes_interfaceTypes : FixedTypes interfaceTypes := by
  decide +kernel

theorem fixedTypes_testTypes (f : ScaffoldFeatures) : FixedTypes (testTypes f) := by
  have hif {condition : Bool} {types : List String} (h : FixedTypes types) :
      FixedTypes (linesIf condition types) := by
    cases condition with
    | true => exact h
    | false => exact fun ref href => by cases href
  have happend {types more : List String} (h : FixedTypes types) (hmore : FixedTypes more) :
      FixedTypes (types ++ more) :=
    fun ref href => (List.mem_append.1 href).elim (h ref) (hmore ref)
  unfold testTypes
  refine happend (happend (happend (happend (happend ?_ (hif ?_)) (hif ?_)) (hif ?_)) (hif ?_)) ?_
  all_goals decide +kernel

section
variable {fixed : List String} {ref : String}

/-- Such a type has its simple name to itself, and the table has no other one of that name. -/
theorem FixedTypes.known (h : FixedTypes fixed) (href : ref ∈ fixed) :
    simpleName ref ∉ importedAnyway ∧
      ∀ ref', backend.typeTable.importFor (simpleName ref) = some ref' → ref = ref' := by
  have hall : ∀ e ∈ fixedNames, e.2 ∉ importedAnyway ∧
      (backend.typeTable.importFor e.2 = none ∨
        backend.typeTable.importFor e.2 = some e.1) := by
    decide +kernel
  obtain ⟨e, he, rfl⟩ := List.mem_map.1 (h ref href)
  obtain ⟨hwritten, hknown⟩ := hall e he
  rw [simpleName_of_mem_fixedNames e he]
  refine ⟨hwritten, fun ref' href' => ?_⟩
  rcases hknown with hnone | hsome
  · rw [href'] at hnone
    cases hnone
  · exact Option.some_inj.1 (hsome.symm.trans href')

theorem FixedTypes.apart (h : FixedTypes fixed) {ref' : String} (href : ref ∈ fixed)
    (href' : ref' ∈ fixed) (hsame : simpleName ref = simpleName ref') : ref = ref' := by
  have hall : ∀ e ∈ fixedNames, ∀ e' ∈ fixedNames, e.2 = e'.2 → e.1 = e'.1 := by decide +kernel
  obtain ⟨e, he, rfl⟩ := List.mem_map.1 (h ref href)
  obtain ⟨e', he', rfl⟩ := List.mem_map.1 (h ref' href')
  rw [simpleName_of_mem_fixedNames e he, simpleName_of_mem_fixedNames e' he'] at hsame
  exact hall e he e' he' hsame

end

section
variable {schemas : List String} {package : String} {imports : NameSet} {fixed : List String}
  {puts : String → Prop} {lines : Lines}

/-- Classes are kept apart if none of them has a name that the table or a fixed import knows. -/
theorem keptApart_of_unknown (hfixed : FixedTypes fixed)
    (hknown : ∀ n, puts n → ∃ ref, backend.typeTable.importFor n = some ref)
    (htable : ∀ x ∈ schemas, backend.typeTable.importFor (Java.modelName x) = none)
    (hnames : ∀ x ∈ schemas, Java.modelName x ∉ fixedNames.map (·.2)) :
    KeptApart schemas package imports fixed puts := by
  refine ⟨fun x hx hput => ?_, fun x hx _ ref href hname => ?_⟩
  · obtain ⟨ref, href⟩ := hknown _ hput
    rw [htable x hx] at href
    cases href
  · obtain ⟨e, he, rfl⟩ := List.mem_map.1 (hfixed ref href)
    rw [simpleName_of_mem_fixedNames e he] at hname
    exact absurd (hname ▸ List.mem_map_of_mem he) (hnames x hx)

/-- An imported type of the simple name of a fixed one is that one. -/
theorem KeptApart.eq_of_mem_fixed (h : KeptApart schemas package imports fixed puts)
    (hfixed : FixedTypes fixed) {n ref ref' : String} (hn : n ∈ imports)
    (himport : importOf? backend.typeTable (schemas.map Java.modelName) package n = some ref)
    (href' : ref' ∈ fixed) (hsame : simpleName ref = simpleName ref') : ref = ref' := by
  obtain ⟨hsimple, hwritten, _⟩ := of_importOf? himport
  have hname : simpleName ref' = n := hsame.symm.trans hsimple
  by_cases hclassed : n ∈ schemas.map Java.modelName
  · obtain ⟨x, hx, rfl⟩ := List.mem_map.1 hclassed
    rw [importOf?_of_mem hclassed hwritten] at himport
    exact (Option.some_inj.1 himport).symm.trans (h.fixed x hx hn ref' href' hname).symm
  · rw [importOf?_of_not_mem hclassed hwritten, ← hname] at himport
    exact ((hfixed.known href').2 ref himport).symm

/-! In the rest a file imports what its names stand for, and the fixed types. -/

section
variable (hfixed : FixedTypes fixed)
  (hlines : importedTypes lines =
    resolveImports backend.typeTable (schemas.map Java.modelName) package imports.toList ++ fixed)
  (hknown : ∀ n, puts n → ∃ ref, backend.typeTable.importFor n = some ref)
  (himports : ∀ n, puts n → n ∈ imports ∨ n ∈ schemas.map Java.modelName ∧ fixed = [])

include hlines in
theorem mem_importedTypes_iff {ref : String} : ref ∈ importedTypes lines ↔
    (∃ n ∈ imports,
      importOf? backend.typeTable (schemas.map Java.modelName) package n = some ref) ∨
        ref ∈ fixed := by
  rw [hlines, List.mem_append, mem_resolveImports]
  rfl

include hfixed hlines himports in
/-- If its imports mean what they are meant to, then a class with the name of a type, or of a fixed
import, is that one. -/
theorem MeantImports.keptApart (h : MeantImports lines puts) :
    KeptApart schemas package imports fixed puts := by
  have hclass {x : String} (hx : x ∈ schemas) (hin : Java.modelName x ∈ imports)
      (hwritten : Java.modelName x ∉ importedAnyway) :
      package ++ "." ++ Java.modelName x ∈ importedTypes lines ∧
        simpleName (package ++ "." ++ Java.modelName x) = Java.modelName x := by
    have himport : importOf? backend.typeTable (schemas.map Java.modelName) package
        (Java.modelName x) = some (package ++ "." ++ Java.modelName x) :=
      importOf?_of_mem (List.mem_map_of_mem hx) hwritten
    exact ⟨(mem_importedTypes_iff hlines).2 (.inl ⟨_, hin, himport⟩), (of_importOf? himport).1⟩
  refine ⟨fun x hx hput => ?_, fun x hx hin ref href hname => ?_⟩
  · obtain ⟨ref, href, hmem⟩ := h.meant _ hput
    obtain ⟨hsimple, hwritten, _⟩ := of_importFor href
    have hin : Java.modelName x ∈ imports := by
      rcases himports _ hput with hin | ⟨_, hnil⟩
      · exact hin
      · -- Nothing but the imports is there, so it is imported for its own name.
        rcases (mem_importedTypes_iff hlines).1 hmem with ⟨n, hn, himport⟩ | hmem
        · have hname : n = Java.modelName x := (of_importOf? himport).1.symm.trans hsimple
          exact hname ▸ hn
        · rw [hnil] at hmem
          cases hmem
    obtain ⟨hmem', hsimple'⟩ := hclass hx hin hwritten
    exact ⟨hin, href.trans (congrArg some (h.apart ref hmem _ hmem' (hsimple.trans hsimple'.symm)))⟩
  · have hwritten : Java.modelName x ∉ importedAnyway := hname ▸ (hfixed.known href).1
    obtain ⟨hmem', hsimple'⟩ := hclass hx hin hwritten
    exact h.apart ref ((mem_importedTypes_iff hlines).2 (.inr href)) _ hmem'
      (hname.trans hsimple'.symm)

include hfixed hlines hknown himports

/-- If classes are kept apart, then its imports mean what they are meant to. -/
theorem KeptApart.meantImports (h : KeptApart schemas package imports fixed puts) :
    MeantImports lines puts := by
  refine ⟨fun n hput => ?_, fun a ha b hb hsame => ?_⟩
  · obtain ⟨ref, href⟩ := hknown n hput
    obtain ⟨_, hwritten, _⟩ := of_importFor href
    refine ⟨ref, href, (mem_importedTypes_iff hlines).2 (.inl ?_)⟩
    by_cases hn : n ∈ schemas.map Java.modelName
    · obtain ⟨x, hx, rfl⟩ := List.mem_map.1 hn
      obtain ⟨hin, hclass⟩ := h.named x hx hput
      refine ⟨_, hin, ?_⟩
      rw [importOf?_of_mem hn hwritten, ← hclass, href]
    · rcases himports n hput with hin | ⟨hin, _⟩
      · refine ⟨n, hin, ?_⟩
        rw [importOf?_of_not_mem hn hwritten, href]
      · exact absurd hin hn
  · rcases (mem_importedTypes_iff hlines).1 ha with ⟨n, hn, himport⟩ | ha
    · rcases (mem_importedTypes_iff hlines).1 hb with ⟨n', hn', himport'⟩ | hb
      · have hname : n = n' :=
          (of_importOf? himport).1.symm.trans (hsame.trans (of_importOf? himport').1)
        rw [hname] at himport
        exact Option.some_inj.1 (himport.symm.trans himport')
      · exact h.eq_of_mem_fixed hfixed hn himport hb hsame
    · rcases (mem_importedTypes_iff hlines).1 hb with ⟨n, hn, himport⟩ | hb
      · exact (h.eq_of_mem_fixed hfixed hn himport ha hsame.symm).symm
      · exact hfixed.apart ha hb hsame

/-- The imports of a file mean what they are meant to iff classes are kept apart. -/
theorem meantImports_iff : MeantImports lines puts ↔
    KeptApart schemas package imports fixed puts :=
  ⟨fun h => h.keptApart hfixed hlines himports,
    fun h => h.meantImports hfixed hlines hknown himports⟩

end

end

end JaxrsCxf

end ClientGen
