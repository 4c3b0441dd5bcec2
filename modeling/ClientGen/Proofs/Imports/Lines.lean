import ClientGen.Proofs.Imports.Types
import ClientGen.Client.Imports
import ClientGen.Render.InterfaceTest
import ClientGen.Render.ModelClass
import Mathlib.Data.List.Basic

/-!
# The imports that a file is read with

A line imports a type or, with a star, all types of a package; the imports of a file stand before
its first comment ([importedTypes]). What is imported by the files of a client are the resolved
short names, and behind them the imports that every interface or every test has
([importedTypes_modelClass], [importedTypes_groupInterface], [importedTypes_groupTest]). In code a
type is known by its simple name, the part behind the last dot ([simpleName]).
-/

namespace ClientGen.Render

open Client

/-! ## Lines -/

/-- The type that a line imports; an import with a star imports none by itself. -/
def importedType? (line : String) : Option String :=
  if Text.startsWith line "import " && line.toList.getLast? == some ';' then
    let type := (line.toList.drop 7).dropLast
    if type.getLast? == some '*' then none else some (String.ofList type)
  else none

/-- The types that a file imports, in their order. -/
def importedTypes (lines : Lines) : List String :=
  (lines.takeWhile (· != "/*")).filterMap importedType?

/-- The name by which an imported type is known. -/
def simpleName (type : String) : String :=
  String.ofList (type.toList.reverse.takeWhile (· != '.')).reverse

/-- The simple name of a text that is given by its characters. -/
theorem simpleName_ofList (cs : List Char) :
    simpleName (String.ofList cs) =
      String.ofList (cs.reverse.takeWhile (· != '.')).reverse := by
  rw [simpleName, String.toList_ofList]

/-- Behind a package the simple name is the rest. -/
theorem simpleName_append {name : String} (h : '.' ∉ name.toList) (package : String) :
    simpleName (package ++ "." ++ name) = name := by
  have hname : ∀ c ∈ name.toList.reverse, (c != '.') = true := by
    intro c hc
    rw [bne_iff_ne]
    rintro rfl
    exact h (List.mem_reverse.1 hc)
  have hchars : (package ++ "." ++ name).toList.reverse =
      name.toList.reverse ++ '.' :: package.toList.reverse := by
    rw [String.toList_append, String.toList_append, List.reverse_append, List.reverse_append]
    rfl
  have hdot : ('.' != '.') = false := by decide
  rw [simpleName, hchars, List.takeWhile_append_of_pos hname, List.takeWhile_cons, hdot,
    if_neg Bool.false_ne_true, List.append_nil, List.reverse_reverse, String.ofList_toList]

/-- The import of a type is read back. -/
theorem importedType?_import {type : String} (h : type.toList.getLast? ≠ some '*') :
    importedType? ("import " ++ type ++ ";") = some type := by
  have hchars : ("import " ++ type ++ ";").toList = "import ".toList ++ (type.toList ++ [';']) := by
    rw [String.toList_append, String.toList_append, List.append_assoc]
    rfl
  have hstart : Text.startsWith ("import " ++ type ++ ";") "import " = true := by
    rw [Text.startsWith_iff]
    exact ⟨type ++ ";", String.append_assoc ..⟩
  have hlast : ("import " ++ type ++ ";").toList.getLast? = some ';' := by
    rw [hchars, ← List.append_assoc, List.getLast?_concat]
  have htype : (("import " ++ type ++ ";").toList.drop 7).dropLast = type.toList := by
    have hlength : "import ".toList.length = 7 := rfl
    rw [hchars, ← hlength, List.drop_left, List.dropLast_concat]
  unfold importedType?
  rw [hstart, hlast, htype, beq_self_eq_true, Bool.and_true, if_pos rfl]
  simp only
  rw [if_neg (by simpa using h), String.ofList_toList]

/-- Before the first comment stand the package, the imports, and what is there in every file of its
kind. -/
theorem importedTypes_append {package : Value} {imports : List String} {fixed comment : Lines}
    (himports : ∀ i ∈ imports, i.toList.getLast? ≠ some '*') (hfixed : "/*" ∉ fixed) :
    importedTypes (packageHead package imports ++ (fixed ++ "/*" :: comment)) =
      imports ++ fixed.filterMap importedType? := by
  have hhead : ∀ line ∈ packageHead package imports ++ fixed, (line != "/*") = true := by
    intro line hline
    rw [bne_iff_ne]
    rintro rfl
    rw [packageHead] at hline
    simp only [List.mem_append, List.mem_cons, List.not_mem_nil, or_false, List.mem_map] at hline
    rcases hline with ((hpackage | hempty) | ⟨i, _, himport⟩) | hline
    · have hchars := congrArg String.toList hpackage
      simp at hchars
    · exact absurd hempty (by decide)
    · have hchars := congrArg String.toList himport
      simp at hchars
    · exact hfixed hline
  have hcomment : ("/*" != "/*") = false := by decide
  have hpackage : importedType? ("package " ++ package.asText ++ ";") = none := by
    have hstart : Text.startsWith ("package " ++ package.asText ++ ";") "import " = false := by
      rw [Bool.eq_false_iff, ne_eq, Text.startsWith_iff]
      rintro ⟨rest, hrest⟩
      have hchars := congrArg String.toList hrest
      simp at hchars
    rw [importedType?, hstart, Bool.false_and, if_neg Bool.false_ne_true]
  have hread : (imports.map fun i => "import " ++ i ++ ";").filterMap importedType? = imports := by
    rw [List.filterMap_map]
    refine (List.filterMap_congr fun i hi => ?_).trans List.filterMap_some
    exact importedType?_import (himports i hi)
  rw [importedTypes, ← List.append_assoc, List.takeWhile_append_of_pos hhead, List.takeWhile_cons,
    hcomment, if_neg Bool.false_ne_true, List.append_nil, List.filterMap_append, packageHead,
    List.filterMap_append, hread, List.filterMap_cons, hpackage]
  rfl

/-! ## Files -/

/-- The types that every interface imports by name. -/
def interfaceTypes : List String :=
  ["java.io.InputStream", "java.io.OutputStream", "javax.ws.rs.core.MediaType"]

/-- The types that every test of an interface imports by name. -/
def testTypes (f : ScaffoldFeatures) : List String :=
  ["org.junit.Test",
    "org.junit.Before",
    "javax.ws.rs.core.Response",
    "org.apache.cxf.feature.Feature",
    "org.apache.cxf.jaxrs.client.JAXRSClientFactory",
    "org.apache.cxf.jaxrs.client.ClientConfiguration",
    "org.apache.cxf.jaxrs.client.WebClient",
    "org.apache.cxf.jaxrs.ext.multipart.Attachment"] ++
  linesIf (f.jsonMapping == .jackson) ["com.fasterxml.jackson.jaxrs.json.JacksonJsonProvider"] ++
  linesIf (f.jsonMapping == .jsonb) ["org.apache.cxf.jaxrs.provider.jsrjsonb.JsonBProvider"] ++
  linesIf f.gzip ["org.apache.cxf.transport.common.gzip.GZIPFeature"] ++
  linesIf f.logging ["org.apache.cxf.ext.logging.LoggingFeature"] ++
  ["java.io.InputStream",
    "java.io.OutputStream",
    "java.util.ArrayList",
    "java.util.HashMap",
    "java.util.List",
    "java.util.Map"]

theorem filterMap_linesIf (condition : Bool) (lines : Lines) :
    (linesIf condition lines).filterMap importedType? =
      linesIf condition (lines.filterMap importedType?) := by
  cases condition <;> rfl

/-- They are read from its lines. -/
theorem filterMap_testImports (f : ScaffoldFeatures) :
    (testImports f).filterMap importedType? = testTypes f := by
  unfold testImports testTypes
  simp only [List.filterMap_append, filterMap_linesIf]
  refine congrArg₂ _ (congrArg₂ _ (congrArg₂ _ (congrArg₂ _ (congrArg₂ _ ?_ ?_) ?_) ?_) ?_) ?_
  case refine_1 => decide +kernel
  case refine_6 => decide +kernel
  all_goals exact congrArg _ (by decide +kernel)

section
variable {s : Setting} {imports : List String} (h : ∀ i ∈ imports, i.toList.getLast? ≠ some '*')
include h

/-- The class of a model has the imports of the model alone. -/
theorem importedTypes_modelClass (m : Model) (f : ModelFeatures) :
    importedTypes (modelClass s m imports f) = imports := by
  have hlines : ∃ comment, modelClass s m imports f =
      packageHead s.modelPackage imports ++ ([""] ++ "/*" :: comment) := by
    unfold modelClass apiComment
    simp only [List.append_assoc, List.cons_append, List.nil_append]
    exact ⟨_, rfl⟩
  obtain ⟨comment, hlines⟩ := hlines
  rw [hlines, importedTypes_append h (by decide)]
  exact List.append_nil imports

/-- An interface has further ones, and so has its test. -/
theorem importedTypes_groupInterface (g : Group) :
    importedTypes (groupInterface s g imports) = imports ++ interfaceTypes := by
  have hlines : ∃ comment, groupInterface s g imports =
      packageHead s.apiPackage imports ++
        (["", "import java.io.InputStream;", "import java.io.OutputStream;", "",
          "import javax.ws.rs.*;", "import javax.ws.rs.core.MediaType;",
          "import org.apache.cxf.jaxrs.ext.multipart.*;", ""] ++ "/*" :: comment) := by
    unfold groupInterface apiComment
    simp only [List.append_assoc, List.cons_append, List.nil_append]
    exact ⟨_, rfl⟩
  obtain ⟨comment, hlines⟩ := hlines
  rw [hlines, importedTypes_append h (by decide)]
  refine congrArg (imports ++ ·) ?_
  decide

theorem importedTypes_groupTest (g : Group) (f : ScaffoldFeatures) :
    importedTypes (groupTest s g imports f) = imports ++ testTypes f := by
  have hlines : ∃ comment, groupTest s g imports f =
      packageHead s.apiPackage imports ++ (testImports f ++ "/*" :: comment) := by
    unfold groupTest apiComment
    simp only [List.append_assoc, List.cons_append]
    exact ⟨_, rfl⟩
  have hfixed : "/*" ∉ testImports f := by
    obtain ⟨mapping, gzip, logging⟩ := f
    cases mapping <;> cases gzip <;> cases logging <;> decide
  obtain ⟨comment, hlines⟩ := hlines
  rw [hlines, importedTypes_append h hfixed, filterMap_testImports]

end

end ClientGen.Render
