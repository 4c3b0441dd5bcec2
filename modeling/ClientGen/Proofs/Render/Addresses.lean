import ClientGen.Proofs.Grouping.Address
import ClientGen.Proofs.Render.Annotations
import ClientGen.Render.Interface

/-!
# The paths in an interface

A path stands between the quotes of an annotation of its own ([pathIn?]). The interface of a group
has one for the path of the group, and one at the method of every operation that has a path of its
own ([pathsIn_groupInterface]). So the path of a method is what is written there
([join_pathsIn_operationCode]), and with the path of the group in front it is the address of the
operation ([addresses_of_writesAddresses]).
-/

namespace ClientGen.Render

open Client

/-! ## Paths of lines -/

/-- What stands between the quotes of an annotation that ends behind them. -/
def quotedIn (line : String) : String :=
  String.ofList ((line.toList.dropWhile (· != '"')).drop 1).dropLast.dropLast

/-- The path of a line that begins with an annotation for it. -/
def pathIn? (line : String) : Option String :=
  if annotationIn? line = some "Path" then some (quotedIn line) else none

/-- The paths of lines, in their order. -/
def pathsIn (lines : Lines) : List String := lines.filterMap pathIn?

theorem pathsIn_append (a b : Lines) : pathsIn (a ++ b) = pathsIn a ++ pathsIn b :=
  List.filterMap_append

/-- Lines without an annotation for a path have no path. -/
theorem pathsIn_eq_nil {lines : Lines} (h : "Path" ∉ annotationsIn lines) :
    pathsIn lines = [] := by
  refine List.filterMap_eq_nil_iff.2 fun line hline => ?_
  exact if_neg fun hpath => h (List.mem_filterMap.2 ⟨line, hline, hpath⟩)

/-- A path is read back, whatever it is. -/
theorem pathsIn_singleton {line : String} (n : Nat) (path : String)
    (h : line.toList = List.replicate n ' ' ++ ("@Path(\"" ++ path ++ "\")").toList) :
    pathsIn [line] = [path] := by
  have hname : annotationIn? line = some "Path" := by
    refine annotationIn?_of_arguments (by decide) n ('"' :: (path ++ "\")").toList) ?_
    rw [h, String.toList_append, String.toList_append, String.toList_append, List.append_assoc]
    rfl
  have hbefore : ∀ c ∈ List.replicate n ' ' ++ "@Path(".toList, (c != '"') = true := by
    refine List.forall_mem_append.2 ⟨fun c hc => ?_, List.all_eq_true.1 (by decide)⟩
    rw [(List.mem_replicate.1 hc).2]
    rfl
  have hline : line.toList =
      (List.replicate n ' ' ++ "@Path(".toList) ++ '"' :: (path.toList ++ ['"', ')']) := by
    rw [h, String.toList_append, String.toList_append, List.append_assoc, List.append_assoc]
    rfl
  have hquoted : quotedIn line = path := by
    rw [quotedIn, hline, List.dropWhile_append_of_pos hbefore]
    simp
  have hpath : pathIn? line = some path := by rw [pathIn?, if_pos hname, hquoted]
  rw [pathsIn, List.filterMap_cons_some hpath, List.filterMap_nil]

/-! ## Paths of an interface -/

/-- Media types are no path. -/
theorem annotationIn?_mediaTypesCode {kind : String} (hkind : '(' ∉ kind.toList)
    (types : List String) : annotationIn? ("    " ++ mediaTypesCode kind types) = some kind := by
  refine annotationIn?_of_arguments hkind 4
    ("\x7b ".toList ++ (commaed (types.map fun t => "\"" ++ t ++ "\"") ++ " \x7d)").toList) ?_
  simp [mediaTypesCode]

/-- The only path at a method is that of an operation with a path of its own. -/
theorem pathsIn_operationCode (o : Operation) :
    pathsIn (operationCode o) = if o.isSubresource then [o.path] else [] := by
  have hcomment (text : Option String) :
      pathsIn (linesFor text fun s => ["     * " ++ s, "     *"]) = [] := by
    refine pathsIn_eq_nil ?_
    rw [annotationsIn_linesFor fun s => by
      simp +decide [annotationIn?_append, annotationIn?_of_opensPlainly]]
    exact List.not_mem_nil
  have hverb : pathsIn ["     */", "    @" ++ o.method.verb] = [] := by
    refine pathsIn_eq_nil ?_
    cases o.method <;> decide
  have hpath : pathsIn ["    @Path(\"" ++ o.path ++ "\")"] = [o.path] :=
    pathsIn_singleton 4 o.path (by simp)
  have htypes {kind : String} (hkind : '(' ∉ kind.toList) (hother : kind ≠ "Path")
      (types : List String) :
      pathsIn (linesIf (!types.isEmpty) ["    " ++ mediaTypesCode kind types]) = [] := by
    refine pathsIn_eq_nil ?_
    rw [annotationsIn_linesIf]
    split <;> simp [annotationIn?_mediaTypesCode hkind, hother.symm]
  have hdeprecated : pathsIn (linesIf o.deprecated ["    @Deprecated"]) = [] := by
    refine pathsIn_eq_nil ?_
    cases o.deprecated <;> decide
  have hmethod : pathsIn ["    public " ++ o.renderedReturnType.getD "void" ++ " " ++ o.nickname ++
      "(" ++ commaed (o.parameters.map parameterCode) ++ ");"] = [] := by
    refine pathsIn_eq_nil ?_
    simp +decide [String.append_assoc, annotationIn?_append]
  have hstart : pathsIn ["", "    /**"] = [] := by decide
  rw [operationCode]
  simp only [pathsIn_append, hstart, hcomment, hverb, hdeprecated, hmethod,
    htypes (by decide : '(' ∉ "Consumes".toList) (by decide),
    htypes (by decide : '(' ∉ "Produces".toList) (by decide), List.nil_append, List.append_nil]
  cases o.isSubresource with
  | true => exact hpath
  | false => rfl

/-- So what is written at a method is the path of its operation. -/
theorem join_pathsIn_operationCode (o : Operation) :
    String.join (pathsIn (operationCode o)) = o.writtenPath := by
  rw [pathsIn_operationCode, Operation.writtenPath]
  split
  · simp [String.join]
  · rfl

/-- The paths of an interface are the one of its group and those at its methods. -/
theorem pathsIn_groupInterface (s : Setting) (g : Group) (imports : List String) :
    pathsIn (groupInterface s g imports) =
      g.commonPath :: g.operations.flatMap fun o => pathsIn (operationCode o) := by
  have hhead : pathsIn (packageHead s.apiPackage imports) = [] :=
    pathsIn_eq_nil (annotationsIn_packageHead s.apiPackage imports ▸ List.not_mem_nil)
  have himports : pathsIn ["", "import java.io.InputStream;", "import java.io.OutputStream;", "",
      "import javax.ws.rs.*;", "import javax.ws.rs.core.MediaType;",
      "import org.apache.cxf.jaxrs.ext.multipart.*;", ""] = [] := by
    decide
  have hcomment : pathsIn (apiComment s) = [] :=
    pathsIn_eq_nil (annotationsIn_apiComment s ▸ List.not_mem_nil)
  have htitle : pathsIn ["/**", " * " ++ s.appName, " *"] = [] := by
    refine pathsIn_eq_nil ?_
    simp +decide [annotationIn?_append, annotationIn?_of_opensPlainly]
  have hdescription :
      pathsIn (linesIf (s.appDescription != "") [" * <p>" ++ s.appDescription, " *"]) = [] := by
    refine pathsIn_eq_nil ?_
    rw [annotationsIn_linesIf]
    split <;> simp +decide [annotationIn?_append, annotationIn?_of_opensPlainly]
  have hpath : pathsIn ["@Path(\"" ++ g.commonPath ++ "\")"] = [g.commonPath] :=
    pathsIn_singleton 0 g.commonPath rfl
  have hclass : pathsIn ["public interface " ++ g.classname ++ "  \x7b"] = [] := by
    refine pathsIn_eq_nil ?_
    simp +decide [String.append_assoc, annotationIn?_append]
  have hgroup : pathsIn [" */", "@Path(\"" ++ g.commonPath ++ "\")",
      "public interface " ++ g.classname ++ "  \x7b"] = [g.commonPath] := by
    change pathsIn ([" */"] ++ (["@Path(\"" ++ g.commonPath ++ "\")"] ++
      ["public interface " ++ g.classname ++ "  \x7b"])) = [g.commonPath]
    rw [pathsIn_append, pathsIn_append, hpath, hclass]
    rfl
  have hoperations : pathsIn (g.operations.flatMap operationCode) =
      g.operations.flatMap fun o => pathsIn (operationCode o) := List.filterMap_flatMap
  rw [groupInterface]
  simp only [pathsIn_append, hhead, himports, hcomment, htitle, hdescription, hgroup, hoperations]
  simp [show pathsIn ["\x7d"] = [] by decide]

/-- With the path of the group in front they are the addresses of the operations. -/
theorem addresses_of_writesAddresses {g : Group} (h : g.WritesAddresses) :
    ∀ o ∈ g.operations, g.commonPath ++ String.join (pathsIn (operationCode o)) =
      Text.trimCharEnd '/' o.rawPath := by
  intro o ho
  rw [join_pathsIn_operationCode]
  exact (h o ho).2

end ClientGen.Render
