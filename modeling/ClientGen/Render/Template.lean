import ClientGen.Files.Path
import ClientGen.Failure.Message
import ClientGen.Render.Build
import ClientGen.Render.InterfaceTest
import ClientGen.Render.Manual
import ClientGen.Render.ModelClass

/-!
# Templates

The templates are bundled in two directories, and a backend says in which directories its templates
are looked for ([findTemplate?]). A template is rendered for a subject ([render]). It may use parts
of other templates, which are looked for in the same way, and it fails if its subject does not have
what it asks for; the first thing that is missing is the fault.
-/

namespace ClientGen.Render

open Files

/-- The bundled templates. -/
inductive Template where
  | introduction | groupPage | modelPage
  | gradleBuild | gradleSettings | ignoreList | mavenProject
  | apiComment
  /-- The parts that interfaces and their tests have in common. It shows nothing by itself. -/
  | sharedParts
  | groupInterface | groupTest | modelClass
  deriving DecidableEq, Repr

/-! ## Looking for templates -/

/-- The directory of the program. -/
def programPlace : Place := ["clientforge"]

/-- The directory of the bundled templates. -/
def bundledPlace : Place := programPlace ++ ["templates"]

/-- The directory of the templates for all Java backends. -/
def javaPlace : Place := bundledPlace ++ ["java"]

/-- The directory of the templates for JAX-RS clients. -/
def jaxrsPlace : Place := bundledPlace ++ ["jaxrs-cxf-client"]

/-- The directories there are. -/
def templatePlaces : List Place := [[], programPlace, bundledPlace, javaPlace, jaxrsPlace]

namespace Template

/-- Every template. -/
def all : List Template := [.introduction, .groupPage, .modelPage, .gradleBuild, .gradleSettings,
  .ignoreList, .mavenProject, .apiComment, .sharedParts, .groupInterface, .groupTest, .modelClass]

/-- The file of a template. -/
def place : Template → Place
  | introduction => javaPlace ++ ["README.md.j2"]
  | groupPage => javaPlace ++ ["api_doc.md.j2"]
  | modelPage => javaPlace ++ ["model_doc.md.j2"]
  | gradleBuild => javaPlace ++ ["build.gradle.j2"]
  | gradleSettings => javaPlace ++ ["settings.gradle.j2"]
  | ignoreList => javaPlace ++ ["gitignore.j2"]
  | apiComment => javaPlace ++ ["licenseInfo.j2"]
  | sharedParts => jaxrsPlace ++ ["_macros.j2"]
  | groupInterface => jaxrsPlace ++ ["api.java.j2"]
  | groupTest => jaxrsPlace ++ ["api_test.java.j2"]
  | modelClass => jaxrsPlace ++ ["model.java.j2"]
  | mavenProject => jaxrsPlace ++ ["pom.xml.j2"]

end Template

/-- The place that segments lead to, if every step is taken from a directory that there is. -/
def reachTemplates? (start : Place) : List String → Option Place
  | [] => if templatePlaces.contains start then some start else none
  | s :: rest =>
    if templatePlaces.contains start then reachTemplates? (Path.stepTo start s) rest else none

/-- The directory of templates that a text names, from the bundled templates on. Elsewhere there are
no templates. -/
def templateDirectory? (entry : String) : Option Place :=
  let p := Path.ofText entry
  if p.isAbsolute then none else reachTemplates? bundledPlace p.parts

/-- The template of a name in a directory. A double dot leads nowhere. -/
def templateIn? (directory : Place) (name : String) : Option Template :=
  let parts := (Path.ofText name).parts
  if parts.contains ".." then none
  else Template.all.find? fun t => t.place = directory ++ parts

/-- The template of a name in the first directory that has it. -/
def findTemplate? (dirs : List String) (name : String) : Option Template :=
  dirs.findSome? fun entry => (templateDirectory? entry).bind (templateIn? · name)

/-! ## Rendering -/

/-- Why a template cannot be rendered. -/
inductive RenderFault where
  | notFound (template : String)
  /-- The subject does not have what the template asks for. -/
  | undefined (template what : String)
  /-- A value that is asked for has no text. -/
  | text (fault : TextFault)
  deriving DecidableEq, Repr

/-- The message for a fault. -/
def RenderFault.message : RenderFault → Message
  | notFound template => ⟨"Template not found: " ++ template, .absent⟩
  | undefined template what =>
    ⟨"Failed to render template '" ++ template ++ "': '" ++ what ++ "' is undefined", .absent⟩
  | text fault => ⟨fault.words, .absent⟩

/-- Some lines, if a template that they use is there. -/
def withPart (dirs : List String) (part : String) (lines : Except RenderFault Lines) :
    Except RenderFault Lines :=
  if (findTemplate? dirs part).isSome then lines else .error (.notFound part)

/-- Some lines that use the comment about the API. -/
def withComment (dirs : List String) (lines : Except RenderFault Lines) :
    Except RenderFault Lines :=
  withPart dirs "licenseInfo.j2" lines

/-- Some lines that use the shared parts. -/
def withParts (dirs : List String) (lines : Except RenderFault Lines) : Except RenderFault Lines :=
  withPart dirs "_macros.j2" lines

/-- Some lines that show values, if all of these have texts. -/
def withTexts (shown : List Value) (lines : Except RenderFault Lines) : Except RenderFault Lines :=
  match shown.findSome? (·.textFault?) with
  | some fault => .error (.text fault)
  | none => lines

/-- The lines of a template, known by a name, for a subject. The packages of a run are texts. -/
def Template.lines (t : Template) (name : String) (dirs : List String) (s : Setting)
    (subject : Subject) : Except RenderFault Lines :=
  let missing (what : String) : Except RenderFault Lines := .error (.undefined name what)
  match t with
  | introduction =>
    match subject with
    | .run groups models .. =>
      withTexts [s.artifactId] <| .ok (Render.introduction s groups models)
    | _ => withTexts [s.artifactId] (missing "groups")
  | groupPage =>
    match subject with
    | .group g .. => .ok (Render.groupPage s g)
    | .model .. => missing "operations"
    | .run .. => missing "classname"
  | modelPage =>
    match subject with
    | .model m .. => .ok (Render.modelPage m)
    | .group .. => missing "model"
    | .run .. => missing "classname"
  | gradleBuild => withTexts [s.groupId, s.artifactVersion, s.sourceFolder] <|
    .ok (Render.gradleBuild s subject.beanValidation)
  | gradleSettings => withTexts [s.artifactId] <| .ok (Render.gradleSettings s)
  | ignoreList => .ok Render.ignoreList
  | mavenProject =>
    withTexts [s.groupId, s.artifactId, s.artifactVersion, s.sourceFolder] <|
    match subject with
    | .model .. => missing "use_logging_feature"
    | .group _ _ f scaffold =>
      .ok (Render.mavenProject s scaffold.jsonMapping scaffold.logging f.beanValidation)
    | .run _ _ f scaffold _ =>
      .ok (Render.mavenProject s scaffold.jsonMapping scaffold.logging f.beanValidation)
  | apiComment => .ok (Render.apiComment s)
  | sharedParts => .ok ["", "", ""]
  | groupInterface => withParts dirs <|
    match subject with
    | .group g imports .. => withComment dirs (.ok (Render.groupInterface s g imports))
    | .model .. => withComment dirs (missing "common_path")
    | .run .. => missing "package"
  | groupTest => withParts dirs <|
    match subject with
    | .group g imports _ scaffold => withComment dirs (.ok (Render.groupTest s g imports scaffold))
    | .model .. => missing "use_gzip_feature"
    | .run .. => missing "package"
  | modelClass =>
    match subject with
    | .model m imports f => withComment dirs (.ok (Render.modelClass s m imports f))
    | .group .. => withComment dirs (missing "model")
    | .run .. => missing "package"

/-- The text of the template of a name. -/
def render (dirs : List String) (s : Setting) (subject : Subject) (name : String) :
    Except RenderFault String :=
  match findTemplate? dirs name with
  | none => .error (.notFound name)
  | some t => (t.lines name dirs s subject).map textOf

end ClientGen.Render
