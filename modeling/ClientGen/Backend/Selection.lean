import ClientGen.Backend.Basic
import ClientGen.Options.Configuration

/-!
# The supporting files of a run

Once the options are known the option hooks of a backend decide which further files belong to the
run ([selectFiles]). A file is declared to replace what is there, or to be written only if absent.
-/

namespace ClientGen

namespace Backend

/-- The backend without supporting files. -/
def clearFiles (b : Backend) : Backend := { b with supportingFiles := [] }

/-- The backend with a file that is written in any case. -/
def writeAlways (b : Backend) (f : SupportingFile) : Backend :=
  { b with supportingFiles := b.supportingFiles ++ [{ f with overwrite := true }] }

/-- The backend with a file that is written only if absent. -/
def writeOptional (b : Backend) (f : SupportingFile) : Backend :=
  { b with supportingFiles := b.supportingFiles ++ [{ f with overwrite := false }] }

/-- The build file of Maven. -/
def pomFile : SupportingFile := { template := "pom.xml.j2", destination := "pom.xml" }

end Backend

/-- The backend that a hook leads to. No hook looks at the configuration. -/
def OptionHook.apply (b : Backend) : OptionHook → Backend
  | pomOnly => b.clearFiles.writeOptional Backend.pomFile
  | clearSupportingFiles => b.clearFiles
  | writeAlways f => b.writeAlways f
  | writeOptional f => b.writeOptional f

/-- The backend with the supporting files of a run. -/
def Backend.selectFiles (b : Backend) : Backend := b.optionHooks.foldl OptionHook.apply b

/-- What is told about the supporting files. -/
def Backend.selectionRecord (b : Backend) : Log.Record :=
  let paths := b.supportingFiles.map (·.path)
  let listed := ", ".intercalate paths
  ⟨.debug, "clientforge.generator.supporting",
    "Supporting files for '" ++ b.name ++ "': " ++ (if listed = "" then "(none)" else listed)⟩

end ClientGen
