import ClientGen.Backend.Basic
import ClientGen.Document.Writer

/-!
# Backends as documents

A backend with all its fields, under names in small letters with underscores
([Backend.fieldValues]). Tables are lists of pairs, so that their order is kept, and a hook is told
by its name.
-/

namespace ClientGen

open Document

instance : ToDocument OptionDecl := ⟨fun o => fields [
  ("name", o.name),
  ("description", o.description),
  ("type", o.kind.name),
  ("default", o.default),
  ("choices", o.choices),
  ("aliases", o.aliases),
  ("choice_aliases", o.legacyModes)]⟩

instance : ToDocument SupportingFile := ⟨fun f => fields [
  ("template", f.template),
  ("folder", f.folder),
  ("destination", f.destination),
  ("overwrite", f.overwrite),
  ("path", f.path)]⟩

instance : ToDocument Registration := ⟨fun
  | .type canonical target ref =>
    .list [.text "type", .text canonical, .text target, toDocument ref]
  | .importOf name ref => toDocument ["import", name, ref]⟩

/-- The name of an option hook. -/
def OptionHook.name : OptionHook → String
  | .pomOnly => "select_pom_only"
  | .clearSupportingFiles => "clear_supporting_files"
  | .writeAlways _ => "write_always"
  | .writeOptional _ => "write_optional"

/-- The name of a model hook. -/
def ModelHook.name : ModelHook → String
  | .jsonMapping => "apply_json_mapping"
  | .beanValidation => "apply_bean_validation"
  | .serializable => "apply_serializable_model"
  | .addImport _ => "add_import"

/-- The name of a hook for operations. -/
def OperationHook.name : OperationHook → String
  | .parameterValidation => "apply_parameter_validation"
  | .jaxrs => "jaxrs_post_process_operations"

/-- The fields of a backend. -/
def Backend.fieldValues (b : Backend) : List (String × Value) := [
  ("name", b.name),
  ("tag", b.kind.name),
  ("help", b.help),
  ("template_dir", b.templateDir),
  ("shared_template_dirs", b.sharedTemplateDirs),
  ("output_folder", b.outputFolder),
  ("test_folder", b.testFolder),
  ("supports_inheritance", b.supportsInheritance),
  ("options", b.options),
  ("type_registrations", b.registrations),
  ("templates", b.templates.map fun (kind, files) => (kind.name, files)),
  ("supporting_files", b.supportingFiles),
  ("removed_model_imports", b.removedModelImports),
  ("option_hooks", b.optionHooks.map (·.name)),
  ("model_hooks", b.modelHooks.map (·.name)),
  ("operation_hooks", b.operationHooks.map (·.name))]

instance : ToDocument Backend := ⟨fun b => fields b.fieldValues⟩

/-- The names of the fields of a backend. -/
def Backend.fieldNames : List String :=
  (Backend.fieldValues { name := "" }).map (·.1)

end ClientGen
