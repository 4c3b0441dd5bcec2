import ClientGen.Proofs.Generation.Paths

/-!
# The order of schemas

Types are resolved against the names of all schemas, and imports against the classes of all models,
but only by asking whether a name is among them. So a description with its schemas in another order
leads to the same files in the same order but for those of the models, which are ordered like the
schemas ([JaxrsCxf.generate_reordered]).
-/

namespace ClientGen

open Client Files Render

/-! ## Names of schemas -/

/-- Whether the same names are in two lists. -/
def SameNames (names names' : List String) : Prop := ∀ n, names.contains n = names'.contains n

/-- These are lists with the same members. -/
theorem sameNames_iff {names names' : List String} :
    SameNames names names' ↔ ∀ n, n ∈ names ↔ n ∈ names' := by
  refine forall_congr' fun n => ?_
  rw [Bool.eq_iff_iff, List.contains_iff_mem, List.contains_iff_mem]

/-- The order of names does not matter. -/
theorem sameNames_reordered {n : Nat} (σ : Equiv.Perm (Fin n)) {names : List String}
    (hn : n ≤ names.length) : SameNames (reordered σ names) names :=
  sameNames_iff.2 fun _ => mem_reordered_iff σ hn

section
variable {schemas schemas' : List String} (h : SameNames schemas schemas') (table : TypeTable)
include h

/-- Types are resolved in the same way. -/
theorem resolveType_congr : resolveType table schemas = resolveType table schemas' := by
  funext type container
  have helement : resolveElement table schemas type = resolveElement table schemas' type := by
    rw [resolveElement, resolveElement, h type]
  unfold resolveType
  rw [helement]

/-- So models are prepared in the same way. -/
theorem prepareModel_congr : prepareModel table schemas = prepareModel table schemas' := by
  have hproperty : prepareProperty table schemas = prepareProperty table schemas' := by
    funext p
    rw [prepareProperty, prepareProperty, resolveType_congr h]
  funext s
  rw [prepareModel, prepareModel, hproperty]

/-- And so are operations. -/
theorem prepareOperation_congr :
    prepareOperation table schemas = prepareOperation table schemas' := by
  have htype : responseType table schemas = responseType table schemas' := by
    funext r
    rw [responseType, responseType, resolveType_congr h]
  have hparameter : prepareParameter table schemas = prepareParameter table schemas' := by
    funext p
    rw [prepareParameter, prepareParameter, resolveType_congr h]
  have hresponse : prepareResponse table schemas = prepareResponse table schemas' := by
    funext r
    rw [prepareResponse, prepareResponse, htype]
  have hreturned : returnTypeOf? table schemas = returnTypeOf? table schemas' := by
    funext rs
    rw [returnTypeOf?, returnTypeOf?, htype]
  funext o
  rw [prepareOperation, prepareOperation, hparameter, hresponse, hreturned]

/-- Imports are written in the same way. -/
theorem resolveImports_congr (package : String) :
    resolveImports table schemas package = resolveImports table schemas' package := by
  have himport : importOf? table schemas package = importOf? table schemas' package := by
    funext name
    rw [importOf?, importOf?, h name]
  funext names
  rw [resolveImports, resolveImports, himport]

end

/-! ## Runs -/

namespace JaxrsCxf

/-- Files depend on the classes of the models only by asking whether a name is among them. -/
theorem importLines_congr (s : Setting) {classes classes' : List String}
    (h : SameNames classes classes') : importLines s classes = importLines s classes' := by
  funext imports
  rw [importLines, importLines, resolveImports_congr h]

/-- A description with its schemas in another order. -/
def withOrder (d : Api.Description) (σ : Equiv.Perm (Fin d.schemas.length)) : Api.Description :=
  { d with schemas := reordered σ d.schemas }

section
variable (d : Api.Description) (σ : Equiv.Perm (Fin d.schemas.length)) (c : Configuration)

/-- The names of the schemas are in the same order as the schemas. -/
theorem schemaNames_withOrder : schemaNames (withOrder d σ) = reordered σ (schemaNames d) :=
  (reordered_map σ _ _).symm

/-- They are the same names. -/
theorem sameNames_withOrder : SameNames (schemaNames (withOrder d σ)) (schemaNames d) := by
  rw [schemaNames_withOrder]
  exact sameNames_reordered σ (Nat.le_of_eq (List.length_map _).symm)

/-- The models are in the order of the schemas. -/
theorem modelsOf_withOrder : modelsOf (withOrder d σ) backend.selectFiles c =
    reordered σ (modelsOf d backend.selectFiles c) := by
  have hmodel : modelOf (schemaNames (withOrder d σ)) = modelOf (schemaNames d) := by
    funext f s
    rw [modelOf, modelOf, prepareModel_congr (sameNames_withOrder d σ)]
  rw [modelsOf_eq, modelsOf_eq, hmodel, reordered_map]
  rfl

/-- The groups stay as they are. -/
theorem groupsOf_withOrder : groupsOf (withOrder d σ) backend.selectFiles c =
    groupsOf d backend.selectFiles c := by
  have hprepared : preparedOperations (withOrder d σ) backend.selectFiles =
      preparedOperations d backend.selectFiles := by
    rw [preparedOperations, preparedOperations, prepareOperation_congr (sameNames_withOrder d σ)]
    rfl
  rw [groupsOf, groupsOf, hprepared]

/-- What cannot be written is the same. -/
theorem preparationFault?_withOrder : preparationFault? (withOrder d σ) backend.selectFiles c =
    preparationFault? d backend.selectFiles c := by
  have hlength : d.schemas.length ≤ (modelsOf d backend.selectFiles c).length :=
    Nat.le_of_eq (length_modelsOf d c).symm
  have hmodels : (modelsOf (withOrder d σ) backend.selectFiles c).findSome? (·.textFault?) =
      (modelsOf d backend.selectFiles c).findSome? (·.textFault?) := by
    rw [modelsOf_withOrder]
    have hcases (m : Model) : m.textFault? = none ∨ m.textFault? = some .longInteger :=
      findSome?_cases (fun p => findSome?_cases Annotation.textFault?_cases _) _
    exact findSome?_congr_mem hcases fun m => mem_reordered_iff σ hlength
  rw [preparationFault?, preparationFault?, hmodels, groupsOf_withOrder]
  rfl

/-- So only the files of the models are in another order. -/
theorem filesOf_withOrder (s : Setting) (folders : Folders) :
    filesOf (withOrder d σ) c s folders = reordered σ (filesOf d c s folders) := by
  have hclasses : SameNames ((schemaNames (withOrder d σ)).map Java.modelName)
      ((schemaNames d).map Java.modelName) := by
    rw [schemaNames_withOrder, ← reordered_map]
    exact sameNames_reordered σ (by simp [schemaNames])
  have hlines := importLines_congr s hclasses
  have hlength (f : Model → GeneratedFile) :
      ((modelsOf d backend.selectFiles c).map f).length = d.schemas.length :=
    (List.length_map _).trans (length_modelsOf d c)
  have hmodel : modelFile c s folders ((schemaNames (withOrder d σ)).map Java.modelName) =
      modelFile c s folders ((schemaNames d).map Java.modelName) := by
    funext m
    rw [modelFile, modelFile, hlines]
  have hinterface : interfaceFile s folders ((schemaNames (withOrder d σ)).map Java.modelName) =
      interfaceFile s folders ((schemaNames d).map Java.modelName) := by
    funext g
    rw [interfaceFile, interfaceFile, hlines]
  have htest : testFile c s folders ((schemaNames (withOrder d σ)).map Java.modelName) =
      testFile c s folders ((schemaNames d).map Java.modelName) := by
    funext g
    rw [testFile, testFile, hlines]
  rw [filesOf, filesOf, clientFiles, clientFiles, classnames_modelsOf, classnames_modelsOf, hmodel,
    hinterface, htest, groupsOf_withOrder, modelsOf_withOrder, List.append_assoc,
    List.append_assoc, reordered_append σ (hlength _), reordered_map]

end

/-- For every description, every order of its schemas and all raw values, a run over the description
with its schemas in this order gives what a run over the description itself gives, with the files of
the models in the same order, whatever schemas refer to each other: the same fault, or else the same
warnings, the same configuration and the same other files at the same places. The files of the
models come first, one for each schema, and others come after them. -/
theorem generate_reordered (d : Api.Description) (σ : Equiv.Perm (Fin d.schemas.length))
    (raw : RawOptions) :
    generate (withOrder d σ) backend raw =
      (generate d backend raw).map (fun r => { r with files := reordered σ r.files }) ∧
    ∀ r, generate d backend raw = .ok r → d.schemas.length < r.files.length := by
  constructor
  -- Options and folders do not depend on the schemas, so up to the files both runs are one.
  · rw [generate_eq, generate_eq]
    cases (resolve backend.options raw).mapError GenerationFault.options with
    | error f => rfl
    | ok c =>
      have hsetting : Setting.of (withOrder d σ) c backend = Setting.of d c backend := rfl
      dsimp only [bind, Except.bind]
      rw [hsetting, preparationFault?_withOrder]
      cases preparationFault? d backend.selectFiles c with
      | some f => rfl
      | none =>
        dsimp only [checkText, mapError_ok]
        cases foldersOf (Setting.of d c backend) with
        | error f => rfl
        | ok folders =>
          have hfiles := filesOf_withOrder d σ c (Setting.of d c backend) folders
          dsimp only
          cases projectFault? (Setting.of d c backend) with
          | some f => rfl
          | none =>
            dsimp only [mapError_ok]
            rw [clientOf, clientOf, hsetting, ← filesOf, hfiles, groupsOf_withOrder]
            rfl
  · intro r hr
    obtain ⟨c, folders, -, -, hfiles⟩ := exists_filesOf hr
    rw [hfiles, filesOf, clientFiles]
    simp only [List.length_append, List.length_map, length_modelsOf, List.length_singleton]
    omega

/-- Two schemas that refer to each other. -/
def petAndOwner : Api.Description where
  title := "Pets"
  schemas := [
    { name := "Pet", properties := [{ name := "owner", type := "Owner" }] },
    { name := "Owner", parent := some "Pet" }]

/-- The order with the second one first. -/
def exchanged : Equiv.Perm (Fin petAndOwner.schemas.length) :=
  Equiv.swap ⟨0, by decide⟩ ⟨1, by decide⟩

/-- With the schemas exchanged the files of the models are exchanged, and the build file stays. -/
theorem generate_reordered_exchanged : ∃ r r',
    generate petAndOwner backend [] = .ok r ∧
      generate (withOrder petAndOwner exchanged) backend [] = .ok r' ∧ 2 < r.files.length ∧
      r'.files[0]? = r.files[1]? ∧ r'.files[1]? = r.files[0]? ∧ r'.files[2]? = r.files[2]? := by
  obtain ⟨heq, hlength⟩ := generate_reordered petAndOwner exchanged []
  obtain ⟨r, hr⟩ := (exists_generate_iff petAndOwner [] (by simp [TextKeys])).2
    (by decide +kernel)
  rw [hr] at heq
  have hn : 2 < r.files.length := hlength r hr
  have hmodels := getElem?_reordered exchanged (Nat.le_of_lt hn)
  have hzero := hmodels ⟨0, by decide⟩
  have hone := hmodels ⟨1, by decide⟩
  rw [exchanged, Equiv.swap_apply_left] at hzero
  rw [exchanged, Equiv.swap_apply_right] at hone
  refine ⟨r, _, hr, heq, hn, hzero, hone, ?_⟩
  exact getElem?_reordered_of_le exchanged r.files (Nat.le_refl 2)

end JaxrsCxf

end ClientGen
