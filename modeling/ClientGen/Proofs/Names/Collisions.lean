import ClientGen.Proofs.Imports.Models
import ClientGen.Proofs.Names.Constants
import Mathlib.Data.List.Nodup

/-!
# Names that are the same

A name keeps neither the separators of the text that it is made from nor the case in which its words
begin, so distinct texts can lead to one name. What a name is made of tells when they do: the fields
of two properties and two parameters are the same just if their stems are
([Java.variableName_eq_iff]), the methods that read them if the stems are in camel case
([Java.getterName_eq_iff]), and two constants if the words are ([Java.constantName_eq_iff]). Nothing
makes names distinct afterwards, so the members of a model are distinct just if what they are made
of is ([distinct_members_iff]).
-/

namespace ClientGen

open Text Client

namespace Java

/-! ## Fields -/

/-- Two names have one field just if they have one stem. -/
theorem variableName_eq_iff {a b : String} : variableName a = variableName b ↔ stem a = stem b := by
  constructor
  · intro h
    rw [← trimCharStart_variableName, h, trimCharStart_variableName]
  · intro h
    rw [variableName_eq, variableName_eq, h]

/-- Two fields have one reading method just if both are truth values or neither is, and their stems
are the same in camel case. -/
theorem getterName_eq_iff {a b datatype datatype' : String} :
    getterName (variableName a) datatype = getterName (variableName b) datatype' ↔
      (datatype == "boolean", camelize (stem a)) = (datatype' == "boolean", camelize (stem b)) := by
  have hpart (x y : String) : "is" ++ x ≠ "get" ++ y := by
    intro h
    have hchars := congrArg (fun s => s.toList.head?) h
    rw [String.toList_append, String.toList_append] at hchars
    have hfirst : some 'i' = some 'g' := hchars
    exact absurd hfirst (by decide)
  rw [getterName, getterName, camelize_variableName, camelize_variableName, Prod.mk.injEq]
  by_cases h : datatype = "boolean" <;> by_cases h' : datatype' = "boolean"
  · simp [h, h']
  · simp [h, h', hpart]
  · simp [h, h', (hpart _ _).symm]
  · simp [h, h']

/-! ## Names in camel case -/

/-- Whether a name is in camel case: plain letters and digits, with a small letter first. -/
structure IsCamelCase (name : String) : Prop where
  first : begins Char.isLower name = true
  chars : ∀ c ∈ name.toList, c.isAlphanum = true

instance (name : String) : Decidable (IsCamelCase name) :=
  decidable_of_iff (begins Char.isLower name = true ∧ name.toList.all Char.isAlphanum = true)
    ⟨fun h => ⟨h.1, List.all_eq_true.1 h.2⟩, fun h => ⟨h.first, List.all_eq_true.2 h.chars⟩⟩

/-- Such a name is its own in lower camel case. -/
theorem IsCamelCase.lowerCamelize_eq {name : String} (h : IsCamelCase name) :
    lowerCamelize name = name := by
  obtain ⟨c, hfirst, hlower⟩ := begins_eq_true_iff.1 h.first
  obtain ⟨cs, hname⟩ := List.head?_eq_some_iff.1 hfirst
  have hchars := h.chars
  rw [hname] at hchars
  have hback : c.toUpper.toLower = c :=
    toLower_toUpper_of_isSmall (Bool.or_eq_true_iff.2 (.inl hlower))
  rw [lowerCamelize, hname, camelChars, if_pos (hchars c List.mem_cons_self), if_pos rfl,
    camelChars_false_eq_self fun d hd => hchars d (List.mem_cons_of_mem c hd), lowerFirst, hback,
    ← hname, String.ofList_toList]

/-- So it is its own stem. -/
theorem IsCamelCase.stem_eq {name : String} (h : IsCamelCase name) : stem name = name := by
  obtain ⟨c, hfirst, hlower⟩ := begins_eq_true_iff.1 h.first
  have hin : c ∈ name.toList := List.mem_of_mem_head? hfirst
  have hsmall : Text.isLower c = true :=
    forall_alphanum (P := fun c => c.isLower = true → Text.isLower c = true) (by decide +kernel)
      (h.chars c hin) hlower
  have hcapitals : inCapitals name = false := by
    have hall : (name.toList.all fun c => !(Text.isLower c || isTitle c)) = false :=
      List.all_eq_false.2 ⟨c, hin, by simp [hsmall]⟩
    rw [inCapitals, isUpperText, hall, Bool.and_false, Bool.false_and]
  have hne : name ≠ "" := by
    rintro rfl
    cases hin
  rw [stem, if_neg (hcapitals ▸ Bool.false_ne_true), h.lowerCamelize_eq, orElse, if_neg hne]

/-- Two such names that are the same with a capital are the same. -/
theorem IsCamelCase.camelize_inj {a b : String} (ha : IsCamelCase a) (hb : IsCamelCase b)
    (h : camelize a = camelize b) : a = b := by
  have hlower (s : String) : lowerCamelize s = String.ofList (lowerFirst (camelize s).toList) := by
    rw [lowerCamelize, camelize, String.toList_ofList]
  rw [← ha.lowerCamelize_eq, hlower, h, ← hlower, hb.lowerCamelize_eq]

end Java

/-! ## The members of models and operations -/

/-- Whether no two members of a model have one name: neither two fields nor two methods that read
them nor two enumerations, nor two constants for distinct values of an enumeration. -/
structure DistinctMembers (m : Model) : Prop where
  fields : (m.properties.map (·.name)).Nodup
  getters : (m.properties.map (·.getter)).Nodup
  enums : (m.properties.filterMap (·.enumName)).Nodup
  constants : ∀ p ∈ m.properties, p.allowed.Nodup → (p.allowed.map Java.constantName).Nodup

/-- When the members of a model have distinct names, in terms of what the names are made of. -/
structure MembersApart (m : Model) : Prop where
  fields : (m.properties.map (·.name)).Nodup ↔
    (m.properties.map fun p => Java.stem p.baseName).Nodup
  /-- Truth values are read by methods of their own. -/
  getters : (m.properties.map (·.getter)).Nodup ↔
    (m.properties.map fun p => (p.datatype == "boolean", camelize (Java.stem p.baseName))).Nodup
  enums : (m.properties.filterMap (·.enumName)).Nodup ↔
    ((m.properties.filter (·.isEnum)).map fun p => camelize p.baseName).Nodup
  constants : ∀ p ∈ m.properties, (p.allowed.map Java.constantName).Nodup ↔
    (p.allowed.map Java.constantWords).Nodup

/-- What the names of a property are made of. -/
structure IsNamed (p : Property) : Prop where
  field : p.name = Java.variableName p.baseName
  getter : p.getter = Java.getterName p.name p.datatype
  enum : p.enumName = if p.isEnum then some (camelize p.baseName ++ "Enum") else none

theorem isNamed_of_mem_prepareModel {table : TypeTable} {schemas : List String}
    {s : Api.Schema} : ∀ p ∈ (prepareModel table schemas s).properties, IsNamed p := by
  intro p hp
  rw [properties_prepareModel] at hp
  obtain ⟨q, _, rfl⟩ := List.mem_map.1 hp
  refine ⟨rfl, rfl, ?_⟩
  change enumNameOf q = if (enumNameOf q).isSome then _ else _
  unfold enumNameOf
  split <;> rfl

/-- The names of enumerations. -/
theorem filterMap_enumName {properties : List Property} (h : ∀ p ∈ properties, IsNamed p) :
    properties.filterMap (·.enumName) =
      (properties.filter (·.isEnum)).map fun p => camelize p.baseName ++ "Enum" := by
  induction properties with
  | nil => rfl
  | cons p properties ih =>
    have ih := ih fun q hq => h q (List.mem_cons_of_mem p hq)
    rw [List.filterMap_cons, (h p List.mem_cons_self).enum, List.filter_cons]
    cases p.isEnum with
    | true => simp [ih]
    | false => simp [ih]

/-- Properties that are named so have distinct names just if these are made of distinct things. -/
theorem membersApart {m : Model} (h : ∀ p ∈ m.properties, IsNamed p) : MembersApart m where
  fields := nodup_map_iff_of_eq_iff fun p hp q hq => by
    rw [(h p hp).field, (h q hq).field, Java.variableName_eq_iff]
  getters := nodup_map_iff_of_eq_iff fun p hp q hq => by
    rw [(h p hp).getter, (h q hq).getter, (h p hp).field, (h q hq).field, Java.getterName_eq_iff]
  enums := by
    rw [filterMap_enumName h]
    exact nodup_map_iff_of_eq_iff fun p _ q _ => String.append_left_inj "Enum"
  constants _ _ := nodup_map_iff_of_eq_iff fun _ _ _ _ => Java.constantName_eq_iff

/-- Distinct names in camel case and distinct values in small letters lead to distinct names. -/
theorem distinctMembers {m : Model} (h : ∀ p ∈ m.properties, IsNamed p)
    (hnames : ∀ p ∈ m.properties, Java.IsCamelCase p.baseName)
    (hvalues : ∀ p ∈ m.properties, ∀ v ∈ p.allowed, Java.IsSmallWord v)
    (hdistinct : (m.properties.map (·.baseName)).Nodup) : DistinctMembers m := by
  have hapart := membersApart h
  have hkeys {β : Type} {key : Property → β} (hkey : ∀ p ∈ m.properties, ∀ q ∈ m.properties,
      key p = key q → p.baseName = q.baseName) {properties : List Property}
      (hsub : properties.Sublist m.properties) : (properties.map key).Nodup :=
    List.pairwise_map.2 <| ((List.pairwise_map.1 hdistinct).sublist hsub).imp_of_mem
      fun hp hq hne heq => hne (hkey _ (hsub.mem hp) _ (hsub.mem hq) heq)
  have hcamel : ∀ p ∈ m.properties, ∀ q ∈ m.properties,
      camelize p.baseName = camelize q.baseName → p.baseName = q.baseName :=
    fun p hp q hq => (hnames p hp).camelize_inj (hnames q hq)
  constructor
  case fields =>
    refine hapart.fields.2 (hkeys (fun p hp q hq heq => ?_) (List.Sublist.refl _))
    rwa [(hnames p hp).stem_eq, (hnames q hq).stem_eq] at heq
  case getters =>
    refine hapart.getters.2 (hkeys (fun p hp q hq heq => ?_) (List.Sublist.refl _))
    have hwords := congrArg Prod.snd heq
    rw [(hnames p hp).stem_eq, (hnames q hq).stem_eq] at hwords
    exact hcamel p hp q hq hwords
  case enums => exact hapart.enums.2 (hkeys hcamel List.filter_sublist)
  case constants =>
    intro p hp hallowed
    refine (hapart.constants p hp).2 (List.Nodup.map_on (fun v hv w hw heq => ?_) hallowed)
    rw [(hvalues p hp v hv).constantWords_eq, (hvalues p hp w hw).constantWords_eq] at heq
    exact String.toList_inj.1 (List.singleton_inj.1 heq)

/-- The members of a model have distinct names just if these are made of distinct things, and so
have the parameters of an operation. They are if the names of the properties are distinct and in
camel case, and the values of an enumeration are distinct words in small letters. -/
theorem distinct_members_iff (table : TypeTable) (schemas : List String) :
    (∀ s : Api.Schema, MembersApart (prepareModel table schemas s)) ∧
      (∀ o : Api.Operation,
        ((prepareOperation table schemas o).parameters.map (·.name)).Nodup ↔
          (o.parameters.map fun p => Java.stem p.name).Nodup) ∧
      ∀ s : Api.Schema, (∀ p ∈ s.properties, Java.IsCamelCase p.name) →
        (∀ p ∈ s.properties, ∀ v ∈ allowedValues p, Java.IsSmallWord v) →
        (s.properties.map (·.name)).Nodup → DistinctMembers (prepareModel table schemas s) := by
  refine ⟨fun s => membersApart isNamed_of_mem_prepareModel, fun o => ?_,
    fun s hnames hvalues hdistinct => ?_⟩
  · change (((o.parameters.map (prepareParameter table schemas)).map _).map _).Nodup ↔ _
    rw [List.map_map, List.map_map]
    exact nodup_map_iff_of_eq_iff fun p _ q _ => Java.variableName_eq_iff
  · have hprepared : (prepareModel table schemas s).properties =
        s.properties.map fun p => (prepareProperty table schemas p).1 := properties_prepareModel s
    refine distinctMembers isNamed_of_mem_prepareModel ?_ ?_ ?_
    · rw [hprepared]
      exact List.forall_mem_map.2 hnames
    · rw [hprepared]
      exact List.forall_mem_map.2 hvalues
    · rw [hprepared, List.map_map]
      exact hdistinct

/-- A schema with two properties in camel case, one of which allows two words. -/
def petSchema : Api.Schema :=
  { name := "pet"
    properties := [{ name := "petId", type := "long" },
      { name := "status", type := "string", allowed := some ["available", "sold"] }] }

/-- Its members have distinct names. -/
theorem distinct_members_iff_pet :
    let m := prepareModel Java.baseBackend.typeTable [] petSchema
    (∀ p ∈ petSchema.properties, Java.IsCamelCase p.name) ∧
      (∀ p ∈ petSchema.properties, ∀ v ∈ allowedValues p, Java.IsSmallWord v) ∧
      (petSchema.properties.map (·.name)).Nodup ∧
      m.properties.map (·.getter) = ["getPetId", "getStatus"] ∧ DistinctMembers m := by
  have hnames : ∀ p ∈ petSchema.properties, Java.IsCamelCase p.name := by decide
  have hvalues : ∀ p ∈ petSchema.properties, ∀ v ∈ allowedValues p, Java.IsSmallWord v := by decide
  have hdistinct : (petSchema.properties.map (·.name)).Nodup := by decide
  exact ⟨hnames, hvalues, hdistinct, by decide +kernel,
    (distinct_members_iff Java.baseBackend.typeTable []).2.2 petSchema hnames hvalues hdistinct⟩

/-- A schema with two properties of the same words, one of which allows two values of the same
words. -/
def clashingSchema : Api.Schema :=
  { name := "pet"
    properties := [{ name := "pet-id", type := "string", allowed := some ["sold-out", "soldOut"] },
      { name := "petId", type := "string", allowed := some ["lost"] }] }

/-- An operation with two parameters of the same words. -/
def clashingOperation : Api.Operation :=
  { method := .get
    path := "/pets"
    parameters := [{ name := "pet-id", location := .query, type := "string" },
      { name := "petId", location := .query, type := "string" }] }

/-- Words that are only written differently do not lead to distinct names. -/
theorem distinct_members_fail :
    let m := prepareModel Java.baseBackend.typeTable [] clashingSchema
    let o := prepareOperation Java.baseBackend.typeTable [] clashingOperation
    (clashingSchema.properties.map (·.name)).Nodup ∧
      (∀ p ∈ clashingSchema.properties, (allowedValues p).Nodup) ∧
      (clashingOperation.parameters.map (·.name)).Nodup ∧
      m.properties.map (·.name) = ["petId", "petId"] ∧
      m.properties.map (·.getter) = ["getPetId", "getPetId"] ∧
      m.properties.filterMap (·.enumName) = ["PetIdEnum", "PetIdEnum"] ∧
      (m.properties.map fun p => p.allowed.map Java.constantName) =
        [["SOLD_OUT", "SOLD_OUT"], ["LOST"]] ∧
      o.parameters.map (·.name) = ["petId", "petId"] ∧
      ¬DistinctMembers m := by
  have hnames : (prepareModel Java.baseBackend.typeTable [] clashingSchema).properties.map
      (·.name) = ["petId", "petId"] := by decide +kernel
  refine ⟨by decide, by decide, by decide, hnames, by decide +kernel, by decide +kernel,
    by decide +kernel, by decide +kernel, fun h => ?_⟩
  have hfields := h.fields
  rw [hnames] at hfields
  exact absurd hfields (by decide)

end ClientGen
