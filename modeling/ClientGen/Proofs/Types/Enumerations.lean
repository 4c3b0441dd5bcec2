import ClientGen.Backend.Java
import ClientGen.Client.Preparation

/-!
# Enumerations in containers

The enumeration of a property takes the place of its type. In a container this is done in the text
of the datatype, where the element is looked for with what stands around it ([opening]). That begins
with a character which is nowhere before the element, unless the wrapper has it ([mark]). So
whatever text the type is, the first occurrence is the element and ends with the datatype
([enumDatatype_wrapped]), and the property is otherwise the one without allowed values
([enum_replaces_element]).
-/

namespace ClientGen.Client

open Api

/-! ## The text of a container -/

/-- What stands right before the element of a container. -/
def opening : Container → String
  | .array => "<"
  | .map => ", "

/-- The first character of that. -/
def mark : Container → Char
  | .array => '<'
  | .map => ','

/-- What stands between the wrapper of a container and its opening: the type of the keys. -/
def keyPart : Container → String
  | .array => ""
  | .map => "<String"

theorem toList_opening (c : Container) : ∃ rest, (opening c).toList = mark c :: rest := by
  cases c with
  | array => exact ⟨[], rfl⟩
  | map => exact ⟨[' '], rfl⟩

theorem mark_not_mem_keyPart (c : Container) : mark c ∉ (keyPart c).toList := by
  cases c <;> decide

/-- The element of a container is all that follows its opening, up to the last character. -/
theorem wrapped_eq (wrapper : String) (c : Container) (element : String) :
    wrapped wrapper c element = wrapper ++ keyPart c ++ (opening c ++ element ++ ">") := by
  have hsplit :
      wrapped wrapper c element = wrapper ++ (keyPart c ++ opening c) ++ element ++ ">" := by
    cases c <;> rfl
  rw [hsplit]
  simp only [String.append_assoc]

/-- A datatype with a container is none of those without arguments. -/
theorem wrapped_ne {s : String} (h : '<' ∉ s.toList) (wrapper : String) (c : Container)
    (element : String) : wrapped wrapper c element ≠ s := by
  rintro rfl
  refine h ?_
  cases c <;> simp [wrapped]

theorem enumDatatype_some (c : Container) (resolved : ResolvedType) (enumName : String) :
    enumDatatype (some c) resolved enumName =
      Text.replaceAll (opening c ++ resolved.baseType ++ ">") (opening c ++ enumName ++ ">")
        resolved.datatype := by
  cases c <;> rfl

/-- In a wrapper without the mark the element is replaced, and nothing else. -/
theorem enumDatatype_wrapped {wrapper : String} {c : Container} (h : mark c ∉ wrapper.toList)
    {resolved : ResolvedType} (hdatatype : resolved.datatype = wrapped wrapper c resolved.baseType)
    (enumName : String) :
    enumDatatype (some c) resolved enumName = wrapped wrapper c enumName := by
  obtain ⟨rest, hrest⟩ := toList_opening c
  have hold : (opening c ++ resolved.baseType ++ ">").toList =
      mark c :: (rest ++ resolved.baseType.toList ++ ['>']) := by
    simp only [String.toList_append, hrest, List.cons_append]
    rfl
  have hbefore : mark c ∉ (wrapper ++ keyPart c).toList := by
    rw [String.toList_append, List.mem_append, not_or]
    exact ⟨h, mark_not_mem_keyPart c⟩
  rw [enumDatatype_some, hdatatype, wrapped_eq, wrapped_eq]
  exact Text.replaceAll_append_self hold hbefore _

/-! ## Properties -/

section
variable (table : TypeTable) (schemas : List String) {p : Api.Property} {c : Container}

/-- The property without the values that it allows. -/
def unrestricted (p : Api.Property) : Api.Property := { p with allowed := none }

/-- Whether the enumeration of a property in a container is in the place of the element. -/
structure EnumInPlace (table : TypeTable) (schemas : List String) (p : Api.Property)
    (c : Container) (enumName : String) : Prop where
  array : c = .array → (prepareProperty table schemas p).1.datatype =
    (table.resolve "array").1 ++ "<" ++ enumName ++ ">"
  map : c = .map → (prepareProperty table schemas p).1.datatype =
    (table.resolve "map").1 ++ "<String, " ++ enumName ++ ">"
  /-- Without allowed values the target of the type is in that place. -/
  element : (prepareProperty table schemas (unrestricted p)).1.datatype =
    wrapped (table.resolve c.name).1 c (prepareProperty table schemas p).1.baseType
  /-- Nothing else of the property changes with the values that it allows, nor what is imported. -/
  others : prepareProperty table schemas p =
    ({ (prepareProperty table schemas (unrestricted p)).1 with
        datatype := (prepareProperty table schemas p).1.datatype
        enumName := some enumName
        allowed := allowedValues p },
      (prepareProperty table schemas (unrestricted p)).2)

theorem datatype_resolveType_some (type : String) (c : Container) :
    (resolveType table schemas type (some c)).datatype =
      wrapped (table.resolve c.name).1 c (resolveType table schemas type (some c)).baseType :=
  rfl

theorem enumNameOf_eq_some (h : allowedValues p ≠ []) :
    enumNameOf p = some (Text.camelize p.name ++ "Enum") := by
  rw [enumNameOf, List.isEmpty_eq_false_iff.2 h, if_neg Bool.false_ne_true]

/-- A property in a container is read by `get`, since its datatype is no truth value. -/
theorem getterName_wrapped (field wrapper element : String) :
    Java.getterName field (wrapped wrapper c element) = "get" ++ Text.camelize field := by
  rw [Java.getterName, if_neg (wrapped_ne (by decide) wrapper c element)]

/-- With allowed values a property is as it is without them, but for its datatype, the getter for
that, and the enumeration. -/
theorem prepareProperty_eq (h : allowedValues p ≠ []) :
    prepareProperty table schemas p =
      ({ (prepareProperty table schemas (unrestricted p)).1 with
          datatype := (prepareProperty table schemas p).1.datatype
          getter := (prepareProperty table schemas p).1.getter
          enumName := some (Text.camelize p.name ++ "Enum")
          allowed := allowedValues p },
        (prepareProperty table schemas (unrestricted p)).2) := by
  simp only [prepareProperty, enumNameOf_eq_some h]
  rfl

theorem getter_prepareProperty :
    (prepareProperty table schemas p).1.getter =
      Java.getterName (Java.variableName p.name) (prepareProperty table schemas p).1.datatype :=
  rfl

theorem baseType_prepareProperty (hc : p.container = some c) :
    (prepareProperty table schemas p).1.baseType =
      (resolveType table schemas p.type (some c)).baseType := by
  rw [← hc]
  rfl

/-- A property without allowed values has its resolved datatype. -/
theorem datatype_unrestricted (hc : p.container = some c) :
    (prepareProperty table schemas (unrestricted p)).1.datatype =
      (resolveType table schemas p.type (some c)).datatype := by
  rw [← hc]
  rfl

/-- With allowed values it has its enumeration in the place of the element. -/
theorem datatype_prepareProperty (hc : p.container = some c) (hallowed : allowedValues p ≠ [])
    (hwrapper : mark c ∉ (table.resolve c.name).1.toList) :
    (prepareProperty table schemas p).1.datatype =
      wrapped (table.resolve c.name).1 c (Text.camelize p.name ++ "Enum") := by
  have hdatatype := datatype_resolveType_some table schemas p.type c
  rw [prepareProperty, enumNameOf_eq_some hallowed, hc]
  exact enumDatatype_wrapped hwrapper hdatatype _

end

/-- For every table of types, all schemas, and every property that is in a container and allows
certain values only, whatever text its type is: if the wrapper of an array has no `<`, or that of a
map no comma, then the enumeration is written in the place of the element, and nothing else
changes. -/
theorem enum_replaces_element (table : TypeTable) (schemas : List String) (p : Api.Property)
    (c : Container) (hc : p.container = some c) (hallowed : allowedValues p ≠ [])
    (hwrapper : mark c ∉ (table.resolve c.name).1.toList) :
    EnumInPlace table schemas p c (Text.camelize p.name ++ "Enum") := by
  have hdatatype := datatype_prepareProperty table schemas hc hallowed hwrapper
  have hplain := datatype_unrestricted table schemas hc
  constructor
  case array =>
    rintro rfl
    exact hdatatype
  case map =>
    rintro rfl
    exact hdatatype
  case element =>
    rw [hplain, baseType_prepareProperty table schemas hc]
    exact datatype_resolveType_some table schemas p.type c
  case others =>
    have hgetter : (prepareProperty table schemas p).1.getter =
        (prepareProperty table schemas (unrestricted p)).1.getter := by
      rw [getter_prepareProperty, getter_prepareProperty, hdatatype, hplain,
        datatype_resolveType_some, getterName_wrapped, getterName_wrapped]
      rfl
    rw [prepareProperty_eq table schemas hallowed, hgetter]

/-- A property of days on which something may be sold, in a container, of a type that is not
registered. -/
def soldOn (container : Container) (type : String) : Api.Property where
  name := "sold-on"
  type := type
  container := some container
  allowed := some ["weekday", "holiday"]

/-- Types with brackets and commas of their own, and a text that occurs in itself again. -/
theorem enum_replaces_element_brackets :
    let table := Java.baseBackend.typeTable
    (prepareProperty table [] (soldOn .array "Day><Day")).1.datatype = "List<SoldOnEnum>" ∧
      (prepareProperty table [] (soldOn .map ", Day>, Day")).1.datatype =
        "Map<String, SoldOnEnum>" ∧
      (prepareProperty table [] (unrestricted (soldOn .map ", Day>, Day"))).1.datatype =
        "Map<String, , Day>, Day>" := by
  have harray := enum_replaces_element Java.baseBackend.typeTable [] (soldOn .array "Day><Day")
    .array rfl (by decide) (by decide +kernel)
  have hmap := enum_replaces_element Java.baseBackend.typeTable [] (soldOn .map ", Day>, Day")
    .map rfl (by decide) (by decide +kernel)
  refine ⟨(harray.array rfl).trans ?_, (hmap.map rfl).trans ?_, hmap.element.trans ?_⟩ <;>
    decide +kernel

/-- With the mark in its wrapper an array may be changed before the element, too. -/
example : (prepareProperty (.ofRegistrations [.type "array" "Sales<Day>" none]) []
    (soldOn .array "Day")).1.datatype = "Sales<SoldOnEnum><SoldOnEnum>" := by
  decide +kernel

end ClientGen.Client
