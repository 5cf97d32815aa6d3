import MeteringAlarms.Proofs.Data.OrderedMap
import MeteringAlarms.Template.Property

/-!
# Collected properties

What a schema collects is found name by name: the value that is given unless it is null, else the
default.  So properties that are set to values come through, and collecting commutes with setting
them.
-/

namespace MeteringAlarms

/-- The value is of the kind. -/
def PropertyKind.admits : PropertyKind → Json → Bool
  | .string, .string _ => true
  | .boolean, .bool _ => true
  | .integer, .number (.int _) => true
  | .number, .number _ => true
  | .list, .array _ => true
  | .map, .object _ => true
  | _, _ => false

theorem PropertyKind.isNull_of_admits {kind : PropertyKind} {value : Json}
    (h : kind.admits value = true) : value.isNull = false := by
  cases value with
  | null => cases kind <;> cases h
  | _ => rfl

/-- Only the values of maps are objects. -/
theorem PropertyKind.fields?_of_admits {kind : PropertyKind} {value : Json}
    (h : kind.admits value = true) (hkind : kind ≠ .map) : value.fields? = none := by
  cases value with
  | object entries => cases kind <;> first | exact absurd rfl hkind | cases h
  | _ => rfl

namespace Schema

variable {schema : Schema}

/-- What a schema collects under a name: the given value unless it is null, else the default. -/
theorem get?_collect (hnodup : schema.names.Nodup) (given : Fields) (key : String) :
    (schema.collect given).get? key =
      (schema.find? (·.name = key)).bind fun property ↦
        (given.get? property.name).filter (!·.isNull) <|> property.default? :=
  OrderedMap.get?_ofList_filterMap Property.name _ key hnodup

theorem name_of_find? {key : String} {property : Property}
    (h : schema.find? (·.name = key) = some property) : property.name = key := by
  simpa using List.find?_some h

theorem isSome_find?_iff (key : String) :
    (schema.find? (·.name = key)).isSome ↔ key ∈ schema.names := by
  rw [List.find?_isSome, names, List.mem_map]
  simp only [decide_eq_true_eq]

/-- Nothing is collected that is not declared. -/
theorem mem_names_of_isSome (hnodup : schema.names.Nodup) {given : Fields} {key : String}
    (h : ((schema.collect given).get? key).isSome) : key ∈ schema.names := by
  rw [get?_collect hnodup] at h
  rw [← isSome_find?_iff]
  cases hfound : schema.find? (·.name = key) with
  | none =>
    rw [hfound] at h
    cases h
  | some property => rfl

/-- Declared properties that are set to values are collected with these. -/
theorem collect_overlay (hnodup : schema.names.Nodup) (given : Fields) {changes : Fields}
    (hdeclared : ∀ entry ∈ changes.entries, entry.1 ∈ schema.names)
    (hnotNull : ∀ entry ∈ changes.entries, entry.2.isNull = false) :
    schema.collect (given.overlay changes) = (schema.collect given).overlay changes := by
  apply OrderedMap.ext_get?
  intro key
  rw [OrderedMap.get?_overlay, get?_collect hnodup, get?_collect hnodup]
  cases hvalue : changes.get? key with
  | none =>
    rw [Option.none_or]
    cases hfound : schema.find? (·.name = key) with
    | none => rfl
    | some property =>
      rw [Option.bind_some, Option.bind_some, name_of_find? hfound, OrderedMap.get?_overlay, hvalue,
        Option.none_or]
  | some value =>
    have hentry := OrderedMap.get?_eq_some_iff.1 hvalue
    obtain ⟨property, hfound⟩ :=
      Option.isSome_iff_exists.1 ((isSome_find?_iff key).2 (hdeclared _ hentry))
    rw [Option.some_or, hfound, Option.bind_some, name_of_find? hfound, OrderedMap.get?_overlay,
      hvalue]
    simp [Option.filter, hnotNull _ hentry]

/-- The properties are declared, and each has a value of its kind. -/
def Admits (schema : Schema) (properties : Fields) : Prop :=
  ∀ entry ∈ properties.entries, ∃ property ∈ schema,
    property.name = entry.1 ∧ property.kind.admits entry.2 = true

instance (schema : Schema) (properties : Fields) : Decidable (schema.Admits properties) :=
  inferInstanceAs (Decidable (∀ entry ∈ properties.entries, ∃ property ∈ schema,
    property.name = entry.1 ∧ property.kind.admits entry.2 = true))

theorem Admits.mem_names {properties : Fields} (h : schema.Admits properties) :
    ∀ entry ∈ properties.entries, entry.1 ∈ schema.names := by
  intro entry hentry
  obtain ⟨property, hproperty, hname, -⟩ := h entry hentry
  exact hname ▸ List.mem_map_of_mem hproperty

theorem Admits.isNull_eq_false {properties : Fields} (h : schema.Admits properties) :
    ∀ entry ∈ properties.entries, entry.2.isNull = false := by
  intro entry hentry
  obtain ⟨_, _, -, hvalue⟩ := h entry hentry
  exact PropertyKind.isNull_of_admits hvalue

end Schema

end MeteringAlarms
