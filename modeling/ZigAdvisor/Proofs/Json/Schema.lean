import ZigAdvisor.Proofs.Json.Members
import ZigAdvisor.Proofs.Text.Word

/-!
# Schemas

Conformance of a value to a schema that is itself a value, by the keywords for types, fixed values,
items and properties. Other keywords describe and demand nothing.
-/

namespace ZigAdvisor.Json

def typeName : Json → String
  | null => "null"
  | bool _ => "boolean"
  | int _ | float _ => "number"
  | str _ => "string"
  | arr _ => "array"
  | obj _ => "object"

inductive Conforms : (schema value : Json) → Prop
  | intro {schema value : Json}
      (type : ∀ name, schema.member? "type" = some (.str name) → name = value.typeName)
      (enum : ∀ values, schema.member? "enum" = some (.arr values) → value ∈ values)
      (items : ∀ item values, schema.member? "items" = some item → value = .arr values →
        ∀ v ∈ values, Conforms item v)
      (properties : ∀ fields key field v, schema.member? "properties" = some (.obj fields) →
        find? fields key = some field → value.member? key = some v → Conforms field v)
      (required : ∀ keys key members, schema.member? "required" = some (.arr keys) →
        .str key ∈ keys → value = .obj members → (find? members key).isSome) :
      Conforms schema value

namespace Conforms

variable {schema value item v : Json} {members : List (Text × Json)} {values : List Json}

theorem typeName_eq {name : String} (h : Conforms schema value)
    (hschema : schema.member? "type" = some (.constant name)) : value.typeName = name := by
  obtain ⟨htype, -⟩ := h
  exact (Text.ofString_injective (htype _ hschema)).symm

theorem exists_text (h : Conforms schema value)
    (hschema : schema.member? "type" = some (.constant "string")) : ∃ t, value = .str t := by
  have hname := h.typeName_eq hschema
  cases value with
  | str t => exact ⟨t, rfl⟩
  | _ => simp [typeName] at hname

theorem exists_items (h : Conforms schema value)
    (hschema : schema.member? "type" = some (.constant "array"))
    (hitems : schema.member? "items" = some item) :
    ∃ values, value = .arr values ∧ ∀ v ∈ values, Conforms item v := by
  have hname := h.typeName_eq hschema
  obtain ⟨-, -, hconforms, -⟩ := h
  cases value with
  | arr values => exact ⟨values, rfl, hconforms item values hitems rfl⟩
  | _ => simp [typeName] at hname

theorem exists_members (h : Conforms schema value)
    (hschema : schema.member? "type" = some (.constant "object")) :
    ∃ members, value = .obj members := by
  have hname := h.typeName_eq hschema
  cases value with
  | obj members => exact ⟨members, rfl⟩
  | _ => simp [typeName] at hname

theorem mem_enum (h : Conforms schema value) (henum : schema.member? "enum" = some (.arr values)) :
    value ∈ values := by
  obtain ⟨-, hmem, -⟩ := h
  exact hmem values henum

theorem of_property {fields : List (Text × Json)} {key : Text} (h : Conforms schema value)
    (hschema : schema.member? "properties" = some (.obj fields))
    (hfield : find? fields key = some item) (hv : value.member? key = some v) :
    Conforms item v := by
  obtain ⟨-, -, -, hproperties, -⟩ := h
  exact hproperties fields key item v hschema hfield hv

theorem exists_required {keys : List Json} {key : Text} (h : Conforms schema (.obj members))
    (hschema : schema.member? "required" = some (.arr keys)) (hkey : .str key ∈ keys) :
    ∃ v, find? members key = some v := by
  obtain ⟨-, -, -, -, hrequired⟩ := h
  exact Option.isSome_iff_exists.mp (hrequired keys key members hschema hkey rfl)

end Conforms

end ZigAdvisor.Json
