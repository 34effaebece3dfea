import TableFeed.Proofs.Schema.Conformance
import TableFeed.Registry

/-!
# Row values of the built-in types

`ValueType.ShownAs` says what a row shows for a converted value, and `shownAs_rowValue` that
it shows no other.  So a row holds a text or null for a field of a type that is not numeric.
That it holds a number or null for a field of a numeric type is a property of those that are
built in, whose conversions give nothing else (`isNumeric_of_convert`).
-/

namespace TableFeed

/-- Numbers and null. -/
inductive Json.IsNumeric : Json → Prop where
  | null : IsNumeric .null
  | number (n : Number) : IsNumeric (.number n)

/-- Texts and null. -/
inductive Json.IsTextual : Json → Prop where
  | null : IsTextual .null
  | string (text : String) : IsTextual (.string text)

/-! ## The types that a registry finds -/

namespace Registry

theorem mem_entries_foldl_register {types : List ValueType} {registry : Registry}
    {entry : String × ValueType} (h : entry ∈ (types.foldl register registry).entries) :
    entry ∈ registry.entries ∨ entry.2 ∈ types := by
  induction types generalizing registry with
  | nil => exact .inl h
  | cons type rest ih =>
    rcases ih h with hregistered | hrest
    · rcases List.mem_append.1 hregistered with hnew | hold
      · obtain ⟨key, -, rfl⟩ := List.mem_map.1 hnew
        exact .inr List.mem_cons_self
      · exact .inl hold
    · exact .inr (List.mem_cons_of_mem _ hrest)

theorem mem_builtinTypes_of_get? {key : String} {type : ValueType}
    (h : builtin.get? key = some type) : type ∈ builtinTypes := by
  rcases mem_entries_foldl_register (Entries.mem_of_lookup h) with hnone | hmem
  · cases hnone
  · exact hmem

/-- The built-in registry finds built-in types only. -/
theorem mem_builtinTypes_of_resolve? {s : Schema} {type : ValueType}
    (h : builtin.resolve? s = some type) : type ∈ builtinTypes := by
  rcases Option.or_eq_some_iff.1 h with hname | ⟨-, hkind⟩
  · obtain ⟨name, -, hget⟩ := Option.bind_eq_some_iff.1 hname
    exact mem_builtinTypes_of_get? hget
  · exact mem_builtinTypes_of_get? hkind

end Registry

/-! ## Conversions -/

namespace ValueType

variable {s : Schema} {raw converted : Json}

theorem isNumeric_of_nullOr {convert : Json → Except TypeError Json}
    (hconvert : ∀ value, convert value = .ok converted → converted.IsNumeric)
    (h : nullOr convert raw = .ok converted) : converted.IsNumeric := by
  cases raw with
  | null =>
    cases h
    exact .null
  | bool b => exact hconvert _ h
  | number n => exact hconvert _ h
  | string text => exact hconvert _ h
  | array items => exact hconvert _ h
  | object members => exact hconvert _ h

theorem isNumeric_of_convert_integer {name key columnType : String} {bits : Nat}
    (h : (integer name key columnType bits).convert s raw = .ok converted) :
    converted.IsNumeric := by
  refine isNumeric_of_nullOr (fun value hvalue => ?_) h
  split at hvalue
  · split at hvalue
    · split at hvalue
      · cases hvalue
        exact .number _
      · cases hvalue
    · cases hvalue
  · cases hvalue

theorem isNumeric_of_convert_floating {name key columnType : String}
    (h : (floating name key columnType).convert s raw = .ok converted) :
    converted.IsNumeric := by
  refine isNumeric_of_nullOr (fun value hvalue => ?_) h
  split at hvalue
  · cases hvalue
    exact .number _
  · cases hvalue

theorem filter_isNumber_builtinTypes : Registry.builtinTypes.filter isNumber =
    [int8, int16, int32, int64, float32, float64] := rfl

/-- The numeric types that are built in convert to numbers and null. -/
theorem isNumeric_of_convert {type : ValueType} (htype : type ∈ Registry.builtinTypes)
    (hnumber : type.isNumber = true) (h : type.convert s raw = .ok converted) :
    converted.IsNumeric := by
  have hmem : type ∈ Registry.builtinTypes.filter isNumber := List.mem_filter.2 ⟨htype, hnumber⟩
  rw [filter_isNumber_builtinTypes] at hmem
  simp only [List.mem_cons, List.not_mem_nil, or_false] at hmem
  rcases hmem with rfl | rfl | rfl | rfl | rfl | rfl
  · exact isNumeric_of_convert_integer h
  · exact isNumeric_of_convert_integer h
  · exact isNumeric_of_convert_integer h
  · exact isNumeric_of_convert_integer h
  · exact isNumeric_of_convert_floating h
  · exact isNumeric_of_convert_floating h

/-! ## Row values -/

/-- What a row shows for a converted value.  A numeric type shows it as it is.  Any other type shows
null and texts as they are, and everything else by its compact text. -/
inductive ShownAs (type : ValueType) : Json → Json → Prop where
  | number (h : type.isNumber = true) (converted : Json) : ShownAs type converted converted
  | null (h : type.isNumber = false) : ShownAs type .null .null
  | text (h : type.isNumber = false) (text : String) : ShownAs type (.string text) (.string text)
  | other (h : type.isNumber = false) {converted : Json} (hnull : converted ≠ .null)
      (htext : ∀ text, converted ≠ .string text) : ShownAs type converted (.string converted.text)

theorem shownAs_rowValue (type : ValueType) (converted : Json) :
    type.ShownAs converted (type.rowValue converted) := by
  unfold rowValue
  split
  · next hnumber => exact .number hnumber converted
  · next hnumber =>
    rw [Bool.not_eq_true] at hnumber
    split
    · exact .null hnumber
    · exact .text hnumber _
    · next hnull htext => exact .other hnumber hnull htext

namespace ShownAs

variable {type : ValueType} {value : Json}

theorem eq_of_isNumber (h : type.ShownAs converted value) (hnumber : type.isNumber = true) :
    value = converted := by
  cases h with
  | number => rfl
  | null hnot => simp [hnumber] at hnot
  | text hnot => simp [hnumber] at hnot
  | other hnot => simp [hnumber] at hnot

theorem isTextual (h : type.ShownAs converted value) (hnumber : type.isNumber = false) :
    value.IsTextual := by
  cases h with
  | number hnot => simp [hnumber] at hnot
  | null => exact .null
  | text => exact .string _
  | other => exact .string _

end ShownAs

end ValueType

end TableFeed
