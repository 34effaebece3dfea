import TableFeed.Proofs.ValueType.Precision
import TableFeed.ValueType.Plain

/-!
# Columns with a length or a precision

The column of a text or of a decimal is as large as the parameters of its schema ask, within what
the destination can hold.  A parameter that is missing, that writes no number, or whose number does
not fit leads to the type for texts of any length instead.  Lengths are as exact as if they had no
bound, though numbers end with the largest one of 64 bits (`ValueType.columnType_sized`).
-/

namespace TableFeed

open Text

/-! ## Parameters -/

namespace Schema

/-- A parameter of a schema writes an unsigned number below a limit. -/
def DeclaresNumber (s : Schema) (key : String) (limit n : Nat) : Prop :=
  ∃ raw, s.parameter? key = some raw ∧ WritesUnsigned raw n ∧ n < limit

/-- A schema of decimals has a scale: zero without the parameter for it, and otherwise the number
that the parameter writes, blanks around it aside. -/
def HasScale (s : Schema) (scale : Nat) : Prop :=
  s.parameter? Decimal.scaleParameter = none ∧ scale = 0 ∨
    ∃ raw, s.parameter? Decimal.scaleParameter = some raw ∧ WritesUnsigned (trim raw) scale ∧
      scale < twoTo 32

variable {s : Schema}

theorem bind_readUnsigned_eq_some_iff {key : String} {limit n : Nat} :
    (s.parameter? key).bind (readUnsigned limit) = some n ↔ s.DeclaresNumber key limit n := by
  simp only [Option.bind_eq_some_iff, readUnsigned_eq_some_iff, DeclaresNumber]

theorem decimalScale_eq_ok_iff_hasScale {scale : Nat} :
    s.decimalScale = .ok scale ↔ s.HasScale scale := by
  rw [decimalScale_eq_ok_iff, DeclaresScale, HasScale]
  cases s.parameter? Decimal.scaleParameter with
  | none => simp
  | some raw => simp [readUnsigned_eq_some_iff]

end Schema

namespace ValueType

variable {s : Schema}

/-! ## Texts -/

/-- The type of a column of texts with a length in bytes. -/
def varcharName (size : Nat) : String :=
  "VARCHAR(" ++ natText size ++ ")"

theorem varcharName_ne_string (size : Nat) : varcharName size ≠ "STRING" := by
  intro h
  have hlist := congrArg (fun text => text.toList.take 1) h
  simp [varcharName] at hlist

/-- Where the bytes of a length fit a column, they are three times the length. -/
theorem varcharBytes_fits_iff (length : Nat) :
    0 < varcharBytes length ∧ varcharBytes length ≤ maxVarcharBytes ↔
      1 ≤ 3 * length ∧ 3 * length ≤ 65533 := by
  have hlargest : twoTo 64 - 1 = 18446744073709551615 := rfl
  rw [varcharBytes, maxVarcharBytes, hlargest]
  omega

theorem varcharBytes_of_le {length : Nat} (h : 3 * length ≤ 65533) :
    varcharBytes length = 3 * length :=
  Nat.min_eq_left (h.trans (by decide))

theorem stringColumn_of_fits {length : Nat}
    (hlength : s.DeclaresNumber sourceLengthParameter (twoTo 64) length)
    (hpos : 1 ≤ 3 * length) (hle : 3 * length ≤ 65533) :
    stringColumn s = varcharName (3 * length) := by
  rw [stringColumn, Schema.bind_readUnsigned_eq_some_iff.2 hlength]
  dsimp only
  rw [if_pos ((varcharBytes_fits_iff length).2 ⟨hpos, hle⟩), varcharBytes_of_le hle, varcharName]

theorem stringColumn_cases (s : Schema) :
    (∃ length, s.DeclaresNumber sourceLengthParameter (twoTo 64) length ∧ 1 ≤ 3 * length ∧
      3 * length ≤ 65533) ∨ stringColumn s = "STRING" := by
  unfold stringColumn
  split
  · next length hlength =>
    split
    · next hfits =>
      exact .inl ⟨length, Schema.bind_readUnsigned_eq_some_iff.1 hlength,
        (varcharBytes_fits_iff length).1 hfits⟩
    · exact .inr rfl
  · exact .inr rfl

theorem stringColumn_eq_varcharName_iff {size : Nat} :
    stringColumn s = varcharName size ↔
      ∃ length, s.DeclaresNumber sourceLengthParameter (twoTo 64) length ∧ 1 ≤ 3 * length ∧
        3 * length ≤ 65533 ∧ size = 3 * length := by
  constructor
  · intro h
    rcases stringColumn_cases s with ⟨length, hlength, hpos, hle⟩ | hstring
    · rw [stringColumn_of_fits hlength hpos hle] at h
      exact ⟨length, hlength, hpos, hle, (eq_of_natText_between h).symm⟩
    · exact absurd (h.symm.trans hstring) (varcharName_ne_string size)
  · rintro ⟨length, hlength, hpos, hle, rfl⟩
    exact stringColumn_of_fits hlength hpos hle

/-! ## Decimals -/

theorem decimalColumn_of_fits {precision declared : Nat}
    (hprecision : s.DeclaresNumber precisionParameter (twoTo 32) precision)
    (hpos : 1 ≤ precision) (hle : precision ≤ 38) (hscale : s.HasScale declared) :
    decimalColumn s = decimalName precision (min declared precision) := by
  rw [decimalColumn, Schema.bind_readUnsigned_eq_some_iff.2 hprecision,
    Schema.decimalScale_eq_ok_iff_hasScale.2 hscale]
  exact if_pos ⟨hpos, hle⟩

theorem decimalColumn_cases (s : Schema) :
    (∃ precision declared, s.DeclaresNumber precisionParameter (twoTo 32) precision ∧
      1 ≤ precision ∧ precision ≤ 38 ∧ s.HasScale declared) ∨ decimalColumn s = "STRING" := by
  unfold decimalColumn
  split
  · next precision declared hprecision hscale =>
    split
    · next hfits =>
      exact .inl ⟨precision, declared, Schema.bind_readUnsigned_eq_some_iff.1 hprecision, hfits.1,
        hfits.2, Schema.decimalScale_eq_ok_iff_hasScale.1 hscale⟩
    · exact .inr rfl
  · exact .inr rfl

theorem decimalColumn_eq_decimalName_iff {precision scale : Nat} :
    decimalColumn s = decimalName precision scale ↔
      s.DeclaresNumber precisionParameter (twoTo 32) precision ∧ 1 ≤ precision ∧ precision ≤ 38 ∧
        ∃ declared, s.HasScale declared ∧ scale = min declared precision := by
  constructor
  · intro h
    rcases decimalColumn_cases s with ⟨found, declared, hfound, hpos, hle, hscale⟩ | hstring
    · rw [decimalColumn_of_fits hfound hpos hle hscale] at h
      obtain ⟨rfl, rfl⟩ := decimalName_inj h
      exact ⟨hfound, hpos, hle, declared, hscale, rfl⟩
    · exact absurd (h.symm.trans hstring) (decimalName_ne_string precision scale)
  · rintro ⟨hprecision, hpos, hle, declared, hscale, rfl⟩
    exact decimalColumn_of_fits hprecision hpos hle hscale

/-! ## Column types -/

/-- A text gets a column of three bytes for each character of a declared length when these fit, and
a decimal one of the declared precision with the scale held to it; without such parameters either
gets a column of text. -/
theorem columnType_sized (s : Schema) :
    (∀ size, string.columnType s = varcharName size ↔
      ∃ length, s.DeclaresNumber sourceLengthParameter (twoTo 64) length ∧ 1 ≤ 3 * length ∧
        3 * length ≤ 65533 ∧ size = 3 * length) ∧
    (string.columnType s = "STRING" ∨ ∃ size, string.columnType s = varcharName size) ∧
    (∀ precision scale, decimal.columnType s = decimalName precision scale ↔
      s.DeclaresNumber precisionParameter (twoTo 32) precision ∧ 1 ≤ precision ∧ precision ≤ 38 ∧
        ∃ declared, s.HasScale declared ∧ scale = min declared precision) ∧
    (decimal.columnType s = "STRING" ∨ ∃ precision scale,
      decimal.columnType s = decimalName precision scale ∧ scale ≤ precision ∧ precision ≤ 38) := by
  refine ⟨fun size => stringColumn_eq_varcharName_iff, ?_,
    fun precision scale => decimalColumn_eq_decimalName_iff, ?_⟩
  · rcases stringColumn_cases s with ⟨length, hlength, hpos, hle⟩ | hstring
    · exact .inr ⟨_, stringColumn_of_fits hlength hpos hle⟩
    · exact .inl hstring
  · rcases decimalColumn_cases s with ⟨precision, declared, hfound, hpos, hle, hscale⟩ | hstring
    · exact .inr ⟨_, _, decimalColumn_of_fits hfound hpos hle hscale, Nat.min_le_right _ _, hle⟩
    · exact .inl hstring

/-- The largest length that fits and a scale above the precision; the next length and the largest of
all have no place in a column. -/
theorem columnType_sized_largest :
    string.columnType ((Schema.ofKind .string).withParameter sourceLengthParameter "+21844") =
        varcharName 65532 ∧
      (∀ raw ∈ ["21845", "18446744073709551615"],
        string.columnType ((Schema.ofKind .string).withParameter sourceLengthParameter raw) =
          "STRING") ∧
      decimal.columnType (scaled "38" " 40") = decimalName 38 38 := by
  have hlength : WritesUnsigned "+21844" 21844 :=
    ⟨['2', '1', '8', '4', '4'], .inr rfl, List.cons_ne_nil _ _, by decide, by decide⟩
  have hprecision : WritesUnsigned "38" 38 :=
    ⟨['3', '8'], .inl rfl, List.cons_ne_nil _ _, by decide, by decide⟩
  have hscale : WritesUnsigned (trim " 40") 40 :=
    ⟨['4', '0'], .inl (by decide +kernel), List.cons_ne_nil _ _, by decide, by decide⟩
  obtain ⟨hsize, -⟩ := columnType_sized
    ((Schema.ofKind .string).withParameter sourceLengthParameter "+21844")
  obtain ⟨-, -, hdecimal, -⟩ := columnType_sized (scaled "38" " 40")
  refine ⟨(hsize 65532).2 ⟨21844, ⟨"+21844", by decide +kernel, hlength, by decide⟩, by decide,
    by decide, rfl⟩, by decide +kernel, ?_⟩
  exact (hdecimal 38 38).2 ⟨⟨"38", by decide +kernel, hprecision, by decide⟩, by decide, by decide,
    40, .inr ⟨" 40", by decide +kernel, hscale, by decide⟩, rfl⟩

end ValueType

end TableFeed
