import TableFeed.Proofs.Schema.Rendering
import TableFeed.Proofs.ValueType.Scaled
import TableFeed.Proofs.ValueType.Zoned

/-!
# Texts and the precision of their columns

A column of dates and times or of decimals keeps a number of digits after the point, which its
type tells (`ValueType.Keeps`).  The texts are exact where the column is not: the finest column of
timestamps keeps microseconds, also for those that are counted in nanoseconds, and a decimal column
never keeps more digits than its precision, whatever the scale.

So a text fits its column when the count is one of whole microseconds, and when the scale is not
above the precision (`ValueType.convert_fits`).
-/

namespace TableFeed

open Calendar

/-! ## Digits after the point -/

namespace Text

/-- The number of digits that a text has after its point. -/
def fractionDigits (cs : List Char) : Nat :=
  ((cs.dropWhile (· ≠ '.')).drop 1).length

theorem fractionDigits_append {front : List Char} (h : '.' ∉ front) (rest : List Char) :
    fractionDigits (front ++ rest) = fractionDigits rest := by
  have hfront : ∀ c ∈ front, decide (c ≠ '.') = true := fun c hc =>
    decide_eq_true fun heq => h (heq ▸ hc)
  rw [fractionDigits, List.dropWhile_append_of_pos hfront]
  rfl

theorem fractionDigits_point (digits : List Char) :
    fractionDigits ('.' :: digits) = digits.length := by
  simp [fractionDigits]

theorem point_not_mem_of_isDigit {cs : List Char} (h : cs.all Char.isDigit = true) : '.' ∉ cs :=
  fun hmem => absurd (List.all_eq_true.1 h _ hmem) (by decide)

theorem natChars_inj {m n : Nat} (h : natChars m = natChars n) : m = n := by
  rw [← digitsValue_natChars m, h, digitsValue_natChars]

/-- Names that differ at most in a number are the same only with the same number. -/
theorem eq_of_natText_between {before after : String} {m n : Nat}
    (h : before ++ natText m ++ after = before ++ natText n ++ after) : m = n := by
  have hlist := congrArg String.toList h
  simp only [natText, String.toList_append, String.toList_ofList, List.append_assoc,
    List.append_cancel_left_eq, List.append_cancel_right_eq] at hlist
  exact natChars_inj hlist

end Text

open Text

namespace Calendar

theorem fractionDigits_microFraction (nano : Nat) : fractionDigits (microFraction nano) = 6 := by
  have hlt : nano % secondNanos / 1000 < tenTo 6 := micros_lt (Nat.mod_lt nano (by decide))
  rw [microFraction, fractionDigits_point, length_fixedDigits (by decide) hlt]

/-- The digits of an exact fraction are those that it needs. -/
theorem fractionDigits_exactFraction (nano : Nat) :
    (fractionDigits (exactFraction nano) ≤ 3 ↔ nano % 1000000 = 0) ∧
      (fractionDigits (exactFraction nano) ≤ 6 ↔ nano % 1000 = 0) := by
  have hpart : nano % secondNanos < secondNanos := Nat.mod_lt nano (by decide)
  have hmillis : nano % secondNanos % 1000000 = nano % 1000000 := by
    rw [secondNanos]
    omega
  have hmicros : nano % secondNanos % 1000 = nano % 1000 := by
    rw [secondNanos]
    omega
  rw [← hmillis, ← hmicros]
  simp only [exactFraction]
  generalize nano % secondNanos = part at hpart
  rw [secondNanos] at hpart
  split_ifs with hzero hthree hsix
  · subst hzero
    simp [fractionDigits]
  · have hlt : part / 1000000 < tenTo 3 := by
      change part / 1000000 < 1000
      omega
    rw [fractionDigits_point, length_fixedDigits (by decide) hlt]
    omega
  · have hlt : part / 1000 < tenTo 6 := by
      change part / 1000 < 1000000
      omega
    rw [fractionDigits_point, length_fixedDigits (by decide) hlt]
    omega
  · have hlt : part < tenTo 9 := hpart
    rw [fractionDigits_point, length_fixedDigits (by decide) hlt]
    omega

theorem fractionDigits_charsWith {fraction : Nat → List Char} {m : Moment} {cs : List Char}
    (h : m.charsWith? fraction = some cs) :
    fractionDigits cs = fractionDigits (fraction m.nano) := by
  obtain ⟨date, -, rfl⟩ := Option.map_eq_some_iff.1 h
  have hfront : '.' ∉ date.chars ++ ' ' :: clockChars (m.second % daySeconds).toNat m.nano := by
    simp [point_not_mem_chars, point_not_mem_clockChars]
  rw [← fractionDigits_append hfront (fraction m.nano), List.append_assoc, List.cons_append]

end Calendar

theorem Decimal.fractionDigits_chars (n : Int) (scale : Nat) :
    fractionDigits (Decimal.chars n scale) = scale := by
  obtain ⟨whole, fraction, hspells, hchars⟩ := Decimal.isExact_chars n scale
  have hdigits : '.' ∉ whole ++ fraction := point_not_mem_of_isDigit hspells.digits
  have hwhole : '.' ∉ whole := fun hmem => hdigits (List.mem_append_left _ hmem)
  have hsign : '.' ∉ (if n < 0 then ['-'] else []) ++ whole := by
    split
    · simp [hwhole]
    · simp [hwhole]
  rw [hchars, ← List.append_assoc, fractionDigits_append hsign]
  by_cases hscale : scale = 0
  · rw [if_pos hscale, hscale]
    rfl
  · rw [if_neg hscale, fractionDigits_point, hspells.length_fraction]

/-! ## Columns -/

namespace ValueType

/-- The type of a column of dates and times with digits after the point. -/
def datetimeName (digits : Nat) : String :=
  "DATETIME(" ++ natText digits ++ ")"

/-- The type of a column of decimals. -/
def decimalName (precision scale : Nat) : String :=
  "DECIMAL(" ++ natText precision ++ "," ++ natText scale ++ ")"

/-- A column of a type keeps a number of digits after the point. -/
inductive Keeps : String → Nat → Prop where
  | datetime (digits : Nat) : Keeps (datetimeName digits) digits
  | decimal (precision scale : Nat) : Keeps (decimalName precision scale) scale

/-- A text has no more digits after its point than a column keeps. -/
def Fits (column text : String) : Prop :=
  ∀ digits, Keeps column digits → fractionDigits text.toList ≤ digits

theorem datetimeName_inj {digits digits' : Nat} (h : datetimeName digits = datetimeName digits') :
    digits = digits' :=
  eq_of_natText_between h

theorem decimalName_inj {precision scale precision' scale' : Nat}
    (h : decimalName precision scale = decimalName precision' scale') :
    precision = precision' ∧ scale = scale' := by
  have hlist := congrArg String.toList h
  simp only [decimalName, natText, String.toList_append, String.toList_ofList,
    List.append_assoc, List.append_cancel_left_eq] at hlist
  have hdigits (n : Nat) : ∀ c ∈ natChars n, c.isDigit = true :=
    List.all_eq_true.1 (all_isDigit_natChars n)
  have hspan := congrArg (List.span Char.isDigit) hlist
  rw [Decimal.span_isDigit_append (hdigits precision) rfl,
    Decimal.span_isDigit_append (hdigits precision') rfl, Prod.mk.injEq] at hspan
  obtain ⟨hprecision, hrest⟩ := hspan
  rw [List.append_cancel_left_eq, List.append_cancel_right_eq] at hrest
  exact ⟨natChars_inj hprecision, natChars_inj hrest⟩

theorem datetimeName_ne_decimalName (digits precision scale : Nat) :
    datetimeName digits ≠ decimalName precision scale := by
  intro h
  have hlist := congrArg (fun text => text.toList.take 2) h
  simp [datetimeName, decimalName] at hlist

theorem decimalName_ne_string (precision scale : Nat) : decimalName precision scale ≠ "STRING" := by
  intro h
  have hlist := congrArg (fun text => text.toList.take 1) h
  simp [decimalName] at hlist

theorem keeps_datetimeName_iff {digits digits' : Nat} :
    Keeps (datetimeName digits) digits' ↔ digits' = digits := by
  constructor
  · intro h
    generalize hname : datetimeName digits = column at h
    cases h with
    | datetime _ => exact (datetimeName_inj hname).symm
    | decimal _ _ => exact absurd hname (datetimeName_ne_decimalName _ _ _)
  · rintro rfl
    exact .datetime digits'

theorem keeps_decimalName_iff {precision scale digits : Nat} :
    Keeps (decimalName precision scale) digits ↔ digits = scale := by
  constructor
  · intro h
    generalize hname : decimalName precision scale = column at h
    cases h with
    | datetime _ => exact absurd hname.symm (datetimeName_ne_decimalName _ _ _)
    | decimal _ _ => exact (decimalName_inj hname).2.symm
  · rintro rfl
    exact .decimal precision digits

theorem fits_datetimeName_iff {digits : Nat} {text : String} :
    Fits (datetimeName digits) text ↔ fractionDigits text.toList ≤ digits := by
  simp only [Fits, keeps_datetimeName_iff, forall_eq]

theorem fits_decimalName_iff {precision scale : Nat} {text : String} :
    Fits (decimalName precision scale) text ↔ fractionDigits text.toList ≤ scale := by
  simp only [Fits, keeps_decimalName_iff, forall_eq]

/-! ## Timestamps -/

variable {s : Schema} {value : Json} {text : String}

theorem nullOr_eq_string {convert : Json → Except TypeError Json}
    (h : nullOr convert value = .ok (.string text)) : convert value = .ok (.string text) := by
  cases value with
  | null => cases h
  | _ => exact h

theorem exists_of_counted_eq_string {name : String} {render : Int → Option (List Char)}
    (h : counted name render s value = .ok (.string text)) :
    ∃ n v, value = .number n ∧ n.int64? = some v ∧ render v = some text.toList := by
  have hconvert := nullOr_eq_string h
  cases value with
  | number n =>
    obtain ⟨cs, hcs, htext⟩ := (counted_eq_ok_iff (s := s)).1 h
    obtain ⟨v, hv, hrender⟩ := Option.bind_eq_some_iff.1 hcs
    rw [Json.string.inj htext, String.toList_ofList]
    exact ⟨n, v, rfl, hv, hrender⟩
  | _ => cases hconvert

/-- The digits of a timestamp after its point tell whether its count is one of whole thousandths or
millionths of a second. -/
theorem exists_of_timestampOf {name columnType : String} {keys : List String} {perSecond : Nat}
    (h : (timestampOf name keys perSecond columnType).convert s value = .ok (.string text)) :
    ∃ n v, value = .number n ∧ n.int64? = some v ∧
      (fractionDigits text.toList ≤ 3 ↔ (Moment.ofUnits v perSecond).nano % 1000000 = 0) ∧
      (fractionDigits text.toList ≤ 6 ↔ (Moment.ofUnits v perSecond).nano % 1000 = 0) := by
  obtain ⟨n, v, hvalue, hv, hcs⟩ := exists_of_counted_eq_string (s := s) h
  rw [fractionDigits_charsWith hcs]
  exact ⟨n, v, hvalue, hv, fractionDigits_exactFraction _⟩

theorem fits_timestamp (h : timestamp.convert s value = .ok (.string text)) :
    Fits (timestamp.columnType s) text := by
  obtain ⟨n, v, -, -, hmillis, -⟩ := exists_of_timestampOf h
  have hname : timestamp.columnType s = datetimeName 3 := by rfl
  rw [hname, fits_datetimeName_iff, hmillis]
  exact Nat.mul_mod_left _ _

theorem fits_microTimestamp (h : microTimestamp.convert s value = .ok (.string text)) :
    Fits (microTimestamp.columnType s) text := by
  obtain ⟨n, v, -, -, -, hmicros⟩ := exists_of_timestampOf h
  have hname : microTimestamp.columnType s = datetimeName 6 := by rfl
  rw [hname, fits_datetimeName_iff, hmicros]
  exact Nat.mul_mod_left _ _

theorem fits_nanoTimestamp_iff (h : nanoTimestamp.convert s value = .ok (.string text)) :
    ∃ n v, value = .number n ∧ n.int64? = some v ∧
      (Fits (nanoTimestamp.columnType s) text ↔ v % 1000 = 0) := by
  obtain ⟨n, v, hvalue, hv, -, hmicros⟩ := exists_of_timestampOf h
  have hname : nanoTimestamp.columnType s = datetimeName 6 := by rfl
  refine ⟨n, v, hvalue, hv, ?_⟩
  rw [hname, fits_datetimeName_iff, hmicros]
  simp only [Moment.ofUnits, secondNanos]
  omega

theorem fits_zonedTimestamp (h : zonedTimestamp.convert s value = .ok (.string text)) :
    Fits (zonedTimestamp.columnType s) text := by
  have hconvert := nullOr_eq_string h
  cases value with
  | string written =>
    obtain ⟨m, cs, -, hcs, htext⟩ := convert_zonedTimestamp_eq_ok_iff.1 h
    have hname : zonedTimestamp.columnType s = datetimeName 6 := by rfl
    rw [hname, fits_datetimeName_iff, Json.string.inj htext, String.toList_ofList,
      fractionDigits_charsWith hcs, fractionDigits_microFraction]
  | _ => cases hconvert

/-! ## Decimals -/

theorem convert_decimal_eq_ok_iff {encoded : String} {converted : Json} :
    decimal.convert s (.string encoded) = .ok converted ↔
      ∃ scale digits, s.decimalScale = .ok scale ∧
        Decimal.decode (.string encoded) scale = .ok digits ∧
        converted = .string (String.ofList digits) := by
  constructor
  · intro h
    obtain ⟨scale, hscale, hdecoded⟩ := exists_of_bind_eq_ok (eq_ok_of_mapError h)
    obtain ⟨digits, hdigits, rfl⟩ := map_eq_ok_iff.1 hdecoded
    exact ⟨scale, digits, hscale, hdigits, rfl⟩
  · rintro ⟨scale, digits, hscale, hdigits, rfl⟩
    simp only [decimal, nullOr, hscale, Except.bind, decimalText, hdigits]
    rfl

theorem exists_of_decimal {encoded : String}
    (h : decimal.convert s (.string encoded) = .ok (.string text)) :
    ∃ scale, s.DeclaresScale scale ∧ fractionDigits text.toList = scale := by
  obtain ⟨scale, digits, hscale, hdigits, htext⟩ := convert_decimal_eq_ok_iff.1 h
  obtain ⟨-, bytes, -, rfl⟩ := Decimal.decode_string_eq_ok_iff.1 hdigits
  refine ⟨scale, Schema.decimalScale_eq_ok_iff.1 hscale, ?_⟩
  rw [Json.string.inj htext, String.toList_ofList, Decimal.fractionDigits_chars]

/-- A decimal column has the scale of the schema, but no more than its precision. -/
theorem eq_min_of_decimalColumn {scale precision kept : Nat} (hscale : s.DeclaresScale scale)
    (h : decimalColumn s = decimalName precision kept) : kept = min scale precision := by
  have hstring : "STRING" ≠ decimalName precision kept :=
    (decimalName_ne_string precision kept).symm
  rw [decimalColumn, Schema.decimalScale_eq_ok_iff.2 hscale] at h
  split at h
  · next hprecision hscale' =>
    cases hscale'
    split at h
    · obtain ⟨rfl, rfl⟩ := decimalName_inj h
      rfl
    · exact absurd h hstring
  · exact absurd h hstring

/-! ## Texts in their columns -/

/-- Texts of timestamps fit the column of their type, but for those of nanoseconds, which fit
when the count is one of whole microseconds.  A decimal in base64 has the digits of its scale, so
it fits a decimal column when the scale is not above the precision. -/
theorem convert_fits (s : Schema) :
    (∀ type ∈ [timestamp, microTimestamp, zonedTimestamp], ∀ value text,
      type.convert s value = .ok (.string text) → Fits (type.columnType s) text) ∧
    (∀ value text, nanoTimestamp.convert s value = .ok (.string text) →
      ∃ n v, value = .number n ∧ n.int64? = some v ∧
        (Fits (nanoTimestamp.columnType s) text ↔ v % 1000 = 0)) ∧
    ∀ encoded text, decimal.convert s (.string encoded) = .ok (.string text) →
      ∃ scale, s.DeclaresScale scale ∧ fractionDigits text.toList = scale ∧
        ∀ precision kept, decimal.columnType s = decimalName precision kept →
          kept = min scale precision ∧ (Fits (decimal.columnType s) text ↔ scale ≤ precision) := by
  refine ⟨?_, fun value text h => fits_nanoTimestamp_iff h, fun encoded text h => ?_⟩
  · intro type htype value text h
    simp only [List.mem_cons, List.not_mem_nil, or_false] at htype
    obtain rfl | rfl | rfl := htype
    · exact fits_timestamp h
    · exact fits_microTimestamp h
    · exact fits_zonedTimestamp h
  · obtain ⟨scale, hscale, hdigits⟩ := exists_of_decimal h
    refine ⟨scale, hscale, hdigits, fun precision kept hcolumn => ?_⟩
    have hkept := eq_min_of_decimalColumn hscale hcolumn
    rw [hcolumn, fits_decimalName_iff, hdigits, hkept]
    exact ⟨rfl, by omega⟩

/-- Decimals of a precision and a scale. -/
def scaled (precision scale : String) : Schema :=
  (((Schema.ofKind .bytes).named Decimal.logicalName).withParameter precisionParameter
    precision).withParameter Decimal.scaleParameter scale

/-- A decimal and a count of nanoseconds that fit their columns. -/
theorem convert_fits_thousandths :
    decimal.convert (scaled "4" "3") (.string "BNI=") = .ok (.string "1.234") ∧
      decimal.columnType (scaled "4" "3") = "DECIMAL(4,3)" ∧
      Fits (decimal.columnType (scaled "4" "3")) "1.234" ∧
      nanoTimestamp.convert (.ofKind .int64)
        (.number (.whole ⟨1700000000123456000, by decide, by decide⟩)) =
          .ok (.string "2023-11-14 22:13:20.123456") ∧
      Fits (nanoTimestamp.columnType (.ofKind .int64)) "2023-11-14 22:13:20.123456" := by
  have hdecimal : decimal.convert (scaled "4" "3") (.string "BNI=") = .ok (.string "1.234") :=
    convert_decimal_eq_ok_iff.2
      ⟨3, "1.234".toList, by decide +kernel, by decide +kernel, by rw [String.ofList_toList]⟩
  have hnanos : nanoTimestamp.convert (.ofKind .int64)
      (.number (.whole ⟨1700000000123456000, by decide, by decide⟩)) =
        .ok (.string "2023-11-14 22:13:20.123456") := by
    rfl
  have hcolumn : decimal.columnType (scaled "4" "3") = decimalName 4 3 := by decide +kernel
  refine ⟨hdecimal, hcolumn, ?_, hnanos, ?_⟩
  · obtain ⟨scale, -, hdigits, hfits⟩ := (convert_fits (scaled "4" "3")).2.2 _ _ hdecimal
    obtain rfl : scale = 3 := hdigits.symm
    exact (hfits 4 3 hcolumn).2.2 (by decide)
  · obtain ⟨n, v, hn, hv, hfits⟩ := (convert_fits (.ofKind .int64)).2.1 _ _ hnanos
    obtain rfl := Json.number.inj hn
    obtain rfl := Option.some.inj hv
    exact hfits.2 (by decide)

/-- A decimal whose scale is above its precision and a count of nanoseconds that do not fit. -/
theorem not_fits_thousandth :
    decimal.convert (scaled "2" "3") (.string "AQ==") = .ok (.string "0.001") ∧
      decimal.columnType (scaled "2" "3") = "DECIMAL(2,2)" ∧
      ¬ Fits (decimal.columnType (scaled "2" "3")) "0.001" ∧
      nanoTimestamp.convert (.ofKind .int64) (.number (.whole ⟨1, by decide, by decide⟩)) =
        .ok (.string "1970-01-01 00:00:00.000000001") ∧
      nanoTimestamp.columnType (.ofKind .int64) = "DATETIME(6)" ∧
      ¬ Fits (nanoTimestamp.columnType (.ofKind .int64)) "1970-01-01 00:00:00.000000001" := by
  have hcolumn : decimal.columnType (scaled "2" "3") = decimalName 2 2 := by decide +kernel
  have hnanos : nanoTimestamp.columnType (.ofKind .int64) = datetimeName 6 := by rfl
  have hdecimal : decimal.convert (scaled "2" "3") (.string "AQ==") = .ok (.string "0.001") :=
    convert_decimal_eq_ok_iff.2
      ⟨3, "0.001".toList, by decide +kernel, by decide +kernel, by rw [String.ofList_toList]⟩
  refine ⟨hdecimal, hcolumn, ?_, by rfl, rfl, ?_⟩
  · rw [hcolumn, fits_decimalName_iff]
    decide
  · rw [hnanos, fits_datetimeName_iff]
    decide

end ValueType

end TableFeed
