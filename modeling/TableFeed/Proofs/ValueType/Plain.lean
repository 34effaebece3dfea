import TableFeed.Proofs.Json.Extent
import TableFeed.Proofs.Schema.Conformance
import TableFeed.Proofs.ValueType.Scaled
import TableFeed.Registry

/-!
# Values of plain types

A schema's check and the type that is built in for its kind each say which values they take.  They
agree (`ValueType.convert_plain`): a value that was checked is converted to itself, and the one
fault that is left is a whole number that the kind is too small for.

The text that a row holds of an array or a map is read as the value that was checked just when the
value is legible (`Json.Legible`).  A check does not ask for that (`ValueType.exists_isLost`).
-/

namespace TableFeed

/-! ## Kinds -/

namespace Kind

/-- The bits of the whole numbers of a kind. -/
def bits? : Kind → Option Nat
  | int8 => some 8
  | int16 => some 16
  | int32 => some 32
  | int64 => some 64
  | _ => none

/-- A value is a whole number outside the signed range of its kind. -/
def Exceeds (kind : Kind) (value : Json) : Prop :=
  ∃ bits n, kind.bits? = some bits ∧ value = .number (.whole n) ∧
    ¬ (-(twoTo (bits - 1) : Int) ≤ n.value ∧ n.value < twoTo (bits - 1))

variable {kind : Kind} {value : Json}

theorem exists_bits (h : kind.isInteger = true) : ∃ bits, kind.bits? = some bits := by
  cases kind <;> first | exact ⟨_, rfl⟩ | cases h

/-- Kinds of whole numbers allow nothing but whole numbers. -/
theorem exists_whole_of_allows (hkind : kind.isInteger = true) (h : kind.allows value = true) :
    ∃ n, value = .number (.whole n) := by
  have hne (other : Kind) (hother : other.isInteger = false) : kind ≠ other := by
    rintro rfl
    rw [hkind] at hother
    cases hother
  cases value with
  | number n =>
    cases n with
    | whole n => exact ⟨n, rfl⟩
    | real x => simp [allows, hkind, Number.isWhole] at h
  | null => cases h
  | bool b => simp [allows, hne .boolean rfl] at h
  | string text => simp [allows, hne .string rfl, hne .bytes rfl] at h
  | array items => simp [allows, hne .array rfl, hne .map rfl] at h
  | object members => simp [allows, hne .map rfl, hne .struct rfl] at h

end Kind

theorem Schema.Admits.allows {s : Schema} {value : Json} (h : s.Admits (some value))
    (hnull : value ≠ .null) : s.kind.allows value = true := by
  obtain ⟨kind, _, _, _, _, _, _, _, _, _, _⟩ := s
  rw [Admits, Json.present?_eq_some_iff.2 ⟨rfl, hnull⟩] at h
  exact h.1

namespace ValueType

/-! ## Types of kinds -/

/-- The type that is built in for the values of a kind. -/
def ofKind? : Kind → Option ValueType
  | .int8 => some int8
  | .int16 => some int16
  | .int32 => some int32
  | .int64 => some int64
  | .float32 => some float32
  | .float64 => some float64
  | .boolean => some boolean
  | .string => some string
  | .bytes => some bytes
  | .array => some container
  | .map => some container
  | .struct => none

end ValueType

theorem Registry.get?_registryKey (kind : Kind) :
    builtin.get? kind.registryKey = ValueType.ofKind? kind := by
  cases kind <;> rfl

namespace ValueType

variable {kind : Kind} {type : ValueType} {s : Schema} {value : Json}

/-- How a type converts a value that was checked against a schema. -/
structure Agrees (type : ValueType) (s : Schema) (value : Json) : Prop where
  /-- A value stays as it is unless it is a whole number that the kind is too small for. -/
  unchanged : ¬ s.kind.Exceeds value → type.convert s value = .ok value
  /-- Such a number is out of range. -/
  outOfRange : s.kind.Exceeds value →
    ∃ n, value = .number n ∧ type.convert s value = .error (.outOfRange type.name n.text)
  /-- An array or a map stands in a row as its text, which is read as it again if it is legible and
  only then. -/
  readBack : s.kind = .array ∨ s.kind = .map →
    ∃ text, type.rowValue value = .string text ∧
      (Json.ofText? text = some value ↔ value.Legible Json.Reader.depthLimit)

theorem ofKind?_of_bits? {bits : Nat} (h : kind.bits? = some bits) :
    ∃ name key columnType,
      ofKind? kind = some (integer name key columnType bits) ∧ bits ≤ 64 := by
  cases kind <;> cases h <;> exact ⟨_, _, _, rfl, by decide⟩

/-- Whole numbers within the range of their bits are left, and no others. -/
theorem convert_integer {name key columnType : String} {bits : Nat} (hbits : bits ≤ 64)
    (n : Whole) : (integer name key columnType bits).convert s (.number (.whole n)) =
      if -(twoTo (bits - 1) : Int) ≤ n.value ∧ n.value < twoTo (bits - 1) then
        .ok (.number (.whole n))
      else .error (.outOfRange name (Number.whole n).text) := by
  by_cases hsigned : n.value < twoTo 63
  · have hvalue : (Number.whole n).int64? = some n.value := if_pos hsigned
    simp only [integer, nullOr, hvalue]
  · have hvalue : (Number.whole n).int64? = none := if_neg hsigned
    have hbound : twoTo (bits - 1) ≤ twoTo 63 := Nat.pow_le_pow_right (by decide) (by omega)
    simp only [integer, nullOr, hvalue]
    rw [if_neg (by omega)]

/-- Values of other kinds are left as they are, but no numbers for bytes. -/
theorem convert_of_allows (htype : ofKind? kind = some type) (hkind : kind.isInteger = false)
    (h : kind.allows value = true) (hbytes : kind = .bytes → ∀ n, value ≠ .number n) :
    type.convert s value = .ok value := by
  cases value with
  | null => cases h
  | bool b =>
    obtain rfl := of_decide_eq_true h
    cases htype
    rfl
  | number n =>
    simp only [Kind.allows, hkind, Bool.false_eq_true, ↓reduceIte, Bool.or_eq_true,
      decide_eq_true_eq] at h
    rcases h with (rfl | rfl) | rfl
    · cases htype
      rfl
    · cases htype
      rfl
    · exact absurd rfl (hbytes rfl n)
  | string text =>
    simp only [Kind.allows, Bool.or_eq_true, decide_eq_true_eq] at h
    rcases h with rfl | rfl
    · cases htype
      rfl
    · cases htype
      rfl
  | array items =>
    simp only [Kind.allows, Bool.or_eq_true, decide_eq_true_eq] at h
    rcases h with rfl | rfl
    · cases htype
      rfl
    · cases htype
      rfl
  | object members =>
    simp only [Kind.allows, Bool.or_eq_true, decide_eq_true_eq] at h
    rcases h with rfl | rfl
    · cases htype
      rfl
    · cases htype

theorem rowValue_container (h : kind = .array ∨ kind = .map) (hallows : kind.allows value = true) :
    container.rowValue value = .string value.text := by
  cases value with
  | array items => rfl
  | object members => rfl
  | null => cases hallows
  | bool b => rcases h with rfl | rfl <;> cases hallows
  | number n => rcases h with rfl | rfl <;> cases hallows
  | string text => rcases h with rfl | rfl <;> cases hallows

/-- The type of a kind agrees with what the kind allows. -/
theorem agrees_of_allows (htype : ofKind? s.kind = some type) (h : s.kind.allows value = true)
    (hbytes : s.kind = .bytes → ∀ n, value ≠ .number n) : Agrees type s value where
  unchanged hfits := by
    by_cases hkind : s.kind.isInteger = true
    · obtain ⟨n, rfl⟩ := Kind.exists_whole_of_allows hkind h
      obtain ⟨bits, hbits⟩ := Kind.exists_bits hkind
      obtain ⟨name, key, columnType, hinteger, hle⟩ := ofKind?_of_bits? hbits
      cases htype.symm.trans hinteger
      rw [convert_integer hle, if_pos]
      exact not_not.1 fun hout => hfits ⟨bits, n, hbits, rfl, hout⟩
    · exact convert_of_allows htype (Bool.not_eq_true _ ▸ hkind) h hbytes
  outOfRange := by
    rintro ⟨bits, n, hbits, rfl, hout⟩
    obtain ⟨name, key, columnType, hinteger, hle⟩ := ofKind?_of_bits? hbits
    cases htype.symm.trans hinteger
    exact ⟨.whole n, rfl, by rw [convert_integer hle, if_neg hout]; rfl⟩
  readBack hkind := by
    have hcontainer : ofKind? s.kind = some container := by
      rcases hkind with hkind | hkind <;> rw [hkind] <;> rfl
    cases htype.symm.trans hcontainer
    exact ⟨value.text, rowValue_container hkind h, Json.ofText?_text_iff⟩

/-- What a schema of a plain kind lets pass is what the type of its kind converts to itself, whole
numbers outside the range of the kind and numbers in the place of bytes apart. -/
theorem convert_plain {registry : Registry} {path : String} (hkind : s.kind ≠ .struct)
    (hresolve : registry.resolve? s = Registry.builtin.get? s.kind.registryKey)
    (hcheck : s.check path (some value) = .ok ()) (hnull : value ≠ .null)
    (hbytes : s.kind = .bytes → ∀ n, value ≠ .number n) :
    ∃ type, registry.resolve? s = some type ∧ Agrees type s value := by
  have hallows := ((Schema.check_eq_ok_iff path (some value) s).1 hcheck).allows hnull
  rw [hresolve, Registry.get?_registryKey]
  obtain ⟨type, htype⟩ : ∃ type, ofKind? s.kind = some type := by
    cases hfound : s.kind <;> first | exact ⟨_, rfl⟩ | exact absurd hfound hkind
  exact ⟨type, htype, agrees_of_allows htype hallows hbytes⟩

/-- A map with a fraction, a null and a control character in it. -/
def mixed : Json :=
  .object [("a", .array [.number (.real ⟨false, 6755399441055744, -52, by decide⟩), .null,
    .string "\n"]), ("b", .object [])]

theorem legible_mixed : mixed.Legible Json.Reader.depthLimit := by
  have hfraction : (Number.real ⟨false, 6755399441055744, -52, by decide⟩).ReadsBack := by
    decide +kernel
  refine .object (by decide) (by simp; decide) ?_
  simp only [List.forall_mem_cons]
  refine ⟨.array ?_, .object .nil (by simp) (by simp), List.forall_mem_nil _⟩
  simp only [List.forall_mem_cons]
  exact ⟨.real hfraction, .null, .string _, List.forall_mem_nil _⟩

/-- A number just above the range of its kind, and a map that is read again from its row. -/
theorem convert_plain_limits :
    int64.convert (.ofKind .int64) (.number (.whole ⟨9223372036854775808, by decide, by decide⟩)) =
        .error (.outOfRange "int64" "9223372036854775808") ∧
      container.convert (.ofKind .map) mixed = .ok mixed ∧
      ∃ text, container.rowValue mixed = .string text ∧ Json.ofText? text = some mixed := by
  obtain ⟨type, htype, hagrees⟩ := @convert_plain (.ofKind .int64)
    (.number (.whole ⟨9223372036854775808, by decide, by decide⟩)) Registry.builtin "" (by decide)
    rfl rfl nofun nofun
  obtain rfl : int64 = type := Option.some.inj htype
  obtain ⟨n, hn, herror⟩ := hagrees.outOfRange ⟨64, _, rfl, rfl, by decide⟩
  cases hn
  obtain ⟨type, htype, hagrees⟩ := @convert_plain (.ofKind .map) mixed Registry.builtin ""
    (by decide) rfl rfl nofun nofun
  obtain rfl : container = type := Option.some.inj htype
  obtain ⟨text, hrow, hread⟩ := hagrees.readBack (.inr rfl)
  have hfits : ¬ (Schema.ofKind .map).kind.Exceeds mixed := by
    rintro ⟨_, _, hbits, -⟩
    cases hbits
  exact ⟨herror, hagrees.unchanged hfits, text, hrow, hread.2 legible_mixed⟩

/-! ## Values that are not read again -/

/-- A map whose smaller key marks embedded texts; the members of a map stand in the order of their
keys, wherever they stood in a text. -/
def marked : Json :=
  .object [(Json.Reader.embeddingKey, .string "1"), ("a", .bool true)]

/-- An empty array within other arrays. -/
def nestedArrays : Nat → Json
  | 0 => .array []
  | outer + 1 => .array [nestedArrays outer]

/-- A whole number that is held as a binary64 one. -/
def largeReal : Json :=
  .array [.number (.real ⟨false, 8000000000000001, 0, by decide⟩)]

theorem lt_of_legible_nestedArrays {depth outer : Nat} (h : (nestedArrays outer).Legible depth) :
    outer < depth := by
  induction outer generalizing depth with
  | zero =>
    cases h with
    | array _ => exact Nat.succ_pos _
  | succ outer ih =>
    cases h with
    | array hitems => exact Nat.succ_lt_succ (ih (hitems _ List.mem_cons_self))

/-- A value of a kind is checked and converted to itself, but it is not what its row is read as. -/
def IsLost (kind : Kind) (value : Json) : Prop :=
  (Schema.ofKind kind).check "" (some value) = .ok () ∧
    ∃ type, Registry.builtin.resolve? (.ofKind kind) = some type ∧
      type.convert (.ofKind kind) value = .ok value ∧
      ∃ text, type.rowValue value = .string text ∧ Json.ofText? text ≠ some value

theorem isLost_map {members : List (String × Json)}
    (h : ¬ (Json.object members).Legible Json.Reader.depthLimit) : IsLost .map (.object members) :=
  ⟨rfl, container, rfl, rfl, _, rfl, mt Json.ofText?_text_iff.1 h⟩

theorem isLost_array {items : List Json}
    (h : ¬ (Json.array items).Legible Json.Reader.depthLimit) : IsLost .array (.array items) :=
  ⟨rfl, container, rfl, rfl, _, rfl, mt Json.ofText?_text_iff.1 h⟩

/-- One map opens as an embedded text does, one array is nested too deeply, and the number of one is
read as the next number. -/
theorem exists_isLost :
    IsLost .map marked ∧ IsLost .array (nestedArrays 127) ∧ IsLost .array largeReal := by
  refine ⟨isLost_map fun h => ?_, isLost_array fun h => ?_, isLost_array fun h => ?_⟩
  · cases h with
    | object hordered hopens hmembers => exact hopens _ rfl rfl
  · exact lt_irrefl _ (lt_of_legible_nestedArrays h)
  · cases h with
    | array hitems =>
      cases hitems _ List.mem_cons_self with
      | real hx => exact absurd hx (by decide +kernel)

end ValueType

end TableFeed
