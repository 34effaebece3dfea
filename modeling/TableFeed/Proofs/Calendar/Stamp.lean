import TableFeed.Calendar.Zoned
import TableFeed.Proofs.Calendar.Written
import TableFeed.Proofs.Except
import TableFeed.Proofs.Text.Utf8

/-!
# Written timestamps with an offset

A `Stamp` is a timestamp as it is written: a date, a separator, a time of day and a zone.  The
reader of timestamps takes what well-formed stamps are written as and nothing else, and reads the
moment of the stamp (`Zoned.read_eq_ok_iff`).
-/

namespace TableFeed

namespace Calendar

open Text

/-! ## Stamps -/

/-- The zone that a time is written in. -/
inductive Zone where
  /-- UTC itself, written as a letter. -/
  | utc (mark : Char)
  /-- Hours and minutes before or after UTC, by the sign. -/
  | shifted (sign : Char) (hours minutes : Nat)
deriving DecidableEq

namespace Zone

/-- What a zone is written as. -/
def chars : Zone → List Char
  | utc mark => [mark]
  | shifted sign hours minutes => sign :: (fixedDigits 2 hours ++ ':' :: fixedDigits 2 minutes)

/-- The seconds that the clocks of a zone are ahead of UTC. -/
def seconds : Zone → Int
  | utc _ => 0
  | shifted sign hours minutes =>
    if sign = '+' then (hours * 3600 + minutes * 60 : Nat) else -(hours * 3600 + minutes * 60 : Nat)

/-- Whether a zone has a mark or sign as it should and fewer hours than `limit`. -/
def isWithin (limit : Nat) : Zone → Bool
  | utc mark => mark = 'Z' || mark = 'z'
  | shifted sign hours minutes =>
    (sign = '+' || sign = '-' || sign = '\u2212') && hours < limit && minutes < 60

end Zone

/-- A timestamp with an offset, part by part as it is written. -/
structure Stamp where
  /-- The date. -/
  date : Date
  /-- What stands between the date and the time of day. -/
  separator : Char
  /-- The time of day. -/
  clock : Clock
  /-- The zone. -/
  zone : Zone
deriving DecidableEq

/-- A fraction with its point, nothing without digits. -/
def pointed (digits : List Char) : List Char :=
  if digits = [] then [] else '.' :: digits

namespace Stamp

/-- What a stamp is written as. -/
def chars (stamp : Stamp) : List Char :=
  fixedDigits 4 stamp.date.year.toNat ++ '-' :: (fixedDigits 2 stamp.date.month ++
    '-' :: (fixedDigits 2 stamp.date.day ++ stamp.separator :: (fixedDigits 2 stamp.clock.hour ++
      ':' :: (fixedDigits 2 stamp.clock.minute ++ ':' :: (fixedDigits 2 stamp.clock.second ++
        (pointed stamp.clock.fraction ++ stamp.zone.chars))))))

/-- A stamp has parts that exist; its second may be a leap second. -/
structure WellFormed (stamp : Stamp) : Prop where
  /-- The year has four digits. -/
  year : 0 ≤ stamp.date.year ∧ stamp.date.year ≤ 9999
  /-- The date is in the calendar. -/
  date : stamp.date.isValid = true
  /-- The separator is the letter T or a blank. -/
  separator : stamp.separator ∈ ['T', 't', ' ']
  /-- The hour is below 24. -/
  hour : stamp.clock.hour < 24
  /-- The minute is below 60. -/
  minute : stamp.clock.minute < 60
  /-- The second is at most 60. -/
  second : stamp.clock.second ≤ 60
  /-- The fraction has digits only. -/
  fraction : stamp.clock.fraction.all Char.isDigit = true
  /-- The zone is less than a day from UTC. -/
  zone : stamp.zone.isWithin 24 = true

/-- A stamp denotes the instant `seconds` after 1970-01-01T00:00:00 in UTC. -/
def Denotes (stamp : Stamp) (seconds : ℚ) : Prop :=
  ∃ day : Int, stamp.date.IsDay day ∧
    seconds = day * 86400 + stamp.clock.seconds - stamp.zone.seconds

end Stamp

/-- The nanoseconds that the digits of a fraction write, finer ones dropped. -/
def fractionNanos (digits : List Char) : Nat :=
  digitsValue (digits.take 9) * tenTo (9 - (digits.take 9).length)

/-- The moment of a stamp, with a leap second counted into the nanoseconds. -/
def Stamp.moment (stamp : Stamp) : Moment where
  second := stamp.date.toDay * daySeconds + (stamp.clock.hour * 3600 + stamp.clock.minute * 60 +
    (if stamp.clock.second = 60 then 59 else stamp.clock.second) : Nat) - stamp.zone.seconds
  nano := fractionNanos stamp.clock.fraction +
    if stamp.clock.second = 60 then secondNanos else 0

/-! ## Bytes of digits -/

/-- The bytes of characters. -/
def textBytes (cs : List Char) : List UInt8 :=
  cs.flatMap String.utf8EncodeChar

@[simp] theorem textBytes_append (cs cs' : List Char) :
    textBytes (cs ++ cs') = textBytes cs ++ textBytes cs' :=
  List.flatMap_append

theorem textBytes_cons (c : Char) (cs : List Char) :
    textBytes (c :: cs) = String.utf8EncodeChar c ++ textBytes cs :=
  List.flatMap_cons

namespace Zoned

theorem digit?_ofNat {c : Char} (h : c.isDigit = true) :
    digit? (UInt8.ofNat c.toNat) = some (c.toNat - '0'.toNat) := by
  obtain ⟨hlow, hhigh⟩ := toNat_of_isDigit h
  have hbyte : (UInt8.ofNat c.toNat).toNat = c.toNat := by
    rw [UInt8.toNat_ofNat']
    omega
  have hdigit : 48 ≤ UInt8.ofNat c.toNat ∧ UInt8.ofNat c.toNat ≤ 57 := by
    rw [UInt8.le_iff_toNat_le, UInt8.le_iff_toNat_le, hbyte]
    exact ⟨hlow, hhigh⟩
  rw [digit?, if_pos hdigit, hbyte]
  rfl

/-- Digits are bytes each of its own number. -/
theorem textBytes_of_isDigit {cs : List Char} (h : cs.all Char.isDigit = true) :
    textBytes cs = cs.map fun c => UInt8.ofNat c.toNat := by
  induction cs with
  | nil => rfl
  | cons c cs ih =>
    obtain ⟨hc, hcs⟩ : c.isDigit = true ∧ cs.all Char.isDigit = true := by simpa using h
    obtain ⟨-, hhigh⟩ := toNat_of_isDigit hc
    rw [List.map_cons, ← ih hcs, textBytes, List.flatMap_cons,
      Utf8.utf8EncodeChar_of_lt (show c.toNat < 128 by omega)]
    rfl

theorem length_textBytes_of_isDigit {cs : List Char} (h : cs.all Char.isDigit = true) :
    (textBytes cs).length = cs.length := by
  rw [textBytes_of_isDigit h, List.length_map]

/-- Bytes that are digits are the bytes of characters that are. -/
theorem exists_textBytes_of_digit? {bs : List UInt8} (h : ∀ b ∈ bs, (digit? b).isSome = true) :
    ∃ cs, cs.all Char.isDigit = true ∧ bs = textBytes cs := by
  have hchar : ∀ n < 58, 48 ≤ n → (Char.ofNat n).isDigit = true ∧ (Char.ofNat n).toNat = n := by
    decide +kernel
  have hbyte : ∀ b ∈ bs, (Char.ofNat b.toNat).isDigit = true ∧
      UInt8.ofNat (Char.ofNat b.toNat).toNat = b := by
    intro b hb
    have hsome := h b hb
    rw [digit?] at hsome
    split at hsome
    · next hdigit =>
      rw [UInt8.le_iff_toNat_le, UInt8.le_iff_toNat_le] at hdigit
      obtain ⟨hisDigit, htoNat⟩ := hchar b.toNat (Nat.lt_succ_of_le hdigit.2) hdigit.1
      rw [htoNat, UInt8.ofNat_toNat]
      exact ⟨hisDigit, rfl⟩
    · cases hsome
  have hall : (bs.map fun b => Char.ofNat b.toNat).all Char.isDigit = true := by
    rw [List.all_map]
    exact List.all_eq_true.2 fun b hb => (hbyte b hb).1
  refine ⟨_, hall, ?_⟩
  have hsame := List.map_congr_left (g := id) fun b hb => (hbyte b hb).2
  rw [textBytes_of_isDigit hall, List.map_map]
  exact (hsame.trans (List.map_id bs)).symm

/-! ## Numbers -/

theorem digits_textBytes {cs : List Char} (h : cs.all Char.isDigit = true) :
    digits (textBytes cs) = .ok (digitsValue cs) := by
  rw [textBytes_of_isDigit h, digits, digitsValue]
  generalize 0 = value
  induction cs generalizing value with
  | nil => rfl
  | cons c cs ih =>
    obtain ⟨hc, hcs⟩ : c.isDigit = true ∧ cs.all Char.isDigit = true := by simpa using h
    simp only [List.map_cons, List.foldlM_cons, digit?_ofNat hc]
    rw [Nat.ofDigitChars_cons, Nat.mul_comm 10]
    exact ih hcs _

theorem digit?_of_digits {bs : List UInt8} {n : Nat} (h : digits bs = .ok n) :
    ∀ b ∈ bs, (digit? b).isSome = true := by
  rw [digits] at h
  generalize 0 = value at h
  induction bs generalizing value with
  | nil => exact List.forall_mem_nil _
  | cons b bs ih =>
    simp only [List.foldlM_cons] at h
    cases hdigit : digit? b with
    | none =>
      rw [hdigit] at h
      cases h
    | some d =>
      rw [hdigit] at h
      exact List.forall_mem_cons.2 ⟨by rw [hdigit]; rfl, ih _ h⟩

theorem digits_eq_ok_iff {bs : List UInt8} {n width : Nat} (hlength : bs.length = width)
    (hwidth : 0 < width) :
    digits bs = .ok n ↔ n < tenTo width ∧ bs = textBytes (fixedDigits width n) := by
  constructor
  · intro h
    obtain ⟨cs, hcs, rfl⟩ := exists_textBytes_of_digit? (digit?_of_digits h)
    rw [length_textBytes_of_isDigit hcs] at hlength
    rw [digits_textBytes hcs] at h
    obtain rfl := Except.ok.inj h
    subst hlength
    exact ⟨digitsValue_lt hcs, by rw [fixedDigits_digitsValue hcs (List.length_pos_iff.1 hwidth)]⟩
  · rintro ⟨-, rfl⟩
    rw [digits_textBytes (all_isDigit_fixedDigits width n), digitsValue_fixedDigits]

theorem digits_two_eq_ok_iff {a b : UInt8} {n : Nat} :
    digits [a, b] = .ok n ↔ n < tenTo 2 ∧ [a, b] = textBytes (fixedDigits 2 n) :=
  digits_eq_ok_iff rfl Nat.two_pos

theorem digits_four_eq_ok_iff {a b c d : UInt8} {n : Nat} :
    digits [a, b, c, d] = .ok n ↔ n < tenTo 4 ∧ [a, b, c, d] = textBytes (fixedDigits 4 n) :=
  digits_eq_ok_iff rfl (Nat.succ_pos 3)

theorem length_textBytes_fixedDigits {width n : Nat} (hwidth : 0 < width) (hn : n < tenTo width) :
    (textBytes (fixedDigits width n)).length = width := by
  rw [length_textBytes_of_isDigit (all_isDigit_fixedDigits width n), length_fixedDigits hwidth hn]

theorem exists_textBytes_two {n : Nat} (h : n < tenTo 2) :
    ∃ a b, textBytes (fixedDigits 2 n) = [a, b] :=
  List.length_eq_two.1 (length_textBytes_fixedDigits Nat.two_pos h)

theorem require_eq_ok_iff {allowed : List UInt8} {b : UInt8} {u : Unit} :
    require allowed b = .ok u ↔ b ∈ allowed := by
  by_cases hb : b ∈ allowed
  · simp [require, hb]
  · simp [require, hb]

theorem clock_eq_ok_iff {hour minute second nano : Nat} {result : Nat × Nat} :
    clock hour minute second nano = .ok result ↔ (hour < 24 ∧ minute < 60 ∧ second ≤ 60) ∧
      result = (hour * 3600 + minute * 60 + (if second = 60 then 59 else second),
        nano + if second = 60 then secondNanos else 0) := by
  have hsecond : (if second = 60 then 59 else second) < 60 ↔ second ≤ 60 := by
    split <;> omega
  simp only [clock, hsecond]
  split <;> simp_all [eq_comm]

/-! ## Fractions -/

theorem digits_take_textBytes {ds : List Char} (h : ds.all Char.isDigit = true) (count : Nat) :
    digits ((textBytes ds).take count) = .ok (digitsValue (ds.take count)) := by
  have htake : (ds.take count).all Char.isDigit = true :=
    List.all_eq_true.2 fun c hc => List.all_eq_true.1 h c (List.mem_of_mem_take hc)
  rw [textBytes_of_isDigit h, ← List.map_take, ← textBytes_of_isDigit htake, digits_textBytes htake]

theorem fraction_of_frontDigits {ds : List Char} (h : ds.all Char.isDigit = true) (hne : ds ≠ [])
    {bs : List UInt8} (hfront : frontDigits bs = textBytes ds) :
    fraction (46 :: bs) = .ok (fractionNanos ds, bs.drop (textBytes ds).length) := by
  have hlength := length_textBytes_of_isDigit h
  have hwritten : textBytes ds ≠ [] := by
    rwa [← List.length_pos_iff, hlength, List.length_pos_iff]
  have hbs : bs ≠ [] := by
    rintro rfl
    exact hwritten hfront.symm
  have hkept : ((textBytes ds).take 9).length = (ds.take 9).length := by
    rw [List.length_take, List.length_take, hlength]
  simp only [fraction, hfront, if_neg hbs, if_neg hwritten, digits_take_textBytes h, hkept]
  rfl

/-- The fraction that is read ends before what is no digit. -/
theorem fraction_textBytes {ds : List Char} (h : ds.all Char.isDigit = true) {rest : List UInt8}
    (hdigit : rest.head?.all (fun b => !(digit? b).isSome) = true) (hpoint : rest.head? ≠ some 46) :
    fraction (textBytes (pointed ds) ++ rest) = .ok (fractionNanos ds, rest) := by
  by_cases hne : ds = []
  · subst hne
    change fraction rest = .ok (0, rest)
    unfold fraction
    split
    · exact absurd rfl hpoint
    · rfl
  · have hall : ∀ b ∈ textBytes ds, (digit? b).isSome = true :=
      digit?_of_digits (digits_textBytes h)
    have hnone : rest.takeWhile (fun b => (digit? b).isSome) = [] := by
      cases rest with
      | nil => rfl
      | cons b rest => exact List.takeWhile_cons_of_neg (by simpa using hdigit)
    have hfront : frontDigits (textBytes ds ++ rest) = textBytes ds := by
      rw [frontDigits, List.takeWhile_append_of_pos hall, hnone, List.append_nil]
    have hread := fraction_of_frontDigits h hne hfront
    rw [List.drop_left] at hread
    rw [pointed, if_neg hne]
    exact hread

theorem exists_textBytes_of_fraction {bs rest : List UInt8} {nano : Nat}
    (h : fraction bs = .ok (nano, rest)) :
    ∃ ds, ds.all Char.isDigit = true ∧ bs = textBytes (pointed ds) ++ rest ∧
      nano = fractionNanos ds := by
  by_cases hpoint : ∃ tail, bs = 46 :: tail
  · obtain ⟨tail, rfl⟩ := hpoint
    have hall : ∀ b ∈ frontDigits tail, (digit? b).isSome = true :=
      List.all_eq_true.1 List.all_takeWhile
    obtain ⟨ds, hds, hfront⟩ := exists_textBytes_of_digit? hall
    have hne : ds ≠ [] := by
      rintro rfl
      rw [fraction, hfront] at h
      split at h
      · cases h
      · cases h
    rw [fraction_of_frontDigits hds hne hfront] at h
    obtain ⟨hnano, hrest⟩ := Prod.mk.inj (Except.ok.inj h)
    refine ⟨ds, hds, ?_, hnano.symm⟩
    have hprefix : textBytes ds <+: tail := hfront ▸ List.takeWhile_prefix _
    rw [← List.prefix_iff_eq_append.1 hprefix, hrest, pointed, if_neg hne]
    rfl
  · refine ⟨[], rfl, ?_⟩
    have hnone : fraction bs = .ok (0, bs) := by
      unfold fraction
      split
      · exact absurd ⟨_, rfl⟩ hpoint
      · rfl
    rw [hnone] at h
    obtain ⟨rfl, rfl⟩ := Prod.mk.inj (Except.ok.inj h)
    exact ⟨rfl, rfl⟩

/-! ## Zones -/

theorem twoDigits_eq_ok_iff {bs rest : List UInt8} {n : Nat} :
    twoDigits bs = .ok (n, rest) ↔ n < tenTo 2 ∧ bs = textBytes (fixedDigits 2 n) ++ rest := by
  constructor
  · intro h
    unfold twoDigits at h
    split at h
    · next a b tail =>
      obtain ⟨value, hvalue, hresult⟩ := bind_eq_ok_iff.1 h
      obtain ⟨rfl, rfl⟩ := Prod.mk.inj (Except.ok.inj hresult)
      obtain ⟨hn, hbytes⟩ := digits_two_eq_ok_iff.1 hvalue
      exact ⟨hn, by rw [← hbytes]; rfl⟩
    · cases h
  · rintro ⟨hn, rfl⟩
    obtain ⟨a, b, hab⟩ := exists_textBytes_two hn
    have hread := digits_two_eq_ok_iff.2 ⟨hn, hab.symm⟩
    rw [hab]
    exact bind_eq_ok_iff.2 ⟨n, hread, rfl⟩

theorem offsetMinutes_eq_ok_iff {bs rest : List UInt8} {n : Nat} :
    offsetMinutes bs = .ok (n, rest) ↔ n < 60 ∧ bs = textBytes (fixedDigits 2 n) ++ rest := by
  simp only [offsetMinutes, bind_eq_ok_iff, Prod.exists, twoDigits_eq_ok_iff]
  constructor
  · rintro ⟨minutes, tail, ⟨-, rfl⟩, h⟩
    split at h
    · next hlt =>
      obtain ⟨rfl, rfl⟩ := Prod.mk.inj (Except.ok.inj h)
      exact ⟨hlt, rfl⟩
    · cases h
  · rintro ⟨hlt, rfl⟩
    exact ⟨n, rest, ⟨hlt.trans (by decide), rfl⟩, if_pos hlt⟩

theorem offsetSize_eq_ok_iff {bs rest : List UInt8} {size : Nat} :
    offsetSize bs = .ok (size, rest) ↔
      ∃ hours minutes, (hours < 100 ∧ minutes < 60) ∧
        bs = textBytes (fixedDigits 2 hours ++ ':' :: fixedDigits 2 minutes) ++ rest ∧
        size = hours * 3600 + minutes * 60 := by
  simp only [offsetSize, bind_eq_ok_iff, Prod.exists, twoDigits_eq_ok_iff]
  constructor
  · rintro ⟨hours, tail, ⟨hhours, rfl⟩, h⟩
    split at h
    · cases h
    · next colon tail =>
      simp only [bind_eq_ok_iff, Prod.exists, require_eq_ok_iff, List.mem_singleton,
        offsetMinutes_eq_ok_iff] at h
      obtain ⟨-, rfl, minutes, after, ⟨hminutes, rfl⟩, h⟩ := h
      obtain ⟨rfl, rfl⟩ := Prod.mk.inj (Except.ok.inj h)
      refine ⟨hours, minutes, ⟨hhours, hminutes⟩, ?_, rfl⟩
      rw [textBytes_append, List.append_assoc]
      rfl
  · rintro ⟨hours, minutes, ⟨hhours, hminutes⟩, rfl, rfl⟩
    refine ⟨hours, 58 :: (textBytes (fixedDigits 2 minutes) ++ rest), ⟨hhours, ?_⟩, ?_⟩
    · rw [textBytes_append, List.append_assoc]
      rfl
    · simp only [bind_eq_ok_iff, Prod.exists, require_eq_ok_iff, List.mem_singleton,
        offsetMinutes_eq_ok_iff]
      exact ⟨(), trivial, minutes, rest, ⟨hminutes, rfl⟩, rfl⟩

theorem exists_of_offsetSize {bs rest : List UInt8} {shift : Int} (signed : Nat → Int)
    (h : (do
      let (size, rest) ← offsetSize bs
      return (signed size, rest)) = Except.ok (shift, rest)) :
    ∃ hours minutes, (hours < 100 ∧ minutes < 60) ∧
      bs = textBytes (fixedDigits 2 hours ++ ':' :: fixedDigits 2 minutes) ++ rest ∧
      shift = signed (hours * 3600 + minutes * 60) := by
  simp only [bind_eq_ok_iff, Prod.exists, offsetSize_eq_ok_iff] at h
  obtain ⟨-, after, ⟨hours, minutes, hlt, rfl, rfl⟩, h⟩ := h
  obtain ⟨rfl, rfl⟩ := Prod.mk.inj (Except.ok.inj h)
  exact ⟨hours, minutes, hlt, rfl, rfl⟩

theorem offset_eq_ok_iff {bs rest : List UInt8} {shift : Int} :
    offset bs = .ok (shift, rest) ↔
      ∃ zone : Zone, zone.isWithin 100 = true ∧ bs = textBytes zone.chars ++ rest ∧
        shift = zone.seconds := by
  constructor
  · intro h
    unfold offset at h
    split at h
    · obtain ⟨rfl, rfl⟩ := Prod.mk.inj (Except.ok.inj h)
      exact ⟨.utc 'Z', rfl, rfl, rfl⟩
    · obtain ⟨rfl, rfl⟩ := Prod.mk.inj (Except.ok.inj h)
      exact ⟨.utc 'z', rfl, rfl, rfl⟩
    · obtain ⟨hours, minutes, hlt, rfl, rfl⟩ := exists_of_offsetSize Nat.cast h
      exact ⟨.shifted '+' hours minutes, by simp [Zone.isWithin, hlt], rfl, rfl⟩
    · obtain ⟨hours, minutes, hlt, rfl, rfl⟩ := exists_of_offsetSize (fun size => -(size : Int)) h
      exact ⟨.shifted '-' hours minutes, by simp [Zone.isWithin, hlt], rfl, rfl⟩
    · obtain ⟨hours, minutes, hlt, rfl, rfl⟩ := exists_of_offsetSize (fun size => -(size : Int)) h
      exact ⟨.shifted '\u2212' hours minutes, by simp [Zone.isWithin, hlt], rfl, rfl⟩
    · cases h
    · cases h
  · rintro ⟨zone, hzone, rfl, rfl⟩
    cases zone with
    | utc mark =>
      simp only [Zone.isWithin, Bool.or_eq_true, decide_eq_true_eq] at hzone
      rcases hzone with rfl | rfl
      · rfl
      · rfl
    | shifted sign hours minutes =>
      simp only [Zone.isWithin, Bool.and_eq_true, Bool.or_eq_true, decide_eq_true_eq] at hzone
      obtain ⟨⟨hsign, hhours⟩, hminutes⟩ := hzone
      have hsize := offsetSize_eq_ok_iff.2
        ⟨hours, minutes, ⟨hhours, hminutes⟩, Eq.refl (_ ++ rest), rfl⟩
      rcases hsign with (rfl | rfl) | rfl
      · exact bind_eq_ok_iff.2 ⟨_, hsize, rfl⟩
      · exact bind_eq_ok_iff.2 ⟨_, hsize, rfl⟩
      · exact bind_eq_ok_iff.2 ⟨_, hsize, rfl⟩

/-! ## Timestamps -/

theorem mem_separators_iff {b : UInt8} :
    b ∈ [84, 116, 32] ↔ ∃ c ∈ ['T', 't', ' '], String.utf8EncodeChar c = [b] := by
  have hupper : String.utf8EncodeChar 'T' = [84] := rfl
  have hlower : String.utf8EncodeChar 't' = [116] := rfl
  have hblank : String.utf8EncodeChar ' ' = [32] := rfl
  simp [hupper, hlower, hblank, eq_comm]

/-- The zone of an offset below a day has fewer than 24 hours. -/
theorem isWithin_iff {zone : Zone} :
    zone.isWithin 24 = true ↔ zone.isWithin 100 = true ∧ zone.seconds.natAbs < daySeconds := by
  rw [daySeconds]
  cases zone with
  | utc mark => simp [Zone.isWithin, Zone.seconds]
  | shifted sign hours minutes =>
    have hsize : (Zone.shifted sign hours minutes).seconds.natAbs =
        hours * 3600 + minutes * 60 := by
      rw [Zone.seconds]
      split <;> simp only [Int.natAbs_neg, Int.natAbs_natCast]
    rw [hsize]
    simp only [Zone.isWithin, Bool.and_eq_true, decide_eq_true_eq]
    constructor
    · rintro ⟨⟨hsign, hhours⟩, hminutes⟩
      exact ⟨⟨⟨hsign, by omega⟩, hminutes⟩, by omega⟩
    · rintro ⟨⟨⟨hsign, -⟩, hminutes⟩, hlt⟩
      exact ⟨⟨hsign, by omega⟩, hminutes⟩

theorem exists_separator {c : Char} (h : c ∈ ['T', 't', ' ']) :
    ∃ b, String.utf8EncodeChar c = [b] := by
  simp only [List.mem_cons, List.not_mem_nil, or_false] at h
  rcases h with rfl | rfl | rfl
  · exact ⟨84, rfl⟩
  · exact ⟨116, rfl⟩
  · exact ⟨32, rfl⟩

/-- A zone begins with what ends a fraction. -/
theorem head?_zone {zone : Zone} (h : zone.isWithin 100 = true) :
    (textBytes zone.chars).head?.all (fun b => !(digit? b).isSome) = true ∧
      (textBytes zone.chars).head? ≠ some 46 := by
  cases zone with
  | utc mark =>
    simp only [Zone.isWithin, Bool.or_eq_true, decide_eq_true_eq] at h
    rcases h with rfl | rfl
    · exact ⟨rfl, by decide⟩
    · exact ⟨rfl, by decide⟩
  | shifted sign hours minutes =>
    simp only [Zone.isWithin, Bool.and_eq_true, Bool.or_eq_true, decide_eq_true_eq] at h
    rcases h.1.1 with (rfl | rfl) | rfl
    · exact ⟨rfl, nofun⟩
    · exact ⟨rfl, nofun⟩
    · exact ⟨rfl, nofun⟩

theorem exists_stamp_of_read {bs : List UInt8} {m : Moment} (h : read bs = .ok m) :
    ∃ stamp : Stamp, stamp.WellFormed ∧ bs = textBytes stamp.chars ∧ m = stamp.moment := by
  unfold read at h
  split at h
  · -- Each step took the bytes that its part is written as.
    simp only [bind_eq_ok_iff, ite_throw_bind_eq_ok_iff, Prod.exists, require_eq_ok_iff,
      digits_two_eq_ok_iff, digits_four_eq_ok_iff, clock_eq_ok_iff, offset_eq_ok_iff,
      List.mem_singleton, mem_separators_iff] at h
    obtain ⟨year, ⟨hyear, hyears⟩, -, rfl, month, ⟨-, hmonths⟩, -, rfl, day, ⟨-, hdays⟩, hvalid,
      -, ⟨separator, hmem, hseparator⟩, hour, ⟨-, hhours⟩, -, rfl, minute, ⟨-, hminutes⟩, -, rfl,
      second, ⟨-, hseconds⟩, nano, rest, hfraction, clockSecond, total, ⟨hclock, hresult⟩, shift,
      after, ⟨zone, hzone, hrest, hshift⟩, hnil, hshort, hmoment⟩ := h
    obtain ⟨fraction, hdigits, hwritten, hnano⟩ := exists_textBytes_of_fraction hfraction
    obtain ⟨rfl, rfl⟩ := Prod.mk.inj hresult
    obtain rfl := not_not.1 hnil
    subst hshift hnano
    refine ⟨⟨⟨year, month, day⟩, separator, ⟨hour, minute, second, fraction⟩, zone⟩, ?_, ?_, ?_⟩
    · exact {
        year := ⟨Int.natCast_nonneg _, Int.ofNat_le.2 (Nat.le_of_lt_succ hyear)⟩
        date := by simpa using hvalid
        separator := hmem
        hour := hclock.1
        minute := hclock.2.1
        second := hclock.2.2
        fraction := hdigits
        zone := isWithin_iff.2 ⟨hzone, Nat.not_le.1 hshort⟩ }
    · rw [hrest, List.append_nil] at hwritten
      simp only [Stamp.chars, Int.toNat_natCast, textBytes_append, textBytes_cons, ← hyears,
        ← hmonths, ← hdays, ← hhours, ← hminutes, ← hseconds, hseparator, ← hwritten]
      rfl
    · exact (Except.ok.inj hmoment).symm
  · cases h

theorem read_chars {stamp : Stamp} (h : stamp.WellFormed) :
    read (textBytes stamp.chars) = .ok stamp.moment := by
  obtain ⟨⟨year, month, day⟩, separator, ⟨hour, minute, second, fraction⟩, zone⟩ := stamp
  obtain ⟨⟨hyear, hlast⟩, hvalid, hseparator, hhour, hminute, hsecond, hdigits, hzone⟩ := h
  dsimp only at *
  lift year to Nat using hyear
  obtain ⟨hwithin, hshort⟩ := isWithin_iff.1 hzone
  have hyears : year < tenTo 4 := Nat.lt_succ_of_le (Int.ofNat_le.1 hlast)
  obtain ⟨hmonth, hday⟩ := Date.lt_of_isValid hvalid
  have hmonths : month < tenTo 2 := hmonth.trans (by decide)
  have hdays : day < tenTo 2 := hday.trans (by decide)
  have hhours : hour < tenTo 2 := hhour.trans (by decide)
  have hminutes : minute < tenTo 2 := hminute.trans (by decide)
  have hseconds : second < tenTo 2 := hsecond.trans_lt (by decide)
  -- Every part before the fraction has as many bytes as the reader asks for.
  obtain ⟨y1, y2, y3, y4, hy⟩ :=
    List.length_eq_four.1 (length_textBytes_fixedDigits (by decide) hyears)
  obtain ⟨m1, m2, hm⟩ := exists_textBytes_two hmonths
  obtain ⟨d1, d2, hd⟩ := exists_textBytes_two hdays
  obtain ⟨h1, h2, hh⟩ := exists_textBytes_two hhours
  obtain ⟨n1, n2, hn⟩ := exists_textBytes_two hminutes
  obtain ⟨s1, s2, hs⟩ := exists_textBytes_two hseconds
  obtain ⟨t, ht⟩ := exists_separator hseparator
  have hchars : textBytes (Stamp.chars ⟨⟨year, month, day⟩, separator,
      ⟨hour, minute, second, fraction⟩, zone⟩) =
      y1 :: y2 :: y3 :: y4 :: 45 :: m1 :: m2 :: 45 :: d1 :: d2 :: t :: h1 :: h2 :: 58 :: n1 :: n2 ::
        58 :: s1 :: s2 :: (textBytes (pointed fraction) ++ textBytes zone.chars) := by
    simp only [Stamp.chars, Int.toNat_natCast, textBytes_append, textBytes_cons, hy, hm, hd, hh,
      hn, hs, ht]
    rfl
  rw [hchars]
  simp only [read, bind_eq_ok_iff, ite_throw_bind_eq_ok_iff, Prod.exists, require_eq_ok_iff,
      digits_two_eq_ok_iff, digits_four_eq_ok_iff, clock_eq_ok_iff, offset_eq_ok_iff,
      List.mem_singleton, mem_separators_iff]
  refine ⟨year, ⟨hyears, hy.symm⟩, (), trivial, month, ⟨hmonths, hm.symm⟩, (), trivial, day,
    ⟨hdays, hd.symm⟩, by simpa using hvalid, (), ⟨separator, hseparator, ht⟩, hour,
    ⟨hhours, hh.symm⟩, (), trivial, minute, ⟨hminutes, hn.symm⟩, (), trivial, second,
    ⟨hseconds, hs.symm⟩, fractionNanos fraction, textBytes zone.chars, ?_, _, _,
    ⟨⟨hhour, hminute, hsecond⟩, rfl⟩, _, [],
    ⟨zone, hwithin, (List.append_nil _).symm, rfl⟩, not_not.2 rfl, Nat.not_le.2 hshort, rfl⟩
  obtain ⟨hdigit, hpoint⟩ := head?_zone hwithin
  exact fraction_textBytes hdigits hdigit hpoint

/-- What is read is what a well-formed stamp is written as, and it is read as its moment. -/
theorem read_eq_ok_iff {bs : List UInt8} {m : Moment} :
    read bs = .ok m ↔
      ∃ stamp : Stamp, stamp.WellFormed ∧ bs = textBytes stamp.chars ∧ m = stamp.moment := by
  constructor
  · exact exists_stamp_of_read
  · rintro ⟨stamp, hformed, rfl, rfl⟩
    exact read_chars hformed

end Zoned

end Calendar

end TableFeed
