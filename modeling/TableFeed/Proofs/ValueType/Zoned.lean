import TableFeed.Proofs.Calendar.Instant
import TableFeed.Proofs.ValueType.Epoch

/-!
# Timestamps with an offset as instants

A text is taken as a timestamp with an offset just when it is what a well-formed stamp is written
as.  Leap seconds apart, it is converted to the UTC date and time of the instant that the stamp
denotes, cut to microseconds; this is what the count of those microseconds is converted to, with its
fraction filled up to six digits (`ValueType.convert_zoned_exact`).
-/

namespace TableFeed.ValueType

open Calendar

/-- A text is the date and time `micros` microseconds after 1970-01-01T00:00:00, with six digits. -/
def WritesMicros (micros : Int) (text : String) : Prop :=
  ∃ date clock, dateTime? text.toList = some (date, clock) ∧ clock.fraction.length = 6 ∧
    ShowsMoment date clock (micros / 10 ^ 6)

/-- The count of the microseconds of an instant is converted to the text, but for the padding. -/
def PadsCount (s : Schema) (micros : Int) (text : String) : Prop :=
  ∃ n : Whole, n.value = micros ∧ ∃ counted,
    microTimestamp.convert s (.number (.whole n)) = .ok (.string counted) ∧
      text.toList = padFraction counted.toList

/-- A text is what a well-formed stamp without a leap second is written as. -/
structure WrittenAs (text : String) (stamp : Stamp) : Prop where
  /-- The stamp is well-formed. -/
  wellFormed : stamp.WellFormed
  /-- The text is what it is written as. -/
  toList_eq : text.toList = stamp.chars
  /-- Its second is no leap second. -/
  second_ne : stamp.clock.second ≠ 60

variable {s : Schema} {text : String} {stamp : Stamp}

/-! ## Texts that are taken -/

theorem convert_zonedTimestamp_eq_ok_iff {converted : Json} :
    zonedTimestamp.convert s (.string text) = .ok converted ↔
      ∃ m cs, Zoned.read (Text.Utf8.encode text) = .ok m ∧ m.charsWith? microFraction = some cs ∧
        converted = .string (String.ofList cs) := by
  simp only [zonedTimestamp, nullOr, zonedText]
  cases Zoned.read (Text.Utf8.encode text) with
  | error fault => simp
  | ok m =>
    cases hcs : m.charsWith? microFraction with
    | none => simp [hcs]
    | some cs => simp [hcs, eq_comm]

theorem encode_eq_textBytes (h : text.toList = stamp.chars) :
    Text.Utf8.encode text = textBytes stamp.chars := by
  rw [← h, textBytes, ← Text.Utf8.encode_ofList, String.ofList_toList]

theorem toList_eq_chars (h : Text.Utf8.encode text = textBytes stamp.chars) :
    text.toList = stamp.chars := by
  rw [textBytes, ← Text.Utf8.encode_ofList] at h
  rw [Text.Utf8.encode_inj h, String.toList_ofList]

/-- The moment of a well-formed stamp has a written date. -/
theorem exists_charsWith (h : stamp.WellFormed) (fraction : Nat → List Char) :
    ∃ cs, stamp.moment.charsWith? fraction = some cs := by
  have hfirst : firstDay = -96465292 := by decide
  have hlast : lastDay = 95026236 := by decide
  obtain ⟨hlow, hhigh⟩ := Stamp.moment_second_bounds h
  rw [← Option.isSome_iff_exists, isSome_charsWith_iff, hfirst, hlast, daySeconds]
  omega

/-- A text is taken when it is what a well-formed stamp is written as. -/
theorem exists_convert_zonedTimestamp_iff :
    (∃ converted, zonedTimestamp.convert s (.string text) = .ok converted) ↔
      ∃ stamp : Stamp, stamp.WellFormed ∧ text.toList = stamp.chars := by
  constructor
  · rintro ⟨converted, hconverted⟩
    obtain ⟨m, -, hread, -⟩ := convert_zonedTimestamp_eq_ok_iff.1 hconverted
    obtain ⟨stamp, hformed, hbytes, -⟩ := Zoned.read_eq_ok_iff.1 hread
    exact ⟨stamp, hformed, toList_eq_chars hbytes⟩
  · rintro ⟨stamp, hformed, hchars⟩
    obtain ⟨cs, hcs⟩ := exists_charsWith hformed microFraction
    refine ⟨_, convert_zonedTimestamp_eq_ok_iff.2 ⟨stamp.moment, cs, ?_, hcs, rfl⟩⟩
    rw [encode_eq_textBytes hchars]
    exact Zoned.read_chars hformed

/-! ## Instants -/

theorem writesMicros_of_charsWith {m : Moment} (hnano : m.nano < secondNanos) {cs : List Char}
    (hcs : m.charsWith? microFraction = some cs) :
    WritesMicros (m.second * 1000000 + (m.nano / 1000 : Nat)) (String.ofList cs) := by
  have hlt := micros_lt hnano
  have hfraction : fraction? (microFraction m.nano) =
      some (Text.fixedDigits 6 (m.nano / 1000)) := by
    rw [microFraction, Nat.mod_eq_of_lt hnano]
    exact fraction?_point _ _
  obtain ⟨date, clock, hread, hdigits, hshows⟩ := dateTime?_charsWith hnano hfraction hcs
  refine ⟨date, clock, ?_, ?_, ?_⟩
  · rw [String.toList_ofList, hread]
  · rw [hdigits, Text.length_fixedDigits (by decide) hlt]
  · have hseconds : ((m.second * 1000000 + (m.nano / 1000 : Nat) : Int) : ℚ) / 10 ^ 6 =
        m.second + fractionValue (Text.fixedDigits 6 (m.nano / 1000)) := by
      rw [fractionValue_fixedDigits (by decide) hlt]
      generalize m.nano / 1000 = micros
      push_cast
      ring
    rwa [hseconds]

/-- A text is converted to what is written of its microsecond, the fraction filled up. -/
theorem exists_convert_zonedTimestamp (h : WrittenAs text stamp) {instant : ℚ}
    (hinstant : stamp.Denotes instant) :
    ∃ cs, (Moment.ofUnits ⌊instant * 10 ^ 6⌋ 1000000).charsWith? exactFraction = some cs ∧
      zonedTimestamp.convert s (.string text) = .ok (.string (String.ofList (padFraction cs))) ∧
      WritesMicros ⌊instant * 10 ^ 6⌋ (String.ofList (padFraction cs)) := by
  obtain ⟨hformed, hchars, hleap⟩ := h
  have hnano := Stamp.moment_nano_lt hformed hleap
  obtain ⟨written, hwritten⟩ := exists_charsWith hformed microFraction
  have hwrites := writesMicros_of_charsWith hnano hwritten
  have hread : Zoned.read (Text.Utf8.encode text) = .ok stamp.moment := by
    rw [encode_eq_textBytes hchars]
    exact Zoned.read_chars hformed
  have hconvert :=
    (convert_zonedTimestamp_eq_ok_iff (s := s)).2 ⟨stamp.moment, written, hread, hwritten, rfl⟩
  rw [charsWith?_microFraction hnano, Option.map_eq_some_iff] at hwritten
  rw [← Stamp.floor_micros hformed hleap hinstant] at hwritten hwrites
  obtain ⟨cs, hcs, rfl⟩ := hwritten
  exact ⟨cs, hcs, hconvert, hwrites⟩

/-- Texts of one instant are converted alike. -/
theorem convert_zonedTimestamp_congr {text' : String} {stamp' : Stamp} (h : WrittenAs text stamp)
    (h' : WrittenAs text' stamp') {instant : ℚ} (hinstant : stamp.Denotes instant)
    (hinstant' : stamp'.Denotes instant) :
    zonedTimestamp.convert s (.string text') = zonedTimestamp.convert s (.string text) := by
  obtain ⟨cs, hcs, hconvert, -⟩ := exists_convert_zonedTimestamp h hinstant
  obtain ⟨cs', hcs', hconvert', -⟩ := exists_convert_zonedTimestamp h' hinstant'
  rw [hcs] at hcs'
  rw [hconvert, hconvert', Option.some.inj hcs']

theorem exists_whole_micros (h : WrittenAs text stamp) {instant : ℚ}
    (hinstant : stamp.Denotes instant) :
    ∃ n : Whole, n.value = ⌊instant * 10 ^ 6⌋ ∧ (Number.whole n).int64? = some n.value := by
  obtain ⟨hlow, hhigh⟩ := Stamp.moment_second_bounds h.wellFormed
  have hnano := Stamp.moment_nano_lt h.wellFormed h.second_ne
  have hmicros := Stamp.floor_micros h.wellFormed h.second_ne hinstant
  have hbits : twoTo 63 = 9223372036854775808 := rfl
  have hbits' : twoTo 64 = 18446744073709551616 := rfl
  rw [secondNanos] at hnano
  refine ⟨⟨⌊instant * 10 ^ 6⌋, ?_, ?_⟩, rfl, int64?_whole_eq_some_iff.2 ⟨?_, rfl⟩⟩
  · omega
  · omega
  · change ⌊instant * 10 ^ 6⌋ < _
    omega

/-- What a timestamp with an offset is converted to is the instant it denotes, in UTC and cut to
microseconds, and the count of those is converted to the same but for the padding. -/
theorem convert_zoned_exact (text : String) (s : Schema) :
    ((∃ converted, zonedTimestamp.convert s (.string text) = .ok converted) ↔
      ∃ stamp : Stamp, stamp.WellFormed ∧ text.toList = stamp.chars) ∧
    ∀ stamp, WrittenAs text stamp → ∃ instant : ℚ,
      (∀ other, stamp.Denotes other ↔ other = instant) ∧
      (∃ written, zonedTimestamp.convert s (.string text) = .ok (.string written) ∧
        WritesMicros ⌊instant * 10 ^ 6⌋ written ∧ PadsCount s ⌊instant * 10 ^ 6⌋ written) ∧
      ∀ text' stamp', WrittenAs text' stamp' → stamp'.Denotes instant →
        zonedTimestamp.convert s (.string text') = zonedTimestamp.convert s (.string text) := by
  refine ⟨exists_convert_zonedTimestamp_iff, fun stamp h => ?_⟩
  have hdenotes (other : ℚ) := @Stamp.denotes_iff _ h.wellFormed other
  generalize stamp.date.toDay * 86400 + stamp.clock.seconds - stamp.zone.seconds = instant
    at hdenotes
  have hinstant := (hdenotes instant).2 rfl
  refine ⟨instant, hdenotes, ?_, fun text' stamp' h' hinstant' =>
    convert_zonedTimestamp_congr h h' hinstant hinstant'⟩
  obtain ⟨cs, hcs, hconvert, hwrites⟩ := exists_convert_zonedTimestamp h hinstant
  obtain ⟨n, hn, hvalue⟩ := exists_whole_micros h hinstant
  refine ⟨_, hconvert, hwrites, n, hn, String.ofList cs,
    (counted_eq_ok_iff (s := s)).2 ⟨cs, ?_, rfl⟩, ?_⟩
  · rw [hvalue, Option.bind_some, hn, hcs]
  · rw [String.toList_ofList, String.toList_ofList]

/-- Half an hour before the year 10000 in a zone behind UTC is after it in UTC. -/
theorem convert_zoned_exact_next_year :
    WrittenAs "9999-12-31T23:30:00.1234567-01:00" ⟨⟨9999, 12, 31⟩, 'T',
      ⟨23, 30, 0, ['1', '2', '3', '4', '5', '6', '7']⟩, .shifted '-' 1 0⟩ ∧
    zonedTimestamp.convert (.ofKind .string) (.string "9999-12-31T23:30:00.1234567-01:00") =
      .ok (.string "+10000-01-01 00:30:00.123456") := by
  have hwritten : WrittenAs "9999-12-31T23:30:00.1234567-01:00" ⟨⟨9999, 12, 31⟩, 'T',
      ⟨23, 30, 0, ['1', '2', '3', '4', '5', '6', '7']⟩, .shifted '-' 1 0⟩ := by
    refine ⟨⟨by decide, by decide, by decide, by decide, by decide, by decide, by decide,
      by decide⟩, ?_, by decide⟩
    exact String.toList_ofList
  refine ⟨hwritten, ?_⟩
  obtain ⟨instant, hdenotes, ⟨written, hconvert, -, n, hn, counted, hcounted, hpad⟩, -⟩ :=
    (convert_zoned_exact "9999-12-31T23:30:00.1234567-01:00" (.ofKind .string)).2 _ hwritten
  have hmicros := Stamp.floor_micros hwritten.wellFormed (by decide) ((hdenotes instant).2 rfl)
  have hvalue : n.value = 253402302600123456 := by
    rw [hn, hmicros]
    decide
  have hn' : n = ⟨253402302600123456, by decide, by decide⟩ := by
    cases n
    cases hvalue
    rfl
  have htext : microTimestamp.convert (.ofKind .string) (.number (.whole n)) =
      .ok (.string "+10000-01-01 00:30:00.123456") := by
    rw [hn']
    rfl
  rw [htext] at hcounted
  obtain rfl := Json.string.inj (Except.ok.inj hcounted)
  have hwhole : written = "+10000-01-01 00:30:00.123456" := by
    rw [← String.ofList_toList (s := written), hpad]
    rfl
  rw [hconvert, hwhole]

end TableFeed.ValueType
