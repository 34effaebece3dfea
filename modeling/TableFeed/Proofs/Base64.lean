import TableFeed.Base64
import TableFeed.Proofs.Except

/-!
# Base64 as an encoding

`encode` is the encoding that `Base64.decode` reads.  Three bytes give four symbols of six bits
each, most significant first.  One or two bytes that are left over give a quad that is filled
up with padding, and the bits that no byte fills are zero.

Decoding accepts the encodings of bytes and nothing else (`decode_eq_ok_iff`): no other padding, no
other unused bits and no other symbols.
-/

namespace TableFeed

namespace Base64

/-! ## Symbols -/

/-- The symbol of six bits. -/
def symbol (value : Nat) : UInt8 :=
  if value < 26 then .ofNat (65 + value)
  else if value < 52 then .ofNat (97 + (value - 26))
  else if value < 62 then .ofNat (48 + (value - 52))
  else if value = 62 then 43
  else 47

theorem symbolValue?_symbol : ∀ value < 64, symbolValue? (symbol value) = some value := by
  decide

theorem symbol_ne_pad : ∀ value < 64, symbol value ≠ pad := by
  decide

theorem symbol_of_symbolValue? {b : UInt8} {value : Nat} (h : symbolValue? b = some value) :
    value < 64 ∧ symbol value = b := by
  have hall : ∀ n < 256, ∀ value ∈ symbolValue? (.ofNat n),
      value < 64 ∧ symbol value = .ofNat n := by
    decide +kernel
  have hb := hall b.toNat (UInt8.toNat_lt b)
  rw [UInt8.ofNat_toNat] at hb
  exact hb value h

theorem symbolAt_eq_ok_iff {offset : Nat} {b : UInt8} {value : Nat} :
    symbolAt offset b = .ok value ↔ value < 64 ∧ symbol value = b := by
  rw [symbolAt]
  constructor
  · intro h
    split at h
    · next found hfound =>
      cases h
      exact symbol_of_symbolValue? hfound
    · cases h
  · rintro ⟨hvalue, rfl⟩
    rw [symbolValue?_symbol value hvalue]

/-- Symbols that stand for six bits each are the symbols of these bits. -/
theorem symbolsFrom_eq_ok_iff {offset : Nat} {symbols : List UInt8} {values : List Nat} :
    symbolsFrom offset symbols = .ok values ↔
      (∀ value ∈ values, value < 64) ∧ symbols = values.map symbol := by
  induction symbols generalizing offset values with
  | nil =>
    cases values with
    | nil => simp [symbolsFrom]
    | cons value others => simp [symbolsFrom]
  | cons b rest ih =>
    rw [symbolsFrom]
    constructor
    · intro h
      split at h
      · cases h
      · next value hsymbol =>
        obtain ⟨others, hrest, rfl⟩ := map_eq_ok_iff.1 h
        obtain ⟨hvalue, rfl⟩ := symbolAt_eq_ok_iff.1 hsymbol
        obtain ⟨hothers, rfl⟩ := ih.1 hrest
        exact ⟨List.forall_mem_cons.2 ⟨hvalue, hothers⟩, rfl⟩
    · rintro ⟨hvalues, hsymbols⟩
      cases values with
      | nil => cases hsymbols
      | cons value others =>
        obtain ⟨hvalue, hothers⟩ := List.forall_mem_cons.1 hvalues
        obtain ⟨rfl, rfl⟩ := List.cons.inj hsymbols
        have hfirst : symbolAt offset (symbol value) = .ok value :=
          symbolAt_eq_ok_iff.2 ⟨hvalue, rfl⟩
        have hrest : symbolsFrom (offset + 1) (others.map symbol) = .ok others :=
          ih.2 ⟨hothers, rfl⟩
        rw [hfirst, hrest]
        rfl

/-! ## Quads -/

/-- The base64 text of bytes. -/
def encode : List UInt8 → List UInt8
  | [] => []
  | [a] => [symbol (a.toNat / 4), symbol (a.toNat % 4 * 16), pad, pad]
  | [a, b] =>
    [symbol (a.toNat / 4), symbol (a.toNat % 4 * 16 + b.toNat / 16), symbol (b.toNat % 16 * 4), pad]
  | a :: b :: c :: rest =>
    symbol (a.toNat / 4) :: symbol (a.toNat % 4 * 16 + b.toNat / 16) ::
      symbol (b.toNat % 16 * 4 + c.toNat / 64) :: symbol (c.toNat % 64) :: encode rest

theorem encode_append_bytesOfQuad {a b c d : Nat} (ha : a < 64) (hb : b < 64) (hc : c < 64)
    (hd : d < 64) (rest : List UInt8) : encode (bytesOfQuad a b c d ++ rest) =
      symbol a :: symbol b :: symbol c :: symbol d :: encode rest := by
  have hfirst : (a * 4 + b / 16) % 2 ^ 8 / 4 = a := by omega
  have hsecond : (a * 4 + b / 16) % 2 ^ 8 % 4 * 16 + (b % 16 * 16 + c / 4) % 2 ^ 8 / 16 = b := by
    omega
  have hthird : (b % 16 * 16 + c / 4) % 2 ^ 8 % 16 * 4 + (c % 4 * 64 + d) % 2 ^ 8 / 64 = c := by
    omega
  have hfourth : (c % 4 * 64 + d) % 2 ^ 8 % 64 = d := by omega
  simp only [bytesOfQuad, List.cons_append, List.nil_append, encode, UInt8.toNat_ofNat', hfirst,
    hsecond, hthird, hfourth]

/-- Three bytes are the bytes of a quad. -/
theorem exists_bytesOfQuad (a b c : UInt8) : ∃ va vb vc vd, va < 64 ∧ vb < 64 ∧ vc < 64 ∧ vd < 64 ∧
    bytesOfQuad va vb vc vd = [a, b, c] := by
  have ha := UInt8.toNat_lt a
  have hb := UInt8.toNat_lt b
  have hc := UInt8.toNat_lt c
  refine ⟨a.toNat / 4, a.toNat % 4 * 16 + b.toNat / 16, b.toNat % 16 * 4 + c.toNat / 64,
    c.toNat % 64, by omega, by omega, by omega, by omega, ?_⟩
  have hfirst : a.toNat / 4 * 4 + (a.toNat % 4 * 16 + b.toNat / 16) / 16 = a.toNat := by omega
  have hsecond : (a.toNat % 4 * 16 + b.toNat / 16) % 16 * 16 +
      (b.toNat % 16 * 4 + c.toNat / 64) / 4 = b.toNat := by omega
  have hthird : (b.toNat % 16 * 4 + c.toNat / 64) % 4 * 64 + c.toNat % 64 = c.toNat := by omega
  rw [bytesOfQuad, hfirst, hsecond, hthird, UInt8.ofNat_toNat, UInt8.ofNat_toNat, UInt8.ofNat_toNat]

/-! ## The last quad -/

/-- The bytes of two to four symbols; none when bits are left over. -/
def lastBytes? : List Nat → Option (List UInt8)
  | [a, b] => if b % 16 = 0 then some ((bytesOfQuad a b 0 0).take 1) else none
  | [a, b, c] => if c % 4 = 0 then some ((bytesOfQuad a b c 0).take 2) else none
  | [a, b, c, d] => some (bytesOfQuad a b c d)
  | _ => none

/-- A last quad of bytes is empty, or two to four symbols filled up with padding. -/
def IsLastQuad (quad bytes : List UInt8) : Prop :=
  quad = [] ∧ bytes = [] ∨ ∃ values count, (∀ value ∈ values, value < 64) ∧
    values.length + count = 4 ∧ lastBytes? values = some bytes ∧
    quad = values.map symbol ++ List.replicate count pad

theorem cases_lastBytes? {values : List Nat} {bytes : List UInt8}
    (h : lastBytes? values = some bytes) :
    (∃ a b, values = [a, b] ∧ b % 16 = 0 ∧ bytes = (bytesOfQuad a b 0 0).take 1) ∨
    (∃ a b c, values = [a, b, c] ∧ c % 4 = 0 ∧ bytes = (bytesOfQuad a b c 0).take 2) ∨
    ∃ a b c d, values = [a, b, c, d] ∧ bytes = bytesOfQuad a b c d := by
  unfold lastBytes? at h
  split at h
  · next a b =>
    split at h
    · next hunused =>
      cases h
      exact .inl ⟨a, b, rfl, hunused, rfl⟩
    · cases h
  · next a b c =>
    split at h
    · next hunused =>
      cases h
      exact .inr (.inl ⟨a, b, c, rfl, hunused, rfl⟩)
    · cases h
  · next a b c d =>
    cases h
    exact .inr (.inr ⟨a, b, c, d, rfl, rfl⟩)
  · cases h

theorem isLastQuad_of_lastQuad {offset : Nat} {quad bytes : List UInt8}
    (h : lastQuad offset quad = .ok bytes) : IsLastQuad quad bytes := by
  simp only [lastQuad, bind, Except.bind] at h
  split at h
  · cases h
  next values hvalues =>
  split at h
  · cases h
  next hpadding =>
  split at h
  · cases h
  next hcount =>
  split at h
  · cases h
  next hlength =>
  obtain ⟨hbits, hsymbols⟩ := symbolsFrom_eq_ok_iff.1 hvalues
  have hquad : quad = values.map symbol ++ quad.dropWhile (· ≠ pad) := by
    rw [← hsymbols, List.takeWhile_append_dropWhile]
  rw [hsymbols] at hpadding hcount
  generalize quad.dropWhile (· ≠ pad) = padding at hpadding hquad
  by_cases hempty : quad = []
  · obtain ⟨hnil, -⟩ := List.append_eq_nil_iff.1 (hquad.symm.trans hempty)
    rw [List.map_eq_nil_iff.1 hnil] at h
    cases h
    exact .inl ⟨hempty, rfl⟩
  · have hpads : padding = List.replicate padding.length pad := by
      refine List.eq_replicate_of_mem fun b hb => ?_
      have hne : padding ≠ [] := List.ne_nil_of_mem hb
      have hany := fun hother => hpadding ⟨hne, .inr (List.any_eq_true.2 ⟨b, hb, hother⟩)⟩
      simpa using hany
    have hfour : values.length + padding.length = 4 := by
      have hlen : quad.length = 4 := Decidable.byContradiction fun hne => hlength ⟨hempty, hne⟩
      rw [hquad] at hlen
      simpa using hlen
    have htwo : 2 ≤ values.length :=
      Nat.le_of_not_lt fun hlt => hcount ⟨hempty, by rwa [List.length_map]⟩
    rw [hpads] at hquad
    refine .inr ⟨values, padding.length, hbits, hfour, ?_, hquad⟩
    match values with
    | [a, b] =>
      dsimp only at h
      split at h
      · cases h
      · next hunused =>
        cases h
        exact if_pos (Decidable.not_not.1 hunused)
    | [a, b, c] =>
      dsimp only at h
      split at h
      · cases h
      · next hunused =>
        cases h
        exact if_pos (Decidable.not_not.1 hunused)
    | [a, b, c, d] =>
      cases h
      rfl
    | _ :: _ :: _ :: _ :: _ :: _ =>
      simp only [List.length_cons] at hfour
      omega

theorem takeWhile_append_replicate_pad {values : List Nat} (h : ∀ value ∈ values, value < 64)
    (count : Nat) :
    (values.map symbol ++ List.replicate count pad).takeWhile (· ≠ pad) = values.map symbol ∧
    (values.map symbol ++ List.replicate count pad).dropWhile (· ≠ pad) =
      List.replicate count pad := by
  have hsymbols : ∀ b ∈ values.map symbol, decide (b ≠ pad) = true := by
    intro b hb
    obtain ⟨value, hvalue, rfl⟩ := List.mem_map.1 hb
    exact decide_eq_true (symbol_ne_pad value (h value hvalue))
  rw [List.takeWhile_append_of_pos hsymbols, List.dropWhile_append_of_pos hsymbols]
  cases count with
  | zero => simp
  | succ count => simp [List.replicate_succ]

theorem lastQuad_of_isLastQuad {quad bytes : List UInt8} (h : IsLastQuad quad bytes)
    (offset : Nat) : lastQuad offset quad = .ok bytes := by
  rcases h with ⟨rfl, rfl⟩ | ⟨values, count, hbits, hfour, hbytes, rfl⟩
  · rfl
  · obtain ⟨hsymbols, hpadding⟩ := takeWhile_append_replicate_pad hbits count
    have hvalues : symbolsFrom offset (values.map symbol) = .ok values :=
      symbolsFrom_eq_ok_iff.2 ⟨hbits, rfl⟩
    have htwo : 2 ≤ values.length := by
      rcases cases_lastBytes? hbytes with ⟨a, b, rfl, -, -⟩ | ⟨a, b, c, rfl, -, -⟩ |
        ⟨a, b, c, d, rfl, -⟩
      · simp
      · simp
      · simp
    have hpads : ¬ (List.replicate count pad ≠ [] ∧ ((values.map symbol).length < 2 ∨
        ((List.replicate count pad).any fun b => decide (b ≠ pad)) = true)) := by
      rintro ⟨-, hshort | hother⟩
      · rw [List.length_map] at hshort
        omega
      · obtain ⟨b, hb, hne⟩ := List.any_eq_true.1 hother
        exact of_decide_eq_true hne (List.eq_of_mem_replicate hb)
    have hlength : ¬ (values.map symbol ++ List.replicate count pad ≠ [] ∧
        (values.map symbol ++ List.replicate count pad).length ≠ 4) := by
      simp [hfour]
    have hcount : ¬ (values.map symbol ++ List.replicate count pad ≠ [] ∧
        (values.map symbol).length < 2) := by
      rintro ⟨-, hshort⟩
      rw [List.length_map] at hshort
      omega
    simp only [lastQuad, hsymbols, hpadding, hvalues, bind, Except.bind, if_neg hpads,
      if_neg hcount, if_neg hlength]
    rcases cases_lastBytes? hbytes with ⟨a, b, rfl, hunused, rfl⟩ | ⟨a, b, c, rfl, hunused, rfl⟩ |
      ⟨a, b, c, d, rfl, rfl⟩
    · exact if_neg (not_not_intro hunused)
    · exact if_neg (not_not_intro hunused)
    · rfl

/-! ## Texts -/

theorem encode_of_isLastQuad {quad bytes : List UInt8} (h : IsLastQuad quad bytes) :
    quad = encode bytes := by
  rcases h with ⟨rfl, rfl⟩ | ⟨values, count, hbits, hfour, hbytes, rfl⟩
  · rfl
  · rcases cases_lastBytes? hbytes with ⟨a, b, rfl, hunused, rfl⟩ | ⟨a, b, c, rfl, hunused, rfl⟩ |
      ⟨a, b, c, d, rfl, rfl⟩
    · have hcount : count = 2 := by
        simp only [List.length_cons, List.length_nil] at hfour
        omega
      subst hcount
      simp only [List.forall_mem_cons] at hbits
      have hfirst : (a * 4 + b / 16) % 2 ^ 8 / 4 = a := by omega
      have hsecond : (a * 4 + b / 16) % 2 ^ 8 % 4 * 16 = b := by omega
      simp only [bytesOfQuad, List.take_succ_cons, List.take_zero, encode, UInt8.toNat_ofNat',
        hfirst, hsecond]
      rfl
    · have hcount : count = 1 := by
        simp only [List.length_cons, List.length_nil] at hfour
        omega
      subst hcount
      simp only [List.forall_mem_cons] at hbits
      have hfirst : (a * 4 + b / 16) % 2 ^ 8 / 4 = a := by omega
      have hsecond : (a * 4 + b / 16) % 2 ^ 8 % 4 * 16 +
          (b % 16 * 16 + c / 4) % 2 ^ 8 / 16 = b := by omega
      have hthird : (b % 16 * 16 + c / 4) % 2 ^ 8 % 16 * 4 = c := by omega
      simp only [bytesOfQuad, List.take_succ_cons, List.take_zero, encode, UInt8.toNat_ofNat',
        hfirst, hsecond, hthird]
      rfl
    · have hcount : count = 0 := by
        simp only [List.length_cons, List.length_nil] at hfour
        omega
      subst hcount
      simp only [List.forall_mem_cons] at hbits
      obtain ⟨ha, hb, hc, hd, -⟩ := hbits
      exact (encode_append_bytesOfQuad ha hb hc hd []).symm

/-- At most three bytes are encoded as a last quad. -/
theorem isLastQuad_encode {bytes : List UInt8} (h : bytes.length ≤ 3) :
    IsLastQuad (encode bytes) bytes := by
  match bytes with
  | [] => exact .inl ⟨rfl, rfl⟩
  | [a] =>
    have ha := UInt8.toNat_lt a
    have hbyte : a.toNat / 4 * 4 + a.toNat % 4 * 16 / 16 = a.toNat := by omega
    have hunused : a.toNat % 4 * 16 % 16 = 0 := by omega
    refine .inr ⟨[a.toNat / 4, a.toNat % 4 * 16], 2, ?_, rfl, ?_, rfl⟩
    · simp only [List.forall_mem_cons]
      exact ⟨by omega, by omega, nofun⟩
    · rw [lastBytes?, if_pos hunused, bytesOfQuad, hbyte, UInt8.ofNat_toNat]
      rfl
  | [a, b] =>
    have ha := UInt8.toNat_lt a
    have hb := UInt8.toNat_lt b
    have hfirst : a.toNat / 4 * 4 + (a.toNat % 4 * 16 + b.toNat / 16) / 16 = a.toNat := by omega
    have hsecond : (a.toNat % 4 * 16 + b.toNat / 16) % 16 * 16 + b.toNat % 16 * 4 / 4 =
        b.toNat := by omega
    have hunused : b.toNat % 16 * 4 % 4 = 0 := by omega
    refine .inr ⟨[a.toNat / 4, a.toNat % 4 * 16 + b.toNat / 16, b.toNat % 16 * 4], 1, ?_, rfl, ?_,
      rfl⟩
    · simp only [List.forall_mem_cons]
      exact ⟨by omega, by omega, by omega, nofun⟩
    · rw [lastBytes?, if_pos hunused, bytesOfQuad, hfirst, hsecond, UInt8.ofNat_toNat,
        UInt8.ofNat_toNat]
      rfl
  | [a, b, c] =>
    obtain ⟨va, vb, vc, vd, ha, hb, hc, hd, hbytes⟩ := exists_bytesOfQuad a b c
    rw [← hbytes]
    refine .inr ⟨[va, vb, vc, vd], 0, ?_, rfl, rfl, encode_append_bytesOfQuad ha hb hc hd []⟩
    simp only [List.forall_mem_cons]
    exact ⟨ha, hb, hc, hd, nofun⟩
  | _ :: _ :: _ :: _ :: _ =>
    simp only [List.length_cons] at h
    omega

theorem length_encode_mod (bytes : List UInt8) : (encode bytes).length % 4 = 0 := by
  fun_induction encode bytes with
  | case1 => rfl
  | case2 a => simp
  | case3 a b => simp
  | case4 a b c rest ih =>
    simp only [List.length_cons]
    omega

/-- A text that is read quad by quad is the encoding of what is read. -/
theorem eq_encode_of_quadsFrom {offset : Nat} {text bytes : List UInt8}
    (h : quadsFrom offset text = .ok bytes) : text = encode bytes := by
  fun_induction quadsFrom offset text generalizing bytes with
  | case1 offset a b c d e rest fault hsymbols => cases h
  | case2 offset a b c d e rest va vb vc vd hsymbols ih =>
    obtain ⟨others, hothers, rfl⟩ := map_eq_ok_iff.1 h
    obtain ⟨hbits, hquad⟩ := symbolsFrom_eq_ok_iff.1 hsymbols
    simp only [List.forall_mem_cons] at hbits
    obtain ⟨ha, hb, hc, hd, -⟩ := hbits
    rw [encode_append_bytesOfQuad ha hb hc hd, ← ih hothers]
    simpa using hquad
  | case3 offset a b c d e rest values hfour hsymbols =>
    -- Four symbols have four values, so the third branch is never taken.
    obtain ⟨-, hquad⟩ := symbolsFrom_eq_ok_iff.1 hsymbols
    match values with
    | [va, vb, vc, vd] => exact absurd rfl (hfour va vb vc vd)
    | [] | [_] | [_, _] | [_, _, _] | _ :: _ :: _ :: _ :: _ :: _ =>
      have hlength := congrArg List.length hquad
      simp at hlength
  | case4 offset quad hshort => exact encode_of_isLastQuad (isLastQuad_of_lastQuad h)

theorem quadsFrom_of_isLastQuad {quad bytes : List UInt8} (h : IsLastQuad quad bytes)
    (offset : Nat) : quadsFrom offset quad = .ok bytes := by
  have hlength : quad.length ≤ 4 := by
    rcases h with ⟨rfl, -⟩ | ⟨values, count, -, hfour, -, rfl⟩
    · simp
    · simp [hfour]
  rw [← lastQuad_of_isLastQuad h offset]
  unfold quadsFrom
  split
  · simp only [List.length_cons] at hlength
    omega
  · rfl

/-- The encoding of bytes is read as these bytes. -/
theorem quadsFrom_encode (bytes : List UInt8) (offset : Nat) :
    quadsFrom offset (encode bytes) = .ok bytes := by
  induction bytes using encode.induct generalizing offset with
  | case1 => rfl
  | case2 a => exact quadsFrom_of_isLastQuad (isLastQuad_encode (by simp)) offset
  | case3 a b => exact quadsFrom_of_isLastQuad (isLastQuad_encode (by simp)) offset
  | case4 a b c rest ih =>
    cases hrest : encode rest with
    | nil =>
      rw [hrest] at ih
      cases ih offset
      exact quadsFrom_of_isLastQuad (isLastQuad_encode (by simp)) offset
    | cons first others =>
      obtain ⟨va, vb, vc, vd, ha, hb, hc, hd, hbytes⟩ := exists_bytesOfQuad a b c
      have hencode := encode_append_bytesOfQuad ha hb hc hd rest
      have hsymbols : symbolsFrom offset ([va, vb, vc, vd].map symbol) = .ok [va, vb, vc, vd] := by
        refine symbolsFrom_eq_ok_iff.2 ⟨?_, rfl⟩
        simp only [List.forall_mem_cons]
        exact ⟨ha, hb, hc, hd, nofun⟩
      rw [hbytes, hrest] at hencode
      change quadsFrom offset (encode ([a, b, c] ++ rest)) = .ok ([a, b, c] ++ rest)
      rw [hencode, quadsFrom]
      simp only [List.map_cons, List.map_nil] at hsymbols
      rw [hsymbols, ← hrest]
      simp only [ih, hbytes]
      rfl

/-- Decoding gives bytes for their encoding and for no other text. -/
theorem decode_eq_ok_iff {text bytes : List UInt8} :
    decode text = .ok bytes ↔ text = encode bytes := by
  rw [decode]
  constructor
  · intro h
    split at h
    · cases h
    · exact eq_encode_of_quadsFrom h
  · rintro rfl
    have hstray : strayLast? (encode bytes) = none := by
      have hmod := length_encode_mod bytes
      unfold strayLast?
      split
      · exact if_neg fun hstray => by omega
      · rfl
    rw [hstray]
    exact quadsFrom_encode bytes 0

end Base64

end TableFeed
