import TableFeed.Text.Digits

/-!
# Base64 text

`Base64.decode` reads the standard alphabet with its canonical padding.  The text
is cut into quads of four symbols; the last quad holds one to four of them and is
the only one that may be padded.  A fault names the first thing that is wrong in
a fixed order: a stray last byte, a symbol of an earlier quad, a symbol or sign of
padding in the last quad, its length, its padding, its unused bits.
-/

namespace TableFeed.Base64

/-- Why a text is not base64. -/
inductive Fault where
  /-- A byte at `offset` that cannot stand there. -/
  | invalidSymbol (byte : UInt8) (offset : Nat)
  /-- The last quad has one symbol only. -/
  | invalidLength (length : Nat)
  /-- The last quad is not filled up with padding, or is filled too far. -/
  | invalidPadding
  /-- The last symbol carries bits that belong to no byte. -/
  | invalidLastSymbol (byte : UInt8) (offset : Nat)
deriving DecidableEq, Repr

/-- The wording of a fault. -/
def Fault.message : Fault → String
  | .invalidSymbol byte offset =>
    "Invalid symbol " ++ Text.natText byte.toNat ++ ", offset " ++ Text.natText offset ++ "."
  | .invalidLength length => "Invalid input length: " ++ Text.natText length
  | .invalidPadding => "Invalid padding"
  | .invalidLastSymbol byte offset =>
    "Invalid last symbol " ++ Text.natText byte.toNat ++ ", offset " ++ Text.natText offset ++ "."

/-- The sign of padding. -/
def pad : UInt8 := 61

/-- The six bits that a symbol stands for. -/
def symbolValue? (b : UInt8) : Option Nat :=
  if 65 ≤ b ∧ b ≤ 90 then some (b.toNat - 65)
  else if 97 ≤ b ∧ b ≤ 122 then some (b.toNat - 97 + 26)
  else if 48 ≤ b ∧ b ≤ 57 then some (b.toNat - 48 + 52)
  else if b = 43 then some 62
  else if b = 47 then some 63
  else none

/-- The six bits of the symbol at an offset. -/
def symbolAt (offset : Nat) (b : UInt8) : Except Fault Nat :=
  match symbolValue? b with
  | some value => .ok value
  | none => .error (.invalidSymbol b offset)

/-- The three bytes of four symbols. -/
def bytesOfQuad (a b c d : Nat) : List UInt8 :=
  [UInt8.ofNat (a * 4 + b / 16), UInt8.ofNat (b % 16 * 16 + c / 4), UInt8.ofNat (c % 4 * 64 + d)]

/-- The values of symbols from an offset on. -/
def symbolsFrom (offset : Nat) : List UInt8 → Except Fault (List Nat)
  | [] => .ok []
  | b :: rest =>
    match symbolAt offset b with
    | .error fault => .error fault
    | .ok value => (symbolsFrom (offset + 1) rest).map (value :: ·)

/-- The bytes of the last quad, which begins at `offset`. -/
def lastQuad (offset : Nat) (quad : List UInt8) : Except Fault (List UInt8) := do
  let symbols := quad.takeWhile (· ≠ pad)
  let padding := quad.dropWhile (· ≠ pad)
  let values ← symbolsFrom offset symbols
  let count := symbols.length
  if padding ≠ [] ∧ (count < 2 ∨ padding.any (· ≠ pad)) then
    throw (.invalidSymbol pad (offset + count))
  if quad ≠ [] ∧ count < 2 then
    throw (.invalidLength (offset + count))
  if quad ≠ [] ∧ quad.length ≠ 4 then
    throw .invalidPadding
  let lastSymbol := Fault.invalidLastSymbol (symbols.getLast?.getD pad) (offset + count - 1)
  match values with
  | [a, b] =>
    if b % 16 ≠ 0 then throw lastSymbol
    return (bytesOfQuad a b 0 0).take 1
  | [a, b, c] =>
    if c % 4 ≠ 0 then throw lastSymbol
    return (bytesOfQuad a b c 0).take 2
  | [a, b, c, d] => return bytesOfQuad a b c d
  | _ => return []

/-- The bytes of the quads from an offset on. -/
def quadsFrom (offset : Nat) : List UInt8 → Except Fault (List UInt8)
  | a :: b :: c :: d :: e :: rest =>
    match symbolsFrom offset [a, b, c, d] with
    | .error fault => .error fault
    | .ok [va, vb, vc, vd] =>
      (quadsFrom (offset + 4) (e :: rest)).map (bytesOfQuad va vb vc vd ++ ·)
    | .ok _ => .ok []
  | quad => lastQuad offset quad

/-- A last byte that is alone in its quad and in no alphabet. -/
def strayLast? (bytes : List UInt8) : Option Fault :=
  match bytes.getLast? with
  | some last =>
    if bytes.length % 4 = 1 ∧ last ≠ pad ∧ symbolValue? last = none then
      some (.invalidSymbol last (bytes.length - 1))
    else none
  | none => none

/-- The bytes that a base64 text stands for. -/
def decode (bytes : List UInt8) : Except Fault (List UInt8) :=
  match strayLast? bytes with
  | some fault => .error fault
  | none => quadsFrom 0 bytes

end TableFeed.Base64
