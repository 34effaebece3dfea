import TableFeed.Text.Digits

/-!
# Characters from bytes

`Utf8.decode` reads bytes as characters.  Of bytes that are no text it tells the
index of the first sequence at fault and how long that sequence is: the longest
start of a well-formed sequence, or one byte when no sequence starts so.  A
sequence that only the end of the bytes cuts short is reported as incomplete.
-/

namespace TableFeed.Text.Utf8

/-- Why bytes are no text. -/
inductive Fault where
  /-- The sequence at `index` is cut short by the end of the bytes. -/
  | incomplete (index : Nat)
  /-- The `length` bytes at `index` belong to no well-formed sequence. -/
  | invalid (index length : Nat)
deriving DecidableEq, Repr

/-- The wording of a fault. -/
def Fault.message : Fault → String
  | .incomplete index => "incomplete utf-8 byte sequence from index " ++ natText index
  | .invalid index length =>
    "invalid utf-8 sequence of " ++ natText length ++ " bytes from index " ++ natText index

/-- Whether a byte continues a sequence. -/
def isTrail (b : UInt8) : Bool :=
  0x80 ≤ b && b ≤ 0xBF

/-- Whether `second` may follow the first byte of a sequence of three. -/
def startsThree (first second : UInt8) : Bool :=
  if first = 0xE0 then 0xA0 ≤ second && second ≤ 0xBF
  else if first = 0xED then 0x80 ≤ second && second ≤ 0x9F
  else isTrail second

/-- Whether `second` may follow the first byte of a sequence of four. -/
def startsFour (first second : UInt8) : Bool :=
  if first = 0xF0 then 0x90 ≤ second && second ≤ 0xBF
  else if first = 0xF4 then 0x80 ≤ second && second ≤ 0x8F
  else isTrail second

/-- The six low bits that a byte adds to a code point. -/
def low (b : UInt8) : Nat :=
  b.toNat % 64

/-- Reads on from `index`; `done` holds the characters read so far, last first. -/
def decodeFrom (index : Nat) (done : List Char) : List UInt8 → Except Fault (List Char)
  | [] => .ok done.reverse
  | first :: rest =>
    if first < 0x80 then decodeFrom (index + 1) (Char.ofNat first.toNat :: done) rest
    else if 0xC2 ≤ first ∧ first ≤ 0xDF then
      match rest with
      | [] => .error (.incomplete index)
      | second :: rest =>
        if isTrail second then
          decodeFrom (index + 2) (Char.ofNat (first.toNat % 32 * 64 + low second) :: done) rest
        else .error (.invalid index 1)
    else if 0xE0 ≤ first ∧ first ≤ 0xEF then
      match rest with
      | [] => .error (.incomplete index)
      | second :: rest =>
        if startsThree first second then
          match rest with
          | [] => .error (.incomplete index)
          | third :: rest =>
            if isTrail third then
              decodeFrom (index + 3)
                (Char.ofNat ((first.toNat % 16 * 64 + low second) * 64 + low third) :: done) rest
            else .error (.invalid index 2)
        else .error (.invalid index 1)
    else if 0xF0 ≤ first ∧ first ≤ 0xF4 then
      match rest with
      | [] => .error (.incomplete index)
      | second :: rest =>
        if startsFour first second then
          match rest with
          | [] => .error (.incomplete index)
          | third :: rest =>
            if isTrail third then
              match rest with
              | [] => .error (.incomplete index)
              | fourth :: rest =>
                if isTrail fourth then
                  decodeFrom (index + 4)
                    (Char.ofNat (((first.toNat % 8 * 64 + low second) * 64 + low third) * 64
                      + low fourth) :: done) rest
                else .error (.invalid index 3)
            else .error (.invalid index 2)
        else .error (.invalid index 1)
    else .error (.invalid index 1)

/-- The characters that bytes hold, or the first fault in them. -/
def decode (bytes : List UInt8) : Except Fault (List Char) :=
  decodeFrom 0 [] bytes

/-- The text that bytes hold, or the first fault in them. -/
def decodeText (bytes : List UInt8) : Except Fault String :=
  (decode bytes).map String.ofList

/-- The bytes of a text. -/
def encode (text : String) : List UInt8 :=
  text.toUTF8.toList

end TableFeed.Text.Utf8
