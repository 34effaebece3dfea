import TableFeed.Text.Utf8

/-!
# Characters as bytes

A text is encoded character by character (`Utf8.encode_ofList`), texts with the same bytes are the
same (`Utf8.encode_inj`), and a character below 128 is one byte of its own number.
-/

namespace TableFeed.Text.Utf8

theorem toList_loop (bytes : ByteArray) (i : Nat) (done : List UInt8) :
    ByteArray.toList.loop bytes i done = done.reverse ++ bytes.data.toList.drop i := by
  fun_induction ByteArray.toList.loop bytes i done with
  | case1 i done h ih =>
    have hlt : i < bytes.data.toList.length := h
    have hget : bytes.get! i = bytes.data.toList[i] := by
      rw [ByteArray.get!, getElem!_pos bytes.data i hlt, Array.getElem_toList]
    rw [ih, List.drop_eq_getElem_cons hlt, List.reverse_cons, List.append_assoc, hget]
    rfl
  | case2 i done h =>
    rw [List.drop_of_length_le (by simpa using h), List.append_nil]

theorem encode_eq_toList (text : String) : encode text = text.toByteArray.data.toList := by
  rw [encode, ByteArray.toList, toList_loop]
  rfl

/-- A text is encoded character by character. -/
theorem encode_ofList (cs : List Char) :
    encode (String.ofList cs) = cs.flatMap String.utf8EncodeChar := by
  rw [encode_eq_toList, String.toByteArray_ofList, List.utf8Encode, List.data_toByteArray]

theorem encode_inj {text text' : String} (h : encode text = encode text') : text = text' := by
  rw [encode_eq_toList, encode_eq_toList] at h
  exact String.toByteArray_inj.1 (ByteArray.ext (Array.toList_inj.1 h))

theorem utf8EncodeChar_ofNat {n : Nat} (h : n < 128) :
    String.utf8EncodeChar (Char.ofNat n) = [UInt8.ofNat n] := by
  have hall : ∀ n < 128, String.utf8EncodeChar (Char.ofNat n) = [UInt8.ofNat n] := by
    decide +kernel
  exact hall n h

theorem utf8EncodeChar_of_lt {c : Char} (h : c.toNat < 128) :
    String.utf8EncodeChar c = [UInt8.ofNat c.toNat] := by
  rw [← utf8EncodeChar_ofNat h, Char.ofNat_toNat]

end TableFeed.Text.Utf8
