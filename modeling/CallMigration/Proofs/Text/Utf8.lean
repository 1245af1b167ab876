import CallMigration.Text.Bytes

/-!
# The bytes of a text

A text is encoded character by character (`Text.toList_toUTF8`), into as many bytes as offsets count
(`Text.length_bytesOf`). Its ASCII bytes are its ASCII characters: no byte of a longer character is
one (`Text.mem_of_mem_bytesOf`).
-/

namespace CallMigration.Text

theorem byteArray_toList_loop (bytes : ByteArray) (i : Nat) (read : List UInt8) :
    ByteArray.toList.loop bytes i read = read.reverse ++ bytes.data.toList.drop i := by
  fun_induction ByteArray.toList.loop bytes i read with
  | case1 i read h ih =>
      have hnext : bytes.data.toList.drop i = bytes.get! i :: bytes.data.toList.drop (i + 1) := by
        rw [List.drop_eq_getElem_cons (by simpa using h)]
        simp [ByteArray.get!, h]
      rw [ih, hnext, List.reverse_cons, List.append_assoc, List.singleton_append]
  | case2 i read h =>
      have hread : bytes.data.toList.drop i = [] := by simpa using h
      rw [hread, List.append_nil]

theorem byteArray_toList (bytes : ByteArray) : bytes.toList = bytes.data.toList :=
  byteArray_toList_loop bytes 0 []

/-- The bytes of a text, one character after the other. -/
def bytesOf (text : List Char) : List UInt8 := text.flatMap String.utf8EncodeChar

theorem bytesOf_append (a b : List Char) : bytesOf (a ++ b) = bytesOf a ++ bytesOf b :=
  List.flatMap_append

/-- A text is encoded into as many bytes as offsets count. -/
theorem length_bytesOf (text : List Char) : (bytesOf text).length = byteLength text := by
  induction text with
  | nil => rfl
  | cons c text ih =>
      have hencoded : (String.utf8EncodeChar c).length = c.utf8Size := String.length_utf8EncodeChar c
      rw [bytesOf, List.flatMap_cons, List.length_append, hencoded, byteLength_cons, ← ih, bytesOf]

theorem toList_toUTF8 (text : String) : text.toUTF8.toList = bytesOf text.toList := by
  have hencoded : (String.ofList text.toList).toUTF8.toList = bytesOf text.toList := by
    rw [String.toUTF8_eq_toByteArray, String.toByteArray_ofList, byteArray_toList]
    exact List.toList_data_toByteArray
  rwa [String.ofList_toList] at hencoded

/-- An ASCII byte of a character is the character itself. -/
theorem eq_of_mem_utf8EncodeChar {c d : Char} (hd : d.toNat < 128)
    (h : UInt8.ofNat d.toNat ∈ String.utf8EncodeChar c) : c = d := by
  have hbyte : (UInt8.ofNat d.toNat).toNat = d.toNat := Nat.mod_eq_of_lt (by omega)
  have hsame : ∀ n, UInt8.ofNat d.toNat = UInt8.ofNat n → n % 256 = d.toNat := by
    intro n heq
    rw [heq] at hbyte
    exact hbyte
  suffices hval : c.val.toNat = d.val.toNat from Char.ext (UInt32.toNat_inj.mp hval)
  have hd' : d.val.toNat = d.toNat := rfl
  unfold String.utf8EncodeChar at h
  simp only at h
  -- Only the encoding of a character below 128 has a byte below 128.
  split at h
  · have := hsame _ (List.mem_singleton.mp h)
    omega
  · split at h
    · simp only [List.mem_cons, List.not_mem_nil, or_false] at h
      rcases h with h | h <;> have := hsame _ h <;> omega
    · split at h
      · simp only [List.mem_cons, List.not_mem_nil, or_false] at h
        rcases h with h | h | h <;> have := hsame _ h <;> omega
      · simp only [List.mem_cons, List.not_mem_nil, or_false] at h
        rcases h with h | h | h | h <;> have := hsame _ h <;> omega

theorem mem_of_mem_bytesOf {text : List Char} {d : Char} (hd : d.toNat < 128)
    (h : UInt8.ofNat d.toNat ∈ bytesOf text) : d ∈ text := by
  obtain ⟨c, hc, hbyte⟩ := List.mem_flatMap.mp h
  rw [← eq_of_mem_utf8EncodeChar hd hbyte]
  exact hc

theorem head?_of_head?_bytesOf {text : List Char} {d : Char} (hd : d.toNat < 128)
    (h : (bytesOf text).head? = some (UInt8.ofNat d.toNat)) : text.head? = some d := by
  cases text with
  | nil => cases h
  | cons c rest =>
      cases hencoded : String.utf8EncodeChar c with
      | nil => exact absurd hencoded String.utf8EncodeChar_ne_nil
      | cons b bytes =>
          rw [bytesOf, List.flatMap_cons, hencoded] at h
          have hmem : UInt8.ofNat d.toNat ∈ String.utf8EncodeChar c := by
            rw [hencoded, ← Option.some.inj h]
            exact List.mem_cons_self
          rw [eq_of_mem_utf8EncodeChar hd hmem]
          rfl

end CallMigration.Text
