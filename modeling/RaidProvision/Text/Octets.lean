/-!
# Texts of octets

Files and programs deal in bytes. A text of octets is a string whose characters are bytes, each of
them the character with its number; other texts become octets by UTF-8.

* `bytes_octets`: the bytes of the octets of a text are its UTF-8.
* `bytes_ofBytes`: bytes are kept.
* `ofOctets?_octets`: what was written in UTF-8 is read again.
-/
namespace RaidProvision.Text

/-- The text of octets that some bytes are. -/
def ofBytes (bytes : List UInt8) : String := String.ofList (bytes.map fun b => Char.ofNat b.toNat)

/-- The bytes that a text of octets stands for. -/
def bytes (s : String) : List UInt8 := s.toList.map fun c => UInt8.ofNat c.toNat

/-- A text in UTF-8. -/
def octets (s : String) : String := ofBytes s.toUTF8.toList

/-- The text that is written in UTF-8, if it is one. -/
def ofOctets? (s : String) : Option String := String.fromUTF8? ⟨(bytes s).toArray⟩

theorem toNat_ofNat_byte (b : UInt8) : UInt8.ofNat (Char.ofNat b.toNat).toNat = b := by
  have hb : b.toNat < 256 := b.toNat_lt
  have hv : b.toNat.isValidChar := Or.inl (by omega)
  rw [Char.ofNat, dif_pos hv]
  exact UInt8.ofNat_toNat

@[simp]
theorem bytes_ofBytes (bs : List UInt8) : bytes (ofBytes bs) = bs := by
  induction bs with
  | nil => rfl
  | cons b bs ih =>
    simp only [bytes, ofBytes, String.toList_ofList, List.map_cons, List.cons.injEq] at ih ⊢
    exact ⟨toNat_ofNat_byte b, ih⟩

theorem bytes_octets (s : String) : bytes (octets s) = s.toUTF8.toList := by
  simp [octets]

theorem toList_loop (bs : ByteArray) (i : Nat) (read : List UInt8) :
    ByteArray.toList.loop bs i read = read.reverse ++ bs.data.toList.drop i := by
  induction h : bs.size - i generalizing i read with
  | zero =>
    have hi : bs.data.toList.length ≤ i := by
      rw [Array.length_toList]
      change bs.size ≤ i
      omega
    rw [ByteArray.toList.loop, if_neg (by omega), List.drop_eq_nil_of_le hi, List.append_nil]
  | succ n ih =>
    have hi : i < bs.data.toList.length := by
      rw [Array.length_toList]
      change i < bs.size
      omega
    have hget : bs.get! i = bs.data.toList[i] := by
      rw [Array.length_toList] at hi
      exact getElem!_pos bs.data i hi
    rw [ByteArray.toList.loop, if_pos (by omega), ih (i + 1) _ (by omega), hget,
      List.drop_eq_getElem_cons hi, List.reverse_cons, List.append_assoc, List.singleton_append]

theorem toArray_toList (bs : ByteArray) : (⟨bs.toList.toArray⟩ : ByteArray) = bs := by
  rw [ByteArray.toList, toList_loop]
  simp

@[simp]
theorem ofOctets?_octets (s : String) : ofOctets? (octets s) = some s := by
  rw [ofOctets?, bytes_octets, toArray_toList]
  exact dif_pos s.isValidUTF8

end RaidProvision.Text
