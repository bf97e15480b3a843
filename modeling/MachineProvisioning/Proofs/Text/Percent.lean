import MachineProvisioning.Text.Numeral
import MachineProvisioning.Text.Percent
import Mathlib.Logic.Function.Basic

/-! # Percent-encoded text that is read back

A percent-encoded text stands for bytes, and these for a text in UTF-8. Whatever is encoded is read back
as it was, and none of what is written marks a place in a path or a query.
-/

namespace MachineProvisioning.Text

/-- The bytes that a percent-encoded text stands for. A percent sign without two hexadecimal digits
    stands for itself, and so does every other character. -/
def percentBytes : List Char → List UInt8
  | '%' :: a :: b :: rest =>
      match readHex? [a, b] with
      | some byte => UInt8.ofNat byte :: percentBytes rest
      | none => String.utf8EncodeChar '%' ++ percentBytes (a :: b :: rest)
  | c :: rest => String.utf8EncodeChar c ++ percentBytes rest
  | [] => []

/-- The text that a percent-encoded text stands for, if its bytes are those of one. -/
def percentDecode? (s : String) : Option String :=
  String.fromUTF8? (percentBytes s.toList).toByteArray

variable {c : Char} {b n : Nat} {cs rest : List Char}

/-- A character has the bytes of UTF-8. -/
theorem map_utf8Char (c : Char) : (utf8Char c).map UInt8.ofNat = String.utf8EncodeChar c := by
  have scalar : c.val.toNat < 0x110000 := by
    have valid := c.valid
    simp only [UInt32.isValidChar, Nat.isValidChar] at valid
    omega
  unfold utf8Char String.utf8EncodeChar Char.toNat
  generalize c.val.toNat = n at scalar
  dsimp only
  -- One case per number of bytes. The bits to which a first byte is cut are all that there are.
  by_cases one : n < 0x80
  · have least : n ≤ 0x7F := by omega
    simp [one, least]
  by_cases two : n < 0x800
  · have least : ¬n ≤ 0x7F ∧ n ≤ 0x7FF := by omega
    have whole : n / 64 % 32 = n / 64 := by omega
    simp [one, two, least, whole, Nat.add_comm]
  by_cases three : n < 0x10000
  · have least : ¬n ≤ 0x7F ∧ ¬n ≤ 0x7FF ∧ n ≤ 0xFFFF := by omega
    have whole : n / 4096 % 16 = n / 4096 := by omega
    simp [one, two, three, least, whole, Nat.add_comm]
  · have least : ¬n ≤ 0x7F ∧ ¬n ≤ 0x7FF ∧ ¬n ≤ 0xFFFF := by omega
    have whole : n / 262144 % 8 = n / 262144 := by omega
    simp [one, two, three, least, whole, Nat.add_comm]

theorem hexValue?_upperHexDigit : ∀ n < 16, hexValue? (upperHexDigit n) = some n := by decide

theorem percentBytes_plain (plain : c ≠ '%') :
    percentBytes (c :: rest) = String.utf8EncodeChar c ++ percentBytes rest := by
  rw [percentBytes]
  simp [plain]

theorem percentBytes_percentByte (small : b < 256) :
    percentBytes (percentByte b ++ rest) = UInt8.ofNat b :: percentBytes rest := by
  have high := hexValue?_upperHexDigit (b / 16) (by omega)
  have low := hexValue?_upperHexDigit (b % 16) (by omega)
  have reads : readHex? [upperHexDigit (b / 16), upperHexDigit (b % 16)] = some b := by
    simp [readHex?, readDigits, high, low]
    omega
  simp [percentByte, percentBytes, reads]

theorem percentBytes_percentBytes {bytes : List Nat} (small : ∀ b ∈ bytes, b < 256) :
    percentBytes (bytes.flatMap percentByte ++ rest) = bytes.map UInt8.ofNat ++ percentBytes rest := by
  induction bytes with
  | nil => rfl
  | cons b bytes ih =>
      rw [List.flatMap_cons, List.append_assoc, percentBytes_percentByte (small b (.head _)),
        ih fun other mem => small other (.tail _ mem)]
      rfl

/-- Every character is read as its bytes, whatever comes next. -/
theorem percentBytes_percentChar (c : Char) (rest : List Char) :
    percentBytes (percentChar c ++ rest) = String.utf8EncodeChar c ++ percentBytes rest := by
  unfold percentChar
  split
  · next unreserved =>
      refine percentBytes_plain ?_
      rintro rfl
      exact absurd unreserved (by decide)
  · rw [percentBytes_percentBytes (utf8Char_lt c), map_utf8Char]

theorem percentBytes_flatMap (cs : List Char) :
    percentBytes (cs.flatMap percentChar) = cs.flatMap String.utf8EncodeChar := by
  induction cs with
  | nil => rfl
  | cons c cs ih => rw [List.flatMap_cons, percentBytes_percentChar, ih, List.flatMap_cons]

/-- What is encoded is read back. -/
theorem percentDecode?_percentEncode (s : String) : percentDecode? (percentEncode s) = some s := by
  have bytes : (percentBytes (percentEncode s).toList).toByteArray = s.toByteArray := by
    calc (percentBytes (percentEncode s).toList).toByteArray
        = (s.toList.flatMap String.utf8EncodeChar).toByteArray := by
          rw [percentEncode, String.toList_ofList, percentBytes_flatMap]
      _ = (String.ofList s.toList).toByteArray := String.toByteArray_ofList.symm
      _ = s.toByteArray := by rw [String.ofList_toList]
  unfold percentDecode? String.fromUTF8?
  rw [bytes, dif_pos s.isValidUTF8]
  rfl

theorem percentEncode_injective : Function.Injective percentEncode := by
  intro s t same
  have reads := percentDecode?_percentEncode s
  rw [same, percentDecode?_percentEncode t] at reads
  exact (Option.some.inj reads).symm

theorem isUnreserved_upperHexDigit : ∀ n < 16, isUnreserved (upperHexDigit n) = true := by decide

/-- What is written of a text is unreserved, but for the percent signs. -/
theorem unreserved_of_mem_percentEncode {s : String} (mem : c ∈ (percentEncode s).toList) :
    c = '%' ∨ isUnreserved c = true := by
  rw [percentEncode, String.toList_ofList] at mem
  obtain ⟨d, -, mem⟩ := List.mem_flatMap.mp mem
  unfold percentChar at mem
  split at mem
  · next unreserved =>
      obtain rfl := List.mem_singleton.mp mem
      exact .inr unreserved
  · obtain ⟨b, byte, mem⟩ := List.mem_flatMap.mp mem
    have small := utf8Char_lt d b byte
    simp only [percentByte, List.mem_cons, List.not_mem_nil, or_false] at mem
    rcases mem with rfl | rfl | rfl
    · exact .inl rfl
    · exact .inr (isUnreserved_upperHexDigit _ (by omega))
    · exact .inr (isUnreserved_upperHexDigit _ (by omega))

/-- A character that is reserved for marking places is in no encoded text. -/
theorem not_mem_percentEncode (s : String) (reserved : isUnreserved c = false) (sign : c ≠ '%') :
    c ∉ (percentEncode s).toList := by
  intro mem
  rcases unreserved_of_mem_percentEncode mem with same | unreserved
  · exact sign same
  · rw [reserved] at unreserved
    cases unreserved

end MachineProvisioning.Text
