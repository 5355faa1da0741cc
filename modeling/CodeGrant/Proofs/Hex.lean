import CodeGrant.Conditions

/-! # What random draws look like

Bytes are written in small hexadecimal digits and in nothing else, so identifiers,
secrets and codes have a form of their own (`Hex.IsDigits`). -/

namespace CodeGrant

namespace Hex

/-- The hexadecimal digits in small letters. -/
def smallDigits : List Char := "0123456789abcdef".toList

/-- The hexadecimal digits, in small letters and in capitals. -/
def allDigits : List Char := "0123456789abcdefABCDEF".toList

/-- Whether a text is made of so many small hexadecimal digits. -/
structure IsDigits (count : Nat) (text : String) : Prop where
  length : text.toList.length = count
  digits : ∀ c ∈ text.toList, c ∈ smallDigits

theorem digit_mem_smallDigits : ∀ n < 16, digit n ∈ smallDigits := by decide

theorem mem_smallDigits_of_mem_pair {b : UInt8} {c : Char} (h : c ∈ pair b) :
    c ∈ smallDigits := by
  have hb := b.toNat_lt
  rcases List.mem_cons.mp h with rfl | h
  · exact digit_mem_smallDigits _ (by omega)
  · rw [List.mem_singleton.mp h]
    exact digit_mem_smallDigits _ (by omega)

/-- **What is written in hexadecimal is made of small digits.** -/
theorem mem_smallDigits_of_mem_encode {bytes : Bytes} {c : Char} (h : c ∈ (encode bytes).toList) :
    c ∈ smallDigits := by
  rw [encode, String.toList_ofList] at h
  obtain ⟨b, -, hb⟩ := List.mem_flatMap.mp h
  exact mem_smallDigits_of_mem_pair hb

end Hex

namespace Draws

theorem isDigits_clientIdText (draws : Draws) : Hex.IsDigits 32 draws.clientIdText :=
  ⟨draws.length_clientIdText, fun _ => Hex.mem_smallDigits_of_mem_encode⟩

theorem isDigits_clientSecretText (draws : Draws) : Hex.IsDigits 64 draws.clientSecretText :=
  ⟨draws.length_clientSecretText, fun _ => Hex.mem_smallDigits_of_mem_encode⟩

theorem isDigits_codeText (draws : Draws) : Hex.IsDigits 64 draws.codeText :=
  ⟨draws.length_codeText, fun _ => Hex.mem_smallDigits_of_mem_encode⟩

end Draws

end CodeGrant
