namespace StackLanguage

/-! Decimal digits of all scripts. Unicode places the ten digits of a script one after
another, so a table of the zeros is enough. -/

def zeroDigitCodes : List Nat := [
  0x30, 0x660, 0x6f0, 0x7c0, 0x966, 0x9e6, 0xa66, 0xae6, 0xb66, 0xbe6, 0xc66, 0xce6,
  0xd66, 0xde6, 0xe50, 0xed0, 0xf20, 0x1040, 0x1090, 0x17e0, 0x1810, 0x1946, 0x19d0,
  0x1a80, 0x1a90, 0x1b50, 0x1bb0, 0x1c40, 0x1c50, 0xa620, 0xa8d0, 0xa900, 0xa9d0, 0xa9f0,
  0xaa50, 0xabf0, 0xff10, 0x104a0, 0x10d30, 0x11066, 0x110f0, 0x11136, 0x111d0, 0x112f0,
  0x11450, 0x114d0, 0x11650, 0x116c0, 0x11730, 0x118e0, 0x11950, 0x11c50, 0x11d50,
  0x11da0, 0x16a60, 0x16ac0, 0x16b50, 0x1d7ce, 0x1d7d8, 0x1d7e2, 0x1d7ec, 0x1d7f6,
  0x1e140, 0x1e2f0, 0x1e950, 0x1fbf0]

def decimalDigit? (character : Char) : Option Nat :=
  (zeroDigitCodes.find? fun first =>
      decide (first ≤ character.toNat) && decide (character.toNat < first + 10)).map
    fun first => character.toNat - first

theorem decimalDigit?_lt_ten {character : Char} {value : Nat}
    (found : decimalDigit? character = some value) : value < 10 := by
  simp only [decimalDigit?, Option.map_eq_some_iff] at found
  obtain ⟨first, member, rfl⟩ := found
  have holds := List.find?_some member
  simp at holds
  omega

end StackLanguage
