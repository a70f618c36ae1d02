import Mathlib.Data.List.Basic
import ScriptedShell.Text.Utf16

/-!
Texts as scripts hold them. Every text is read back from its 16-bit units, so no two texts have the same
units.
-/

namespace ScriptedShell.Utf16

theorem decodePrefix_single {unit : UInt16} (leading : isLeading unit = false)
    (trailing : isTrailing unit = false) (rest : Units) :
    decodePrefix (unit :: rest) =
      (Char.ofNat unit.toNat :: (decodePrefix rest).1, (decodePrefix rest).2) := by
  cases rest with
  | nil => simp [decodePrefix, leading, trailing]
  | cons next rest => simp [decodePrefix, leading, trailing]

theorem decodePrefix_pair {unit next : UInt16} (leading : isLeading unit = true)
    (trailing : isTrailing next = true) (rest : Units) :
    decodePrefix (unit :: next :: rest) =
      (pairValue unit next :: (decodePrefix rest).1, (decodePrefix rest).2) := by
  simp [decodePrefix, leading, trailing]

theorem toNat_ofNat {number : Nat} (small : number < supplementary) :
    (UInt16.ofNat number).toNat = number := by
  rw [UInt16.toNat_ofNat']
  exact Nat.mod_eq_of_lt small

theorem decodePrefix_encodeChar (character : Char) (rest : Units) :
    decodePrefix (encodeChar character ++ rest) =
      (character :: (decodePrefix rest).1, (decodePrefix rest).2) := by
  have valid : character.toNat < 0xD800 ∨
      0xDFFF < character.toNat ∧ character.toNat < 0x110000 := character.valid
  have large : supplementary = 0x10000 := rfl
  have whole := Char.ofNat_toNat character
  unfold encodeChar
  by_cases small : character.toNat < supplementary
  · have same := toNat_ofNat small
    have leading : isLeading (UInt16.ofNat character.toNat) = false := by
      simp only [isLeading, same, Bool.and_eq_false_iff, decide_eq_false_iff_not]
      omega
    have trailing : isTrailing (UInt16.ofNat character.toNat) = false := by
      simp only [isTrailing, same, Bool.and_eq_false_iff, decide_eq_false_iff_not]
      omega
    have single := decodePrefix_single leading trailing rest
    rw [same, whole] at single
    simp only [small, if_true]
    exact single
  · let offset := character.toNat - supplementary
    have high : (UInt16.ofNat (0xD800 + offset / 1024)).toNat = 0xD800 + offset / 1024 :=
      toNat_ofNat (by omega)
    have low : (UInt16.ofNat (0xDC00 + offset % 1024)).toNat = 0xDC00 + offset % 1024 :=
      toNat_ofNat (by omega)
    have leading : isLeading (UInt16.ofNat (0xD800 + offset / 1024)) = true := by
      simp only [isLeading, high, Bool.and_eq_true, decide_eq_true_eq]
      omega
    have trailing : isTrailing (UInt16.ofNat (0xDC00 + offset % 1024)) = true := by
      simp only [isTrailing, low, Bool.and_eq_true, decide_eq_true_eq]
      omega
    have pair := decodePrefix_pair leading trailing rest
    have sum : supplementary + (0xD800 + offset / 1024 - 0xD800) * 1024 +
        (0xDC00 + offset % 1024 - 0xDC00) = character.toNat := by
      omega
    rw [pairValue, high, low, sum, whole] at pair
    simp only [small, if_false]
    exact pair

theorem decodePrefix_encode (characters : List Char) :
    decodePrefix (characters.flatMap encodeChar) = (characters, []) := by
  induction characters with
  | nil => rfl
  | cons first rest ih => rw [List.flatMap_cons, decodePrefix_encodeChar, ih]

theorem decode_encode (text : String) : decode (encode text) = .ok text := by
  rw [decode, encode, decodePrefix_encode]
  exact congrArg Except.ok String.ofList_toList

theorem encode_injective {left right : String} (same : encode left = encode right) : left = right := by
  have decoded := congrArg decode same
  rw [decode_encode, decode_encode] at decoded
  exact Except.ok.inj decoded
end ScriptedShell.Utf16
