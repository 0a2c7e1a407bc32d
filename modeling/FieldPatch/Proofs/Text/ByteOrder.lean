import Mathlib.Data.List.Lex
import Mathlib.Data.String.Basic

/-!
# The order of bytes

Texts are compared character by character, and this is the order of their bytes in UTF-8.

* `Text.utf8`: the bytes of a text;
* `Text.utf8EncodeChar_append_lt`: the bytes of the smaller character are smaller, whatever follows;
* `Text.utf8_lt_utf8_iff`: the same for texts, in both directions.
-/

namespace FieldPatch
namespace Text

/-! ## Bytes as numbers -/

theorem ofNat_lt_ofNat_iff {m n : Nat} (hm : m < 256) (hn : n < 256) :
    UInt8.ofNat m < UInt8.ofNat n ↔ m < n := by
  have hbyte (i : Nat) (hi : i < 256) : (UInt8.ofNat i).toNat = i := UInt8.toNat_ofNat_of_lt' hi
  simp [UInt8.lt_iff_toNat_lt, hbyte m hm, hbyte n hn]

theorem ofNat_eq_ofNat_iff {m n : Nat} (hm : m < 256) (hn : n < 256) :
    UInt8.ofNat m = UInt8.ofNat n ↔ m = n := by
  have hbyte (i : Nat) (hi : i < 256) : (UInt8.ofNat i).toNat = i := UInt8.toNat_ofNat_of_lt' hi
  simp [← UInt8.toNat_inj, hbyte m hm, hbyte n hn]

/-! ## Characters -/

/-- Neither of two characters is the beginning of the other one in bytes, so that what follows them
does not matter. -/
theorem utf8EncodeChar_append_lt {c d : Char} (h : c < d) (rest rest' : List UInt8) :
    String.utf8EncodeChar c ++ rest < String.utf8EncodeChar d ++ rest' := by
  have hlt : c.val.toNat < d.val.toNat := h
  have hd : d.val.toNat < 0x110000 := by
    have hvalid : d.val.toNat.isValidChar := d.valid
    rcases hvalid with hlow | ⟨_, hhigh⟩
    · omega
    · omega
  simp only [String.utf8EncodeChar]
  generalize c.val.toNat = m at *
  generalize d.val.toNat = n at *
  -- the bytes are made of the digits to base 64
  have hm₁ : m / 64 / 64 = m / 4096 := Nat.div_div_eq_div_mul m 64 64
  have hm₂ : m / 4096 / 64 = m / 262144 := Nat.div_div_eq_div_mul m 4096 64
  have hm₃ : m / 262144 % 8 = m / 262144 := Nat.mod_eq_of_lt (by omega)
  have hn₁ : n / 64 / 64 = n / 4096 := Nat.div_div_eq_div_mul n 64 64
  have hn₂ : n / 4096 / 64 = n / 262144 := Nat.div_div_eq_div_mul n 4096 64
  have hn₃ : n / 262144 % 8 = n / 262144 := Nat.mod_eq_of_lt (by omega)
  -- with different numbers of bytes the first bytes differ, and else the first different digits
  split_ifs <;>
    simp (disch := omega) only [List.cons_append, List.cons_lt_cons_iff, ofNat_lt_ofNat_iff,
      ofNat_eq_ofNat_iff] <;>
    omega

/-! ## Texts -/

theorem flatMap_utf8EncodeChar_lt {cs ds : List Char} (h : cs < ds) :
    cs.flatMap String.utf8EncodeChar < ds.flatMap String.utf8EncodeChar := by
  induction h with
  | @nil d ds =>
    have hlength : 0 < (String.utf8EncodeChar d).length := by
      simpa using d.utf8Size_pos
    rcases List.exists_cons_of_length_pos hlength with ⟨byte, rest, hbytes⟩
    simp [hbytes]
  | cons h ih => exact List.append_left_lt ih
  | rel h => exact utf8EncodeChar_append_lt h _ _

/-- The bytes of a text in UTF-8. -/
def utf8 (s : String) : List UInt8 :=
  s.toUTF8.data.toList

theorem utf8_eq (s : String) : utf8 s = s.toList.flatMap String.utf8EncodeChar := by
  have hbytes : s.toByteArray = s.toList.utf8Encode := by
    simp
  calc
    utf8 s = s.toList.utf8Encode.data.toList :=
      congrArg (fun bytes => bytes.data.toList) hbytes
    _ = s.toList.flatMap String.utf8EncodeChar := List.toList_data_toByteArray

/-- Texts are ordered as their bytes are. -/
theorem utf8_lt_utf8_iff {s t : String} : utf8 s < utf8 t ↔ s < t := by
  simp only [utf8_eq, String.lt_iff_toList_lt]
  constructor
  · intro h
    rcases lt_trichotomy s.toList t.toList with hlt | heq | hgt
    · exact hlt
    · rw [heq] at h
      exact absurd h (List.lt_irrefl _)
    · exact absurd h (List.lt_asymm (flatMap_utf8EncodeChar_lt hgt))
  · exact flatMap_utf8EncodeChar_lt

end Text
end FieldPatch
