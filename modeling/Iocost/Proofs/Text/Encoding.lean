import Iocost.Text.Utf8
import Mathlib.Data.UInt

/-!
# Texts and their bytes

Decoding inverts encoding (`decode?_encode`, `encode_of_decode?`), a text is encoded character by
character (`encode_eq_flatMap`), and an ASCII character is in a text exactly when its byte is among
the bytes of the text (`mem_encode_iff`).
-/

namespace Iocost.Text

theorem decode?_encode (s : String) : decode? (encode s) = some s := by
  simp only [decode?, encode, String.fromUTF8?, String.toUTF8_eq_toByteArray, Array.toArray_toList,
    dif_pos s.isValidUTF8]
  rfl

theorem encode_of_decode? {bytes : List UInt8} {s : String} (h : decode? bytes = some s) :
    encode s = bytes := by
  unfold decode? String.fromUTF8? at h
  split at h
  · cases h
    rfl
  · cases h

theorem encode_injective : Function.Injective encode := fun a b h =>
  Option.some.inj ((decode?_encode a).symm.trans (h ▸ decode?_encode b))

theorem encode_eq_flatMap (s : String) : encode s = s.toList.flatMap String.utf8EncodeChar := by
  rw [encode, String.toUTF8_eq_toByteArray, ← String.utf8Encode_toList, List.utf8Encode,
    List.data_toByteArray]

theorem encode_append (a b : String) : encode (a ++ b) = encode a ++ encode b := by
  simp [encode_eq_flatMap]

theorem encode_eq_nil {s : String} : encode s = [] ↔ s = "" :=
  ⟨fun h => encode_injective (h.trans (by decide)), fun h => h ▸ by decide⟩

/-! ## ASCII characters -/

theorem toNat_lt (c : Char) : c.toNat < 0x110000 := by
  rcases c.valid with hlow | hhigh
  · exact Nat.lt_of_lt_of_le hlow (by decide)
  · exact hhigh.2

theorem utf8EncodeChar_of_ascii {c : Char} (h : c.toNat < 128) :
    String.utf8EncodeChar c = [c.toUInt8] := by
  have hval : c.val.toNat ≤ 0x7f := Nat.lt_succ_iff.mp h
  simp only [String.utf8EncodeChar, hval, ↓reduceIte, UInt8.ofNat_uInt32ToNat]
  rfl

theorem le_of_mem_utf8EncodeChar {c : Char} (h : 128 ≤ c.toNat) {b : UInt8}
    (hb : b ∈ String.utf8EncodeChar c) : 128 ≤ b.toNat := by
  have hval : ¬c.val.toNat ≤ 0x7f := Nat.not_le.mpr h
  have hmax : c.val.toNat < 0x110000 := toNat_lt c
  simp only [String.utf8EncodeChar, hval, ↓reduceIte] at hb
  split at hb
  · simp only [List.mem_cons, List.not_mem_nil, or_false] at hb
    rcases hb with rfl | rfl <;> simp only [UInt8.toNat_ofNat'] <;> omega
  · split at hb
    · simp only [List.mem_cons, List.not_mem_nil, or_false] at hb
      rcases hb with rfl | rfl | rfl <;> simp only [UInt8.toNat_ofNat'] <;> omega
    · simp only [List.mem_cons, List.not_mem_nil, or_false] at hb
      rcases hb with rfl | rfl | rfl | rfl <;> simp only [UInt8.toNat_ofNat'] <;> omega

theorem toNat_toUInt8_of_ascii {c : Char} (h : c.toNat < 128) : c.toUInt8.toNat = c.toNat := by
  have : c.toUInt8.toNat = c.toNat % 2 ^ 8 := UInt32.toNat_toUInt8 c.val
  omega

theorem mem_encode_iff {c : Char} (hc : c.toNat < 128) {s : String} :
    c.toUInt8 ∈ encode s ↔ c ∈ s.toList := by
  rw [encode_eq_flatMap, List.mem_flatMap]
  constructor
  · rintro ⟨d, hd, hmem⟩
    rcases Nat.lt_or_ge d.toNat 128 with hascii | hwide
    · rw [utf8EncodeChar_of_ascii hascii, List.mem_singleton] at hmem
      have heq : c.toNat = d.toNat := by
        rw [← toNat_toUInt8_of_ascii hc, ← toNat_toUInt8_of_ascii hascii, hmem]
      rwa [Char.toNat_inj.mp heq]
    · have := le_of_mem_utf8EncodeChar hwide hmem
      rw [toNat_toUInt8_of_ascii hc] at this
      omega
  · intro hmem
    exact ⟨c, hmem, by rw [utf8EncodeChar_of_ascii hc]; exact List.mem_singleton_self _⟩

theorem encode_ofList_of_ascii {cs : List Char} (h : ∀ c ∈ cs, c.toNat < 128) :
    encode (String.ofList cs) = cs.map Char.toUInt8 := by
  rw [encode_eq_flatMap, String.toList_ofList, List.flatMap_congr (g := fun c => [c.toUInt8])
    fun c hc => utf8EncodeChar_of_ascii (h c hc), List.map_eq_flatMap]

end Iocost.Text
