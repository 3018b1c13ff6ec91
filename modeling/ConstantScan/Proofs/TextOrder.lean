import ConstantScan.Proofs.Utf8
import Mathlib

/-!
# The order of texts

Texts are in the order of their characters. In UTF-8 this is the order of their bytes.
-/

namespace ConstantScan.Utf8

theorem ofNat_cons_lt_iff {m n : Nat} (hm : m < 256) (hn : n < 256) {x y : Bytes} :
    UInt8.ofNat m :: x < UInt8.ofNat n :: y ↔ m < n ∨ m = n ∧ x < y := by
  rw [List.cons_lt_cons_iff, UInt8.lt_iff_toNat_lt, ← UInt8.toNat_inj,
    UInt8.toNat_ofNat_of_lt' hm, UInt8.toNat_ofNat_of_lt' hn]

/-- The first byte that differs is greater in the greater character, whatever comes behind. -/
theorem encodeChar_append_lt {c d : Char} (h : c < d) (x y : Bytes) :
    String.utf8EncodeChar c ++ x < String.utf8EncodeChar d ++ y := by
  have hlt : c.val.toNat < d.val.toNat := h
  have hvalid : d.val.toNat < 0xD800 ∨ 0xDFFF < d.val.toNat ∧ d.val.toNat < 0x110000 := d.valid
  unfold String.utf8EncodeChar
  generalize c.val.toNat = v at hlt
  generalize d.val.toNat = w at hlt hvalid
  -- quotients by one number only, so that the digits of a number are seen to be those of its parts
  have hmiddle (n : Nat) : n / 4096 = n / 64 / 64 := by omega
  have htop (n : Nat) : n / 262144 = n / 64 / 64 / 64 := by omega
  dsimp only
  split_ifs
  all_goals
    simp (disch := omega) only [List.cons_append, List.nil_append, ofNat_cons_lt_iff, hmiddle, htop]
    omega

theorem encode_lt_encode {cs ds : List Char} (h : cs < ds) : encode cs < encode ds := by
  induction h with
  | @nil d ds =>
    have hne : encode (d :: ds) ≠ [] := by
      rw [encode, List.flatMap_cons]
      exact List.append_ne_nil_of_left_ne_nil String.utf8EncodeChar_ne_nil _
    obtain ⟨b, bs, hbytes⟩ := List.exists_cons_of_ne_nil hne
    rw [hbytes]
    exact List.nil_lt_cons b bs
  | @cons c cs ds _ ih => exact List.append_left_lt ih
  | @rel c cs d ds h => exact encodeChar_append_lt h _ _

theorem ofString_lt_iff {s t : String} : ofString s < ofString t ↔ s < t := by
  rw [ofString_eq_encode, ofString_eq_encode, String.lt_iff_toList_lt]
  refine ⟨fun h => ?_, encode_lt_encode⟩
  rcases lt_trichotomy s.toList t.toList with hlt | heq | hgt
  · exact hlt
  · rw [heq] at h
    exact absurd h (List.lt_irrefl _)
  · exact absurd (encode_lt_encode hgt) (List.lt_asymm h)

end ConstantScan.Utf8
