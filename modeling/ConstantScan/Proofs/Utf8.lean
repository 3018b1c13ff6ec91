import ConstantScan.Text.Utf8
import Mathlib

/-!
# What decoding keeps apart

A byte below 128 is a character of its own wherever it stands, and no other bytes decode to one of
these characters. A text is what its bytes decode to.
-/

namespace ConstantScan.Utf8

/-! ## Characters that were begun -/

/-- What is begun ends, if it ends, in a character beyond the first 128, and so does each of its
bytes lie beyond them. -/
structure Partial.Wide (p : Partial) : Prop where
  missing_pos : 0 < p.missing
  le_low : 0x80 ≤ p.low.toNat
  high_le : p.high.toNat ≤ 0xBF
  le_bits : 0x80 ≤ (p.bits * 64 + p.low.toNat % 64) * 64 ^ (p.missing - 1)

theorem wide_of_leading? {b : UInt8} {p : Partial} (h : leading? b = some p) : p.Wide := by
  have hb : b.toNat < 256 := b.toNat_lt
  unfold leading? at h
  simp only [UInt8.lt_iff_toNat_lt, ← UInt8.toNat_inj, UInt8.reduceToNat] at h
  -- One case for each kind of first byte.
  split_ifs at h <;>
    (obtain rfl := Option.some.inj h
     constructor <;>
       simp only [UInt8.reduceToNat, Nat.reduceSub, Nat.reducePow, Nat.reduceMod] <;> omega)

namespace Reader

def Wide (s : Reader) : Prop := ∀ p ∈ s.pending, p.Wide

theorem wide_of_pending_eq_none {s : Reader} (h : s.pending = none) : s.Wide := by
  simp [Wide, h]

theorem wide_start {s : Reader} (b : UInt8) : (s.start b).Wide := by
  unfold start
  split
  · exact wide_of_pending_eq_none rfl
  · split
    · next p hp =>
      intro q hq
      rw [← Option.mem_some.1 hq]
      exact wide_of_leading? hp
    · exact wide_of_pending_eq_none rfl

theorem Wide.read {s : Reader} (h : s.Wide) (b : UInt8) : (s.read b).Wide := by
  unfold Reader.read
  split
  · exact wide_start b
  · next p hp =>
    obtain ⟨hpos, hlow, hhigh, hbits⟩ := h p hp
    split
    · next hin =>
      simp only [Bool.and_eq_true, decide_eq_true_eq, UInt8.le_iff_toNat_le] at hin
      split
      · exact wide_of_pending_eq_none rfl
      · next hmissing =>
        intro q hq
        rw [← Option.mem_some.1 hq]
        have hle : p.bits * 64 + p.low.toNat % 64 ≤ p.bits * 64 + b.toNat % 64 := by omega
        have hmul := Nat.mul_le_mul_right (64 ^ (p.missing - 1)) hle
        have hpow : 64 ^ (p.missing - 1) = 64 * 64 ^ (p.missing - 1 - 1) := by
          rw [← Nat.pow_succ']
          congr 1
          omega
        refine ⟨by simp; omega, by simp, by simp, ?_⟩
        calc 0x80 ≤ (p.bits * 64 + b.toNat % 64) * 64 ^ (p.missing - 1) := le_trans hbits hmul
          _ = _ := by rw [hpow]; simp [Nat.mul_assoc]
    · exact wide_start b

theorem Wide.foldl {s : Reader} (h : s.Wide) (bs : Bytes) : (bs.foldl Reader.read s).Wide := by
  induction bs generalizing s with
  | nil => exact h
  | cons b bs ih => exact ih (h.read b)

/-- A byte below 128 ends what was begun. -/
theorem read_of_ascii {s : Reader} (h : s.Wide) {b : UInt8} (hb : b < 0x80) :
    s.read b = s.abandon.emit (Char.ofNat b.toNat) := by
  unfold Reader.read
  split
  · next hnone => simp [start, hb, abandon, hnone]
  · next p hp =>
    have hout : ¬p.low ≤ b := by
      have hlow := (h p hp).le_low
      simp only [UInt8.lt_iff_toNat_lt, UInt8.reduceToNat] at hb
      rw [UInt8.le_iff_toNat_le]
      omega
    simp [hout, start, hb]

/-! ## What was read before does not matter -/

/-- The reader with a text before its own. -/
def after (s : Reader) (text : List Char) : Reader := { s with text := s.text ++ text }

theorem abandon_after (s : Reader) (text : List Char) :
    (s.after text).abandon = s.abandon.after text := by
  obtain ⟨_, _ | _⟩ := s <;> rfl

theorem start_after (s : Reader) (text : List Char) (b : UInt8) :
    (s.after text).start b = (s.start b).after text := by
  unfold start
  split
  · rfl
  · cases leading? b <;> rfl

theorem read_after (s : Reader) (text : List Char) (b : UInt8) :
    (s.after text).read b = (s.read b).after text := by
  unfold Reader.read
  rw [abandon_after, show (s.after text).pending = s.pending from rfl]
  cases hp : s.pending with
  | none => exact start_after s text b
  | some p =>
    dsimp only
    split_ifs
    · rfl
    · rfl
    · exact start_after _ text b

theorem foldl_read_after (s : Reader) (text : List Char) (bs : Bytes) :
    bs.foldl Reader.read (s.after text) = (bs.foldl Reader.read s).after text := by
  induction bs generalizing s with
  | nil => rfl
  | cons b bs ih => rw [List.foldl_cons, List.foldl_cons, read_after, ih]

end Reader

/-! ## Bytes below 128 -/

theorem decode_append_cons (a : Bytes) {b : UInt8} (hb : b < 0x80) (rest : Bytes) :
    decode (a ++ b :: rest) = decode a ++ Char.ofNat b.toNat :: decode rest := by
  let r := a.foldl Reader.read {}
  have hwide : r.Wide := Reader.Wide.foldl (Reader.wide_of_pending_eq_none rfl) a
  have hemit : r.abandon.emit (Char.ofNat b.toNat) =
      Reader.after {} (Char.ofNat b.toNat :: r.abandon.text) := rfl
  rw [decode, List.foldl_append, List.foldl_cons, Reader.read_of_ascii hwide hb, hemit,
    Reader.foldl_read_after, Reader.abandon_after, Reader.after]
  simp [decode, r]

theorem decode_eq_nil_iff {bs : Bytes} : decode bs = [] ↔ bs = [] := by
  refine ⟨fun h => ?_, fun h => h ▸ decode_nil⟩
  rcases List.eq_nil_or_concat bs with rfl | ⟨front, b, rfl⟩
  · rfl
  · -- The last byte adds a character or begins one.
    have hstart (s : Reader) : (s.start b).abandon.text ≠ [] := by
      unfold Reader.start
      split
      · simp [Reader.abandon, Reader.emit]
      · cases leading? b <;> simp [Reader.abandon, Reader.emit]
    have hread (s : Reader) : (s.read b).abandon.text ≠ [] := by
      unfold Reader.read
      cases s.pending with
      | none => exact hstart s
      | some p =>
        dsimp only
        split_ifs
        · simp [Reader.abandon, Reader.emit]
        · simp [Reader.abandon, Reader.emit]
        · exact hstart _
    rw [decode, List.concat_eq_append, List.foldl_append, List.reverse_eq_nil_iff] at h
    exact absurd h (hread _)

theorem ofNat_ne_of_le {n : Nat} (h : 0x80 ≤ n) {c : Char} (hpos : 0 < c.toNat)
    (hc : c.toNat < 0x80) : Char.ofNat n ≠ c := by
  intro e
  have hn := congrArg Char.toNat e
  rw [Char.toNat_ofNat] at hn
  split at hn <;> omega

theorem replacement_ne {c : Char} (hc : c.toNat < 0x80) : replacement ≠ c := by
  rintro rfl
  exact absurd hc (by decide)

namespace Reader

section

variable {c : Char} (hpos : 0 < c.toNat) (hc : c.toNat < 0x80)

include hc in
theorem not_mem_abandon {s : Reader} (hs : c ∉ s.text) : c ∉ s.abandon.text := by
  unfold abandon
  cases s.pending <;> simp [emit, hs, Ne.symm (replacement_ne hc)]

include hpos hc

theorem not_mem_start {s : Reader} {b : UInt8} (hb : b ≠ UInt8.ofNat c.toNat) (hs : c ∉ s.text) :
    c ∉ (s.start b).text := by
  have hbyte : Char.ofNat b.toNat ≠ c := by
    rintro rfl
    rw [Char.toNat_ofNat] at hpos hb
    split at hb
    · exact hb (by simp)
    · next hvalid => simp [hvalid] at hpos
  unfold start
  split
  · simp [emit, hs, Ne.symm hbyte]
  · cases leading? b <;> simp [emit, hs, Ne.symm (replacement_ne hc)]

theorem not_mem_read {s : Reader} (hwide : s.Wide) {b : UInt8} (hb : b ≠ UInt8.ofNat c.toNat)
    (hs : c ∉ s.text) : c ∉ (s.read b).text := by
  unfold Reader.read
  split
  · exact not_mem_start hpos hc hb hs
  · next p hp =>
    obtain ⟨hpos', hlow, hhigh, hbits⟩ := hwide p hp
    split_ifs with hin hmissing
    · -- What more than one byte spells is at least 128.
      simp only [Bool.and_eq_true, decide_eq_true_eq, UInt8.le_iff_toNat_le] at hin
      have hn : 0x80 ≤ p.bits * 64 + b.toNat % 64 := by
        simp [hmissing] at hbits
        omega
      simp [emit, hs, Ne.symm (ofNat_ne_of_le hn hpos hc)]
    · exact hs
    · exact not_mem_start hpos hc hb (not_mem_abandon hc hs)

theorem not_mem_foldl {s : Reader} (hwide : s.Wide) {bs : Bytes} (hbs : UInt8.ofNat c.toNat ∉ bs)
    (hs : c ∉ s.text) : c ∉ (bs.foldl Reader.read s).text := by
  induction bs generalizing s with
  | nil => exact hs
  | cons b bs ih =>
    obtain ⟨hb, hbs⟩ := not_or.1 (mt List.mem_cons.2 hbs)
    exact ih (hwide.read b) hbs (not_mem_read hpos hc hwide (Ne.symm hb) hs)

end

end Reader

/-- A character below 128 other than the first comes of its own byte alone. -/
theorem mem_of_mem_decode {bs : Bytes} {c : Char} (hpos : 0 < c.toNat) (hc : c.toNat < 0x80)
    (h : c ∈ decode bs) : UInt8.ofNat c.toNat ∈ bs := by
  by_contra hbs
  have hread : c ∉ (bs.foldl Reader.read {}).text :=
    Reader.not_mem_foldl hpos hc (Reader.wide_of_pending_eq_none rfl) hbs (by simp)
  rw [decode, List.mem_reverse] at h
  exact Reader.not_mem_abandon hc hread h

/-! ## The bytes of a text -/

theorem toList_loop (bs : ByteArray) (i : Nat) (read : List UInt8) :
    ByteArray.toList.loop bs i read = read.reverse ++ bs.data.toList.drop i := by
  fun_induction ByteArray.toList.loop bs i read with
  | case1 i read hlt ih =>
    have hget : bs.get! i = bs.data.toList[i] := getElem!_pos bs.data i hlt
    rw [ih, List.drop_eq_getElem_cons (i := i) hlt, hget, List.reverse_cons, List.append_assoc]
    rfl
  | case2 i read hge =>
    rw [List.drop_eq_nil_of_le (Nat.le_of_not_lt hge), List.append_nil]

theorem ofString_eq_encode (s : String) : ofString s = encode s.toList := by
  rw [ofString, ByteArray.toList, toList_loop, ← String.utf8Encode_toList]
  exact List.toList_data_toByteArray

theorem ofString_append (s t : String) :
    ofString (s ++ t) = ofString s ++ ofString t := by
  simp [ofString_eq_encode, encode]

/-! ## Encoded texts -/

theorem leading?_two : ∀ n < 32, 2 ≤ n →
    leading? (UInt8.ofNat (n + 0xC0)) = some { bits := n, missing := 1 } := by decide

theorem leading?_three : ∀ n < 16, leading? (UInt8.ofNat (n + 0xE0)) =
    some { bits := n, missing := 2, low := if n = 0 then 0xA0 else 0x80,
           high := if n = 13 then 0x9F else 0xBF } := by decide

theorem leading?_four : ∀ n < 5, leading? (UInt8.ofNat (n + 0xF0)) =
    some { bits := n, missing := 3, low := if n = 0 then 0x90 else 0x80,
           high := if n = 4 then 0x8F else 0xBF } := by decide

theorem leading?_of_lt {b : UInt8} (h : b < 0x80) : leading? b = none := by
  have : b < 0xC2 := by
    simp only [UInt8.lt_iff_toNat_lt, UInt8.reduceToNat] at h ⊢
    omega
  rw [leading?, if_pos this]

namespace Reader

theorem read_first (text : List Char) {b : UInt8} {p : Partial} (hp : leading? b = some p) :
    ({ text } : Reader).read b = { text, pending := some p } := by
  have hb : ¬b < 0x80 := by
    intro h
    rw [leading?_of_lt h] at hp
    simp at hp
  simp only [read, start, if_neg hb, hp]

section

variable (text : List Char) {bits n : Nat} {low high : UInt8} (hn : n < 64)
  (hlow : low.toNat ≤ n + 0x80) (hhigh : n + 0x80 ≤ high.toNat)
include hn hlow hhigh

theorem read_next (missing : Nat) :
    ({ text, pending := some { bits, missing, low, high } } : Reader).read
        (UInt8.ofNat (n + 0x80)) =
      if missing = 1 then { text := Char.ofNat (bits * 64 + n) :: text }
      else { text, pending := some { bits := bits * 64 + n, missing := missing - 1 } } := by
  have hb : (UInt8.ofNat (n + 0x80)).toNat = n + 0x80 := by
    rw [UInt8.toNat_ofNat']
    omega
  generalize UInt8.ofNat (n + 0x80) = b at hb
  have hin : low ≤ b ∧ b ≤ high := by
    rw [UInt8.le_iff_toNat_le, UInt8.le_iff_toNat_le, hb]
    exact ⟨hlow, hhigh⟩
  have hbits : b.toNat % 64 = n := by omega
  simp [read, emit, hin, hbits]

theorem read_last :
    ({ text, pending := some { bits, missing := 1, low, high } } : Reader).read
        (UInt8.ofNat (n + 0x80)) = { text := Char.ofNat (bits * 64 + n) :: text } :=
  read_next text hn hlow hhigh 1

theorem read_more (missing : Nat) :
    ({ text, pending := some { bits, missing := missing + 2, low, high } } : Reader).read
        (UInt8.ofNat (n + 0x80)) =
      { text, pending := some { bits := bits * 64 + n, missing := missing + 1 } } :=
  read_next text hn hlow hhigh (missing + 2)

end

theorem foldl_read_encodeChar (text : List Char) (c : Char) :
    (String.utf8EncodeChar c).foldl read { text } = { text := c :: text } := by
  have hc : Char.ofNat c.val.toNat = c := Char.ofNat_toNat c
  have hvalid : c.val.toNat < 0xD800 ∨ 0xDFFF < c.val.toNat ∧ c.val.toNat < 0x110000 := c.valid
  unfold String.utf8EncodeChar
  generalize c.val.toNat = v at hc hvalid
  dsimp only
  -- One to four bytes, by the size of the character.
  split_ifs with hone htwo hthree
  · have hlt : (UInt8.ofNat v).toNat = v := by
      rw [UInt8.toNat_ofNat']
      omega
    have hascii : UInt8.ofNat v < 0x80 := by
      simp only [UInt8.lt_iff_toNat_lt, hlt, UInt8.reduceToNat]
      omega
    simp [read, start, emit, hascii, hlt, hc]
  · have hlead : v / 64 % 0x20 = v / 64 := by omega
    have hsum : v / 64 * 64 + v % 64 = v := by omega
    simp only [hlead, List.foldl_cons, List.foldl_nil,
      read_first text (leading?_two (v / 64) (by omega) (by omega))]
    rw [read_last text (by omega) (by simp) (by simp; omega), hsum, hc]
  · have hlead : v / 4096 % 0x10 = v / 4096 := by omega
    have hsum : (v / 4096 * 64 + v / 64 % 64) * 64 + v % 64 = v := by omega
    simp only [hlead, List.foldl_cons, List.foldl_nil,
      read_first text (leading?_three (v / 4096) (by omega))]
    rw [read_more text (by omega) (by split_ifs <;> simp; omega)
        (by split_ifs <;> (simp; omega)) 0,
      read_last text (by omega) (by simp) (by simp; omega), hsum, hc]
  · have hlead : v / 262144 % 0x08 = v / 262144 := by omega
    have hsum : ((v / 262144 * 64 + v / 4096 % 64) * 64 + v / 64 % 64) * 64 + v % 64 = v := by
      omega
    simp only [hlead, List.foldl_cons, List.foldl_nil,
      read_first text (leading?_four (v / 262144) (by omega))]
    rw [read_more text (by omega) (by split_ifs <;> simp; omega)
        (by split_ifs <;> (simp; omega)) 1,
      read_more text (by omega) (by simp) (by simp; omega) 0,
      read_last text (by omega) (by simp) (by simp; omega), hsum, hc]

theorem foldl_read_encode (text cs : List Char) :
    (encode cs).foldl read { text } = { text := cs.reverse ++ text } := by
  induction cs generalizing text with
  | nil => rfl
  | cons c cs ih =>
    rw [encode, List.flatMap_cons, List.foldl_append, foldl_read_encodeChar, ← encode, ih]
    simp

end Reader

theorem decode_encode (cs : List Char) : decode (encode cs) = cs := by
  rw [decode, Reader.foldl_read_encode]
  simp [Reader.abandon]

theorem isValid_ofString (s : String) : isValid (ofString s) = true := by
  rw [isValid, ofString_eq_encode, decode_encode, beq_self_eq_true]

theorem toString_ofString (s : String) : toString (ofString s) = s := by
  rw [toString, ofString_eq_encode, decode_encode, String.ofList_toList]

theorem ofString_toString {bs : Bytes} (h : isValid bs = true) : ofString (toString bs) = bs := by
  rw [ofString_eq_encode, toString, String.toList_ofList]
  exact beq_iff_eq.1 h

end ConstantScan.Utf8
