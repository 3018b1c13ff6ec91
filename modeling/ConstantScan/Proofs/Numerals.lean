import ConstantScan.Number.Decimal
import Mathlib

/-!
# Runs of characters, and whole numbers in digits

A reader takes the characters of a kind up to the first one that is of another kind. Read that way,
the digits of a number give the number back.
-/

namespace ConstantScan

/-! ## Runs of characters -/

/-- The text ends or goes on with a character of another kind. -/
def Stops (p : Char → Bool) (rest : List Char) : Prop := ∀ c ∈ rest.head?, p c = false

theorem stops_nil (p : Char → Bool) : Stops p [] := by simp [Stops]

theorem stops_cons {p : Char → Bool} {c : Char} {cs : List Char} :
    Stops p (c :: cs) ↔ p c = false := by simp [Stops]

theorem Stops.mono {p q : Char → Bool} {rest : List Char} (h : Stops q rest)
    (hpq : ∀ c, p c = true → q c = true) : Stops p rest := by
  intro c hc
  cases hp : p c with
  | false => rfl
  | true => exact absurd (hpq c hp) (by simp [h c hc])

theorem Stops.take {p : Char → Bool} {rest : List Char} (h : Stops p rest) (n : Nat) :
    Stops p (rest.take n) := by
  intro c hc
  cases n with
  | zero => simp at hc
  | succ n =>
    rw [List.head?_take, if_neg (Nat.succ_ne_zero n)] at hc
    exact h c hc

theorem Stops.takeWhile {p : Char → Bool} {rest : List Char} (h : Stops p rest) :
    rest.takeWhile p = [] := by
  cases rest with
  | nil => rfl
  | cons c rest => simp [stops_cons.1 h]

theorem Stops.dropWhile {p : Char → Bool} {rest : List Char} (h : Stops p rest) :
    rest.dropWhile p = rest := by
  cases rest with
  | nil => rfl
  | cons c rest => simp [stops_cons.1 h]

theorem Stops.takeWhile_append {p : Char → Bool} {run rest : List Char} (h : Stops p rest)
    (hrun : ∀ c ∈ run, p c = true) : (run ++ rest).takeWhile p = run := by
  rw [List.takeWhile_append_of_pos hrun, h.takeWhile, List.append_nil]

theorem Stops.dropWhile_append {p : Char → Bool} {run rest : List Char} (h : Stops p rest)
    (hrun : ∀ c ∈ run, p c = true) : (run ++ rest).dropWhile p = rest := by
  rw [List.dropWhile_append_of_pos hrun, h.dropWhile]

/-! ## Digits -/

namespace Decimal

theorem toList_toString (n : Nat) : (toString n).toList = Nat.toDigits 10 n := by
  rw [Nat.toString_eq_ofList_toDigits, String.toList_ofList]

theorem isDigit_of_mem_toDigits {n : Nat} {c : Char} (h : c ∈ Nat.toDigits 10 n) :
    c.isDigit = true := Nat.isDigit_of_mem_toDigits (by decide) (by decide) h

theorem isDigit_of_mem_toString {n : Nat} {c : Char} (h : c ∈ (toString n).toList) :
    c.isDigit = true := by
  rw [toList_toString] at h
  exact isDigit_of_mem_toDigits h

theorem not_mem_toString {c : Char} (h : c.isDigit = false) (n : Nat) :
    c ∉ (toString n).toList := fun hmem =>
  absurd (isDigit_of_mem_toString hmem) (by simp [h])

theorem ofDigits_toDigits (n : Nat) : ofDigits (Nat.toDigits 10 n) = n := by
  have hfold := Nat.ofDigitChars_ten_toDigits (n := n)
  rw [Nat.ofDigitChars_eq_foldl] at hfold
  simpa only [ofDigits, digitValue, Nat.mul_comm] using hfold

/-- Only zero is written with a zero in front. -/
theorem toDigits_eq_cons (n : Nat) :
    Nat.toDigits 10 n = ['0'] ∨ ∃ c cs, Nat.toDigits 10 n = c :: cs ∧ c ≠ '0' := by
  induction n using Nat.strongRec with
  | ind n ih =>
    rcases Nat.lt_or_ge n 10 with hlt | hge
    · rw [Nat.toDigits_of_lt_base hlt]
      by_cases hn : n = 0
      · exact .inl (by rw [hn]; rfl)
      · exact .inr ⟨_, [], rfl, by rwa [ne_eq, Nat.digitChar_eq_zero]⟩
    · rw [Nat.toDigits_of_base_le (by decide) hge]
      rcases ih (n / 10) (by omega) with hzero | ⟨c, cs, hcs, hc⟩
      · have hback := ofDigits_toDigits (n / 10)
        rw [hzero, show ofDigits ['0'] = 0 from rfl] at hback
        omega
      · exact .inr ⟨c, cs ++ _, by rw [hcs]; rfl, hc⟩

theorem spanDigits_toDigits (n : Nat) {rest : List Char} (h : Stops Char.isDigit rest) :
    spanDigits (Nat.toDigits 10 n ++ rest) = (Nat.toDigits 10 n, rest) := by
  rw [spanDigits, h.takeWhile_append fun c hc => isDigit_of_mem_toDigits hc,
    h.dropWhile_append fun c hc => isDigit_of_mem_toDigits hc]

end Decimal

end ConstantScan
