import ConstantScan.Number.Double
import Mathlib

/-!
# Whole numbers in binary floating point

Going to the nearest number keeps the order. A whole number that has few enough digits is itself.
-/

namespace ConstantScan

/-! ## Rounded quotients -/

theorem div_le_roundDiv (n d : Nat) : n / d ≤ roundDiv n d := by
  unfold roundDiv
  grind

theorem roundDiv_le (n d : Nat) : roundDiv n d ≤ n / d + 1 := by
  unfold roundDiv
  grind

theorem roundDiv_mul (n : Nat) {d : Nat} (hd : 0 < d) : roundDiv (n * d) d = n := by
  simp [roundDiv, Nat.mul_div_cancel n hd, hd]

theorem roundDiv_mono {m n : Nat} (h : m ≤ n) (d : Nat) : roundDiv m d ≤ roundDiv n d := by
  rcases (Nat.div_le_div_right h : m / d ≤ n / d).lt_or_eq with hlt | heq
  · calc roundDiv m d ≤ m / d + 1 := roundDiv_le m d
      _ ≤ n / d := hlt
      _ ≤ roundDiv n d := div_le_roundDiv n d
  · -- With one whole part the remainders decide.
    have hmod : m % d ≤ n % d := by
      have hm := Nat.div_add_mod m d
      have hn := Nat.div_add_mod n d
      rw [← heq] at hn
      omega
    unfold roundDiv
    rw [heq]
    grind

/-! ## Nearest numbers -/

namespace Double

/-- The value of the last digit that a number of the size of `n` has. -/
def unit (n : Nat) : Nat := 2 ^ (n.log2 + 1 - precision)

theorem unit_pos (n : Nat) : 0 < unit n := Nat.two_pow_pos _

theorem nearest_eq (n : Nat) : nearest n = roundDiv n (unit n) * unit n := rfl

/-- What is a multiple of the last digit bounds the number just as it bounds its nearest one. -/
theorem nearest_le {n k : Nat} (h : n ≤ k) (hk : unit n ∣ k) : nearest n ≤ k := by
  obtain ⟨c, rfl⟩ := hk
  have hround : roundDiv n (unit n) ≤ c :=
    (roundDiv_mono h _).trans_eq (by rw [Nat.mul_comm, roundDiv_mul c (unit_pos n)])
  rw [nearest_eq, Nat.mul_comm (unit n)]
  exact Nat.mul_le_mul_right _ hround

theorem le_nearest {n k : Nat} (h : k ≤ n) (hk : unit n ∣ k) : k ≤ nearest n := by
  obtain ⟨c, rfl⟩ := hk
  have hround : c ≤ roundDiv n (unit n) :=
    (roundDiv_mul c (unit_pos n)).symm.trans_le (roundDiv_mono (Nat.mul_comm .. ▸ h) _)
  rw [nearest_eq, Nat.mul_comm (unit n)]
  exact Nat.mul_le_mul_right _ hround

theorem unit_dvd_two_pow {n k : Nat} (h : n.log2 ≤ k) : unit n ∣ 2 ^ k :=
  Nat.pow_dvd_pow 2 (by unfold precision; omega)

/-- Powers of two are not rounded, so none of them is passed. -/
theorem two_pow_le_nearest {n k : Nat} (h : 2 ^ k ≤ n) : 2 ^ k ≤ nearest n := by
  have hn : n ≠ 0 := (Nat.two_pow_pos k |>.trans_le h).ne'
  calc 2 ^ k ≤ 2 ^ n.log2 := Nat.pow_le_pow_right (by omega) ((Nat.le_log2 hn).2 h)
    _ ≤ nearest n := le_nearest (Nat.log2_self_le hn) (unit_dvd_two_pow le_rfl)

theorem nearest_mono {m n : Nat} (h : m ≤ n) : nearest m ≤ nearest n := by
  obtain rfl | hm := Nat.eq_zero_or_pos m
  · simp [nearest, roundDiv]
  have hlog : m.log2 ≤ n.log2 :=
    (Nat.le_log2 (by omega)).2 ((Nat.log2_self_le (by omega)).trans h)
  rcases hlog.lt_or_eq with hlt | heq
  · -- A power of two lies between the numbers.
    calc nearest m ≤ 2 ^ n.log2 :=
          nearest_le (((Nat.log2_lt (by omega)).1 hlt).le) (unit_dvd_two_pow hlt.le)
      _ ≤ nearest n := two_pow_le_nearest (Nat.log2_self_le (by omega))
  · rw [nearest_eq, nearest_eq, unit, heq]
    exact Nat.mul_le_mul_right _ (roundDiv_mono h _)

theorem nearest_of_lt {n : Nat} (h : n < 2 ^ precision) : nearest n = n := by
  have hunit : unit n = 1 := by
    obtain rfl | hn := Nat.eq_zero_or_pos n
    · rfl
    · have hlog := (Nat.log2_lt (by omega)).2 h
      rw [unit, Nat.sub_eq_zero_of_le hlog, Nat.pow_zero]
  rw [nearest_eq, hunit, Nat.mul_one]
  simpa using roundDiv_mul n Nat.one_pos

end Double

end ConstantScan
