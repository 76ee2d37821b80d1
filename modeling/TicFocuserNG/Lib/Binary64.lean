import Mathlib.Tactic.Ring
import Mathlib.Order.Lattice

/- Integer-valued binary64. A double that holds an integer is that integer, and
   the sum and the difference of two of them are the exact result rounded to a
   53-bit significand, ties to even; the result is again an integer. Up to
   `2^53` nothing is rounded (`round_exact`); past it the result stays past it
   (`le_round`). So a clamp to a bound of at most `2^53` hides the rounding
   (`min_add`, `max_sub`). -/
namespace Binary64

/-- The bits of `n` below a 53-bit significand. -/
def excess (n : Nat) : Nat := n.log2 + 1 - 53

/-- `n` rounded to a 53-bit significand, ties to even. -/
def roundNat (n : Nat) : Nat :=
  let ulp := 2 ^ excess n
  let q := n / ulp
  let r := n % ulp
  if ulp < 2 * r ∨ (2 * r = ulp ∧ q % 2 = 1) then (q + 1) * ulp else q * ulp

def round : Int → Int
  | .ofNat n => roundNat n
  | .negSucc n => -(roundNat (n + 1) : Int)

def add (x y : Int) : Int := round (x + y)
def sub (x y : Int) : Int := round (x - y)

theorem excess_of_lt {n : Nat} (h : n < 2 ^ 53) : excess n = 0 := by
  unfold excess
  by_cases hn : n = 0
  · simp [hn]
  · have := (Nat.log2_lt hn).mpr h
    omega

theorem roundNat_of_lt {n : Nat} (h : n < 2 ^ 53) : roundNat n = n := by
  simp [roundNat, excess_of_lt h, Nat.mod_one]

theorem le_roundNat {n : Nat} (h : 2 ^ 53 ≤ n) : 2 ^ 53 ≤ roundNat n := by
  have hn : n ≠ 0 := by omega
  have hlog : 53 ≤ n.log2 := (Nat.le_log2 hn).mpr h
  obtain ⟨d, hd⟩ : ∃ d, n.log2 = 53 + d := ⟨n.log2 - 53, by omega⟩
  have hulp : excess n = d + 1 := by unfold excess; omega
  have hge : 2 ^ 52 * 2 ^ excess n ≤ n := by
    have := Nat.log2_self_le hn
    calc 2 ^ 52 * 2 ^ excess n = 2 ^ n.log2 := by rw [hulp, hd, ← Nat.pow_add]; congr 1; omega
      _ ≤ n := this
  have hq : 2 ^ 52 ≤ n / 2 ^ excess n := (Nat.le_div_iff_mul_le (Nat.two_pow_pos _)).mpr hge
  have h2 : 2 ≤ 2 ^ excess n := by
    rw [hulp, Nat.pow_succ]
    have := Nat.two_pow_pos d
    omega
  have hlow : 2 ^ 53 ≤ n / 2 ^ excess n * 2 ^ excess n :=
    calc 2 ^ 53 = 2 ^ 52 * 2 := by norm_num
      _ ≤ n / 2 ^ excess n * 2 ^ excess n := Nat.mul_le_mul hq h2
  unfold roundNat
  simp only
  split
  · exact Nat.le_trans hlow (Nat.mul_le_mul_right _ (Nat.le_succ _))
  · exact hlow

theorem round_exact {x : Int} (hlo : -2 ^ 53 < x) (hhi : x < 2 ^ 53) : round x = x := by
  cases x with
  | ofNat n =>
    have hn : n < 2 ^ 53 := by simp only [Int.ofNat_eq_natCast] at hhi; omega
    simp [round, roundNat_of_lt hn]
  | negSucc n =>
    have hn : n + 1 < 2 ^ 53 := by omega
    simp only [round, roundNat_of_lt hn]
    omega

theorem le_round {x : Int} (h : 2 ^ 53 ≤ x) : 2 ^ 53 ≤ round x := by
  cases x with
  | ofNat n =>
    have := le_roundNat (n := n) (by simp only [Int.ofNat_eq_natCast] at h; omega)
    simp only [round]
    omega
  | negSucc n => omega

theorem round_le {x : Int} (h : x ≤ -2 ^ 53) : round x ≤ -2 ^ 53 := by
  cases x with
  | ofNat n => simp only [Int.ofNat_eq_natCast] at h; omega
  | negSucc n =>
    have := le_roundNat (n := n + 1) (by omega)
    simp only [round]
    omega

/-- Clamped from above, a sum is exact. -/
theorem min_add {x y m : Int} (h : 0 ≤ x + y) (hm : m ≤ 2 ^ 53) : min (add x y) m = min (x + y) m := by
  unfold add
  by_cases hx : x + y < 2 ^ 53
  · rw [round_exact (by omega) hx]
  · have := le_round (x := x + y) (by omega)
    omega

/-- Clamped from below, a difference is exact. -/
theorem max_sub {x y m : Int} (h : x - y < 2 ^ 53) (hm : -2 ^ 53 ≤ m) : max (sub x y) m = max (x - y) m := by
  unfold sub
  by_cases hx : -2 ^ 53 < x - y
  · rw [round_exact hx h]
  · have := round_le (x := x - y) (by omega)
    omega

-- 2^53 + 1 is halfway between two doubles and goes to the even one
example : add (2 ^ 53) 1 = 2 ^ 53 ∧ add (2 ^ 53) 3 = 2 ^ 53 + 4 := by decide

end Binary64
