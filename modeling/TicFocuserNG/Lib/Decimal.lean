import Mathlib.Algebra.Order.Ring.Nat
import Mathlib.Tactic.Linarith
import Mathlib.Tactic.Ring

/- Decimal output of quotients.

   `printf` writes a binary64 number with a number of decimals: its exact value, to
   nearest, ties to even. The number itself is a quotient that was rounded before, to
   a significand of 53 bits.

     1. `printed_near`: where the significand is fine enough, the two roundings
        together are off by no more than half of the last decimal.
     2. `number_signed`: what is written reads back. -/
namespace Decimal

/-- `n / d` to the nearest number, ties to even. -/
def roundDiv (n d : Nat) : Nat :=
  if d < 2 * (n % d) ∨ (2 * (n % d) = d ∧ n / d % 2 = 1) then n / d + 1 else n / d

theorem roundDiv_near (n : Nat) {d : Nat} (hd : 0 < d) :
    2 * (d * roundDiv n d) ≤ 2 * n + d ∧ 2 * n ≤ 2 * (d * roundDiv n d) + d := by
  have hdiv := Nat.div_add_mod n d
  have hmod := Nat.mod_lt n hd
  unfold roundDiv
  split
  · rw [Nat.mul_add]
    omega
  · omega

/-! ## Binary64 quotients -/

/-- The binary places of `n / d`, for a significand of 53 bits. -/
def places (n d : Nat) : Nat :=
  let s := 52 + d.log2 - n.log2
  if d * 2 ^ 52 ≤ n * 2 ^ s then s else s + 1

/-- The binary64 number next to `n / d`, in units of `2 ^ -places n d`. -/
def significand (n d : Nat) : Nat := roundDiv (n * 2 ^ places n d) d

/-- That number with `k` decimals, in units of the last. -/
def printed (k n d : Nat) : Nat := roundDiv (10 ^ k * significand n d) (2 ^ places n d)

-- 1.005 is a little less than that as a binary64 number, 1.015 a little more
example : printed 2 1005 1000 = 100 ∧ printed 2 1015 1000 = 101 ∧ printed 2 12345 1000 = 1235 := by decide

theorem places_ge (n d : Nat) : 52 + d.log2 - n.log2 ≤ places n d := by
  rw [places]
  split
  · exact Nat.le_refl _
  · exact Nat.le_succ _

/-- **Printed to nearest**, in spite of the rounding before. -/
theorem printed_near {k n d : Nat} (hd : 0 < d) (hfine : 10 ^ k * d < 2 ^ places n d) :
    2 * (d * printed k n d) ≤ 2 * (10 ^ k * n) + d ∧ 2 * (10 ^ k * n) ≤ 2 * (d * printed k n d) + d := by
  have hquot := roundDiv_near (n * 2 ^ places n d) hd
  have hdec := roundDiv_near (10 ^ k * significand n d) (Nat.two_pow_pos (places n d))
  rw [← significand] at hquot
  rw [← printed] at hdec
  generalize significand n d = m at *
  generalize printed k n d = c at *
  generalize 2 ^ places n d = s at *
  generalize 10 ^ k = t at *
  -- both bounds times `s`, which exceeds what the first rounding adds
  apply And.intro
  · by_contra hnot
    have hmore : (2 * (t * n) + d + 1) * s ≤ 2 * (d * c) * s := Nat.mul_le_mul_right s (by omega)
    have h₁ : 2 * (s * c) * d ≤ (2 * (t * m) + s) * d := Nat.mul_le_mul_right d hdec.1
    have h₂ : t * (2 * (d * m)) ≤ t * (2 * (n * s) + d) := Nat.mul_le_mul_left t hquot.1
    nlinarith
  · by_contra hnot
    have hmore : (2 * (d * c) + d + 1) * s ≤ 2 * (t * n) * s := Nat.mul_le_mul_right s (by omega)
    have h₁ : 2 * (t * m) * d ≤ (2 * (s * c) + s) * d := Nat.mul_le_mul_right d hdec.2
    have h₂ : t * (2 * (n * s)) ≤ t * (2 * (d * m) + d) := Nat.mul_le_mul_left t hquot.2
    nlinarith

/-! ## Decimals as text -/

/-- The last `k` digits of `n`. -/
def padded : (k n : Nat) → List Char
  | 0, _ => []
  | k + 1, n => padded k (n / 10) ++ [(n % 10).digitChar]

/-- `n` units of the `k`-th decimal. -/
def fixed (k n : Nat) : List Char :=
  Nat.toDigits 10 (n / 10 ^ k) ++ if k = 0 then [] else '.' :: padded k n

def signed (negative : Bool) (cs : List Char) : List Char := if negative then '-' :: cs else cs

/-- The number in a text, in units of its last digit. -/
def number (cs : List Char) : Int :=
  let n := Nat.ofDigitChars 10 (cs.filter Char.isDigit) 0
  if cs.head? = some '-' then -(n : Int) else n

/-- What is written after the number. -/
def suffix (cs : List Char) : List Char := cs.dropWhile (· ≠ ' ')

theorem isDigit_digitChar {n : Nat} (h : n < 10) : n.digitChar.isDigit = true := by
  have hmem : n.digitChar ∈ Nat.toDigits 10 n := by
    rw [Nat.toDigits_of_lt_base h]
    exact List.mem_singleton_self _
  exact Nat.isDigit_of_mem_toDigits (by decide) (by decide) hmem

theorem isDigit_padded {k n : Nat} {c : Char} (h : c ∈ padded k n) : c.isDigit = true := by
  induction k generalizing n with
  | zero => cases h
  | succ k ih =>
    rcases List.mem_append.mp h with h | h
    · exact ih h
    · rw [List.mem_singleton.mp h]
      exact isDigit_digitChar (Nat.mod_lt n (by decide))

theorem length_padded (k n : Nat) : (padded k n).length = k := by
  induction k generalizing n with
  | zero => rfl
  | succ k ih => rw [padded, List.length_append, ih, List.length_singleton]

/-- The last `k` digits, after digits worth `m`. -/
theorem value_padded (k n m : Nat) : Nat.ofDigitChars 10 (padded k n) m = 10 ^ k * m + n % 10 ^ k := by
  induction k generalizing n with
  | zero => simp [padded, Nat.mod_one]
  | succ k ih =>
    rw [padded, Nat.ofDigitChars_append, ih, Nat.ofDigitChars_cons_digitChar_of_lt_ten (Nat.mod_lt n (by decide)),
      Nat.ofDigitChars_nil, Nat.pow_succ', Nat.mod_mul, Nat.mul_add]
    ring

theorem isDigit_toDigits {n : Nat} {c : Char} (h : c ∈ Nat.toDigits 10 n) : c.isDigit = true :=
  Nat.isDigit_of_mem_toDigits (by decide) (by decide) h

theorem filter_digits {cs : List Char} (h : ∀ c ∈ cs, c.isDigit = true) : cs.filter Char.isDigit = cs :=
  List.filter_eq_self.mpr h

/-- The digits written are those of the number. -/
theorem value_fixed (k n : Nat) : Nat.ofDigitChars 10 ((fixed k n).filter Char.isDigit) 0 = n := by
  have hpoint : (if k = 0 then [] else '.' :: padded k n).filter Char.isDigit = padded k n := by
    cases k with
    | zero => rfl
    | succ k =>
      rw [if_neg (Nat.succ_ne_zero k), List.filter_cons_of_neg (by decide), filter_digits (fun _ => isDigit_padded)]
  rw [fixed, List.filter_append, hpoint, filter_digits (fun _ => isDigit_toDigits), Nat.ofDigitChars_append,
    Nat.ofDigitChars_ten_toDigits, value_padded, Nat.div_add_mod]

theorem head_fixed (k n : Nat) (rest : List Char) : (fixed k n ++ rest).head? ≠ some '-' := by
  intro h
  obtain ⟨c, cs, hcs⟩ := List.exists_cons_of_ne_nil (Nat.toDigits_ne_nil (n := n / 10 ^ k) (b := 10))
  have hdigit : c.isDigit = true := isDigit_toDigits (n := n / 10 ^ k) (by rw [hcs]; exact List.mem_cons_self)
  rw [fixed, List.append_assoc, hcs, List.cons_append, List.head?_cons, Option.some.injEq] at h
  rw [h] at hdigit
  exact absurd hdigit (by decide)

/-- **What is written reads back**, whatever without digits follows. -/
theorem number_signed (negative : Bool) (k n : Nat) {rest : List Char} (h : ∀ c ∈ rest, c.isDigit = false) :
    number (signed negative (fixed k n) ++ rest) = if negative then -(n : Int) else n := by
  have hrest : rest.filter Char.isDigit = [] := by
    rw [List.filter_eq_nil_iff]
    intro c hc
    simp [h c hc]
  cases negative with
  | false =>
    rw [number, signed, if_neg Bool.false_ne_true, if_neg (head_fixed k n rest), List.filter_append, hrest,
      List.append_nil, value_fixed, if_neg Bool.false_ne_true]
  | true =>
    rw [number, signed, if_pos rfl, List.cons_append, List.head?_cons, if_pos rfl,
      List.filter_cons_of_neg (by decide), List.filter_append, hrest, List.append_nil, value_fixed, if_pos rfl]

theorem suffix_signed (negative : Bool) (k n : Nat) (rest : List Char) :
    suffix (signed negative (fixed k n) ++ ' ' :: rest) = ' ' :: rest := by
  have hnum : ∀ c ∈ signed negative (fixed k n), decide (c ≠ ' ') = true := by
    have hfixed : ∀ c ∈ fixed k n, c ≠ ' ' := by
      intro c hc heq
      have hdigit : c.isDigit = true → False := by
        rw [heq]
        decide
      rcases List.mem_append.mp hc with hc | hc
      · exact hdigit (isDigit_toDigits hc)
      · split at hc
        · cases hc
        · rcases List.mem_cons.mp hc with hc | hc
          · rw [hc] at heq
            exact absurd heq (by decide)
          · exact hdigit (isDigit_padded hc)
    intro c hc
    cases negative with
    | false => exact decide_eq_true (hfixed c hc)
    | true =>
      rcases List.mem_cons.mp hc with rfl | hc
      · decide
      · exact decide_eq_true (hfixed c hc)
  rw [suffix, List.dropWhile_append_of_pos hnum]
  rfl

/-- A number below `10 ^ (k + w)` takes `w` places before the point. -/
theorem length_fixed_le {k n w : Nat} (hw : 0 < w) (h : n < 10 ^ (k + w)) : (fixed k n).length ≤ w + k + 1 := by
  have hwhole : (Nat.toDigits 10 (n / 10 ^ k)).length ≤ w := by
    rw [Nat.length_toDigits_le_iff (by decide) hw]
    apply Nat.div_lt_of_lt_mul
    rwa [← Nat.pow_add]
  rw [fixed, List.length_append]
  split
  · simp only [List.length_nil]
    omega
  · rw [List.length_cons, length_padded]
    omega

end Decimal
