import Mathlib.Data.List.Basic

/- Sending over an unreliable step, with a bounded number of tries.

   The outcomes of the step are a stream `ok`, consumed one by one. `attempt`
   tries until it succeeds, `tries` times at most; `Channel.send` puts an item
   through the step in this way and drops it when all tries fail. A whole list
   arrives, complete and in order, exactly when every one of its items has a
   try that succeeds (`sendAll_complete_iff`). -/
namespace Retry

/-- Whether one of `tries` tries from the `k`-th outcome on succeeds, and the
    outcomes consumed then. -/
def attempt (ok : Nat → Bool) : (tries k : Nat) → Bool × Nat
  | 0, k => (false, k)
  | tries + 1, k => if ok k then (true, k + 1) else attempt ok tries (k + 1)

/-- Of `n` items one after the other, each gets a try that succeeds. -/
def AllSucceed (ok : Nat → Bool) (tries : Nat) : (n k : Nat) → Prop
  | 0, _ => True
  | n + 1, k => (attempt ok tries k).1 = true ∧ AllSucceed ok tries n (attempt ok tries k).2

instance AllSucceed.decide (ok : Nat → Bool) (tries : Nat) : ∀ n k, Decidable (AllSucceed ok tries n k)
  | 0, _ => isTrue trivial
  | n + 1, k =>
    have := AllSucceed.decide ok tries n (attempt ok tries k).2
    inferInstanceAs (Decidable ((attempt ok tries k).1 = true ∧ AllSucceed ok tries n (attempt ok tries k).2))

theorem attempt_one (ok : Nat → Bool) (k : Nat) : attempt ok 1 k = (ok k, k + 1) := by
  simp only [attempt]
  split <;> simp_all

/-- With one try each, every outcome has to be a success. -/
theorem allSucceed_one (ok : Nat → Bool) (n k : Nat) : AllSucceed ok 1 n k ↔ ∀ j, j < n → ok (k + j) = true := by
  induction n generalizing k with
  | zero => simp [AllSucceed]
  | succ n ih =>
    rw [AllSucceed, attempt_one, ih]
    apply Iff.intro
    · intro h j hj
      cases j with
      | zero => exact h.1
      | succ j =>
        have := h.2 j (by omega)
        rwa [Nat.add_right_comm] at this
    · intro h
      refine ⟨h 0 (by omega), ?_⟩
      intro j hj
      rw [Nat.add_right_comm]
      exact h (j + 1) (by omega)

/-- The outcomes consumed, and the items that came through. -/
structure Channel (α : Type) where
  used : Nat := 0
  accepted : List α := []
  deriving DecidableEq, Repr

namespace Channel
variable {α : Type} (ok : Nat → Bool) (tries : Nat)

def send (c : Channel α) (a : α) : Channel α where
  used := (attempt ok tries c.used).2
  accepted := if (attempt ok tries c.used).1 then c.accepted ++ [a] else c.accepted

/-- One try, and the others if it fails. -/
theorem send_succ (c : Channel α) (a : α) :
    c.send ok (tries + 1) a =
      if ok c.used then { used := c.used + 1, accepted := c.accepted ++ [a] }
      else { c with used := c.used + 1 }.send ok tries a := by
  simp only [send, attempt]
  split <;> simp

theorem send_one (c : Channel α) (a : α) :
    c.send ok 1 a =
      if ok c.used then { used := c.used + 1, accepted := c.accepted ++ [a] } else { c with used := c.used + 1 } := by
  rw [send_succ]
  rfl

theorem sendAll_length (as : List α) (c : Channel α) :
    (as.foldl (send ok tries) c).accepted.length ≤ c.accepted.length + as.length := by
  induction as generalizing c with
  | nil => exact Nat.le_refl _
  | cons a as ih =>
    rw [List.foldl_cons, List.length_cons]
    apply Nat.le_trans (ih (send ok tries c a))
    rw [send]
    split
    · simp only [List.length_append, List.length_singleton]
      omega
    · simp only
      omega

/-- All items come through, in order, exactly when each has a try that
    succeeds. -/
theorem sendAll_complete_iff (as : List α) (c : Channel α) :
    (as.foldl (send ok tries) c).accepted = c.accepted ++ as ↔ AllSucceed ok tries as.length c.used := by
  induction as generalizing c with
  | nil => simp [AllSucceed]
  | cons a as ih =>
    rw [List.foldl_cons, List.length_cons, AllSucceed]
    by_cases h : (attempt ok tries c.used).1 = true
    · have hrest := ih (send ok tries c a)
      have hsent : (send ok tries c a).accepted = c.accepted ++ [a] := if_pos h
      rw [hsent, List.append_assoc, List.singleton_append] at hrest
      exact hrest.trans ⟨fun hs => ⟨h, hs⟩, fun hs => hs.2⟩
    · apply Iff.intro
      · intro heq
        -- an item dropped is missing in the end: the items after it are too few
        have hlen := sendAll_length ok tries as (send ok tries c a)
        have hdrop : (send ok tries c a).accepted = c.accepted := if_neg h
        rw [heq, hdrop, List.length_append, List.length_cons] at hlen
        omega
      · intro hs
        exact absurd hs.1 h

/-- What comes through a channel comes after what came before. -/
theorem sendAll_fresh (as : List α) (c : Channel α) :
    as.foldl (send ok tries) c =
      { used := (as.foldl (send ok tries) { used := c.used }).used
        accepted := c.accepted ++ (as.foldl (send ok tries) { used := c.used }).accepted } := by
  induction as generalizing c with
  | nil => simp
  | cons a as ih =>
    rw [List.foldl_cons, List.foldl_cons, ih (send ok tries c a), ih (send ok tries { used := c.used } a)]
    simp only [send]
    split
    · simp
    · simp

/-- An item that comes through is the first to. -/
theorem sendAll_head (a : α) (as : List α) {k : Nat} (h : (attempt ok tries k).1 = true) :
    ((a :: as).foldl (send ok tries) { used := k }).accepted =
      a :: (as.foldl (send ok tries) { used := (attempt ok tries k).2 }).accepted := by
  have hsent : send ok tries { used := k } a = { used := (attempt ok tries k).2, accepted := [a] } := by
    simp [send, h]
  rw [List.foldl_cons, hsent, sendAll_fresh]
  rfl

theorem sendAll_sublist (as : List α) (k : Nat) :
    (as.foldl (send ok tries) { used := k }).accepted.Sublist as := by
  induction as generalizing k with
  | nil => exact List.Sublist.refl _
  | cons a as ih =>
    rw [List.foldl_cons, sendAll_fresh, send]
    simp only
    split
    · exact (ih _).cons_cons a
    · exact (ih _).cons a

end Channel

end Retry
