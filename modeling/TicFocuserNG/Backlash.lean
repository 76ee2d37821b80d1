import TicFocuserNG.System

/- Backlash compensation over whole runs.

   `reversal_compensation_iff`: over absolute requests in range and accepted,
   with polls, motions and changes of the setting in between, the requests
   compensated are those that reverse the direction of the request sent before,
   exactly when no request made with compensation on meets a masked reversal. A
   reversal is masked when inward requests were sent since the last outward one,
   all with compensation off: `MoveAbsFocuser` remembers an outward direction
   always, an inward one only with compensation on. -/
namespace TicFocuserNG

/-! ## Reversals -/

/-- The system, and what its requests were. -/
structure Logged where
  world : World
  /-- Direction of the last request that sent a target; inward before the first. -/
  sent : FocusDirection
  /-- Since the last outward request inward ones were sent, all with
      compensation off. -/
  masked : Bool

namespace Logged

def log (s : Logged) (e : Event) : Logged :=
  match e with
  | .moveAbs t ok =>
    if s.world.focuser.answer t ok = .busy then
      { world := s.world.step e
        sent := s.world.focuser.direction t
        masked := match s.world.focuser.direction t with
          | .outward => false
          | .inward => !s.world.focuser.focusBacklashSP && (s.masked || s.sent == .outward) }
    else { s with world := s.world.step e }
  | _ => { s with world := s.world.step e }

def start (w : World) : Logged := ⟨w.start, .inward, false⟩

/-- Absolute requests in range and accepted, or for the position last polled;
    polls, changes of the setting, motions of the controller. -/
def Admissible (s : Logged) : Event → Prop
  | .moveAbs t ok =>
    (t.toNat : Int) = s.world.focuser.focusAbsPosNP.value ∨
      s.world.focuser.limits.min ≤ t.toNat ∧ t.toNat ≤ s.world.focuser.limits.max ∧ ok = true
  | .moveRel .. => False
  | .abort _ => False
  | .sync .. => False
  | _ => True

/-- A request that sends a target sends the compensated one if compensation is
    on and it reverses the direction of the request sent before, and the
    requested one otherwise. -/
def CompensatesReversals (s : Logged) : Event → Prop
  | .moveAbs t ok => s.world.focuser.answer t ok = .busy →
    (s.world.step (.moveAbs t ok)).controller.target.toInt =
      if s.world.focuser.focusBacklashSP ∧ s.world.focuser.direction t ≠ s.sent then
        s.world.focuser.compensated t
      else t.toNat
  | _ => True

/-- A request that sends a target with compensation on finds no masked
    reversal, or one where compensating would change nothing. -/
def Unmasked (s : Logged) : Event → Prop
  | .moveAbs t ok => s.world.focuser.answer t ok = .busy → s.world.focuser.focusBacklashSP = true →
    s.masked = true → s.world.focuser.compensated t = t.toNat
  | _ => True

instance (s : Logged) : ∀ e, Decidable (s.Admissible e)
  | .moveAbs _ _ => inferInstanceAs (Decidable (_ ∨ _))
  | .moveRel .. => isFalse id
  | .abort _ => isFalse id
  | .sync .. => isFalse id
  | .poll _ => isTrue trivial
  | .setBacklash .. => isTrue trivial
  | .advance _ => isTrue trivial
  | .relocate .. => isTrue trivial

/-- The remembered direction is the direction sent last, but for a mask. -/
def Inv (s : Logged) : Prop :=
  s.world.focuser.lastFocusDir = (if s.masked then .outward else s.sent) ∧
    (s.masked = true → s.sent = .inward)

theorem target_of_busy {w : World} {t : UInt32} {ok : Bool} (h : w.focuser.answer t ok = .busy) :
    (w.step (.moveAbs t ok)).controller.target.toInt = (w.focuser.compensate t).1.toNat := by
  have hmax := (TicFocuser.answer_busy_iff.mp h).2.2.1
  have hfit := w.focuser.limits.fits
  simp only [World.step, World.respond_moveAbs, World.afterRequest, h, if_true, Controller.accept]
  exact TicFocuser.toInt_toInt32 (by omega)

theorem lastFocusDir_moveAbs (w : World) (t : UInt32) (ok : Bool) :
    (w.step (.moveAbs t ok)).focuser.lastFocusDir = (w.focuser.compensate t).2 := by
  simp [World.step, World.respond_moveAbs, TicFocuser.turn]

/-- The two ways a request that sends a target can go. -/
theorem busy_cases {f : TicFocuser} {t : UInt32} {ok : Bool} (h : f.answer t ok = .busy) :
    (f.focusAbsPosNP.value < t.toNat ∧ f.direction t = .outward) ∨
      (t.toNat < f.focusAbsPosNP.value ∧ f.direction t = .inward) := by
  have hne := (TicFocuser.answer_busy_iff.mp h).1
  by_cases hlt : f.focusAbsPosNP.value < t.toNat
  · exact .inl ⟨hlt, if_pos hlt⟩
  · exact .inr ⟨by omega, if_neg hlt⟩

theorem compensates_iff (s : Logged) (e : Event) (hi : s.Inv) : s.CompensatesReversals e ↔ s.Unmasked e := by
  cases e with
  | moveAbs t ok =>
    simp only [CompensatesReversals, Unmasked]
    apply imp_congr_right
    intro hb
    rw [target_of_busy hb]
    obtain ⟨hdir, hmask⟩ := hi
    rcases busy_cases hb with ⟨hlt, hd⟩ | ⟨hlt, hd⟩
    · -- outward: a mask is lifted, and nothing is lost
      rw [(TicFocuser.compensate_outward hlt).1, hd, hdir]
      cases hm : s.masked with
      | false => cases hs : s.sent <;> cases hon : s.world.focuser.focusBacklashSP <;> simp
      | true => cases hon : s.world.focuser.focusBacklashSP <;> simp [hmask hm, eq_comm]
    · -- inward: under a mask the driver takes the request for a reversal
      cases hon : s.world.focuser.focusBacklashSP with
      | false => simp [TicFocuser.compensate_inward_off hlt hon]
      | true =>
        rw [(TicFocuser.compensate_inward hlt hon).1, hd, hdir]
        cases hm : s.masked with
        | false => cases hs : s.sent <;> simp
        | true => simp [hmask hm]
  | _ => exact Iff.rfl

/-- An admissible request is never refused. -/
theorem admissible_answer {s : Logged} {t : UInt32} {ok : Bool} (h : s.Admissible (.moveAbs t ok)) :
    s.world.focuser.answer t ok = .busy ∨ (t.toNat : Int) = s.world.focuser.focusAbsPosNP.value := by
  by_cases hpos : (t.toNat : Int) = s.world.focuser.focusAbsPosNP.value
  · exact .inr hpos
  · obtain ⟨hmin, hmax, rfl⟩ := h.resolve_left hpos
    refine .inl (TicFocuser.answer_busy_iff.mpr ⟨hpos, ?_⟩)
    have hord := s.world.focuser.limits.ordered
    by_cases hlt : s.world.focuser.focusAbsPosNP.value < t.toNat
    · have hsent := (TicFocuser.compensate_outward hlt).1
      simp only [TicFocuser.compensated, if_pos hlt] at hsent
      split at hsent <;> exact ⟨by omega, by omega, rfl⟩
    · have hgt : (t.toNat : Int) < s.world.focuser.focusAbsPosNP.value := by omega
      cases hon : s.world.focuser.focusBacklashSP with
      | false =>
        rw [TicFocuser.compensate_inward_off hgt hon]
        exact ⟨hmin, hmax, rfl⟩
      | true =>
        have hsent := (TicFocuser.compensate_inward hgt hon).1
        simp only [TicFocuser.compensated, if_neg hlt] at hsent
        split at hsent <;> exact ⟨by omega, by omega, rfl⟩

theorem inv_step (s : Logged) (e : Event) (hi : s.Inv) (ha : s.Admissible e) : (s.log e).Inv := by
  cases e with
  | moveAbs t ok =>
    obtain ⟨hdir, hmask⟩ := hi
    by_cases hb : s.world.focuser.answer t ok = .busy
    · simp only [log, hb, if_true, Inv, lastFocusDir_moveAbs]
      rcases busy_cases hb with ⟨hlt, hd⟩ | ⟨hlt, hd⟩
      · rw [(TicFocuser.compensate_outward hlt).2, hd]
        simp
      · rw [hd]
        cases hon : s.world.focuser.focusBacklashSP with
        | true => simp [(TicFocuser.compensate_inward hlt hon).2]
        | false =>
          -- the direction is not remembered, and an outward one is masked
          rw [TicFocuser.compensate_inward_off hlt hon, hdir]
          cases hm : s.masked <;> cases hs : s.sent <;> simp_all
    · have hpos := (admissible_answer ha).resolve_left hb
      simp only [log, hb, if_false, Inv, lastFocusDir_moveAbs, TicFocuser.compensate_here hpos]
      exact ⟨hdir, hmask⟩
  | moveRel dir t ok => exact ha.elim
  | abort ok => exact ha.elim
  | sync t ok => exact ha.elim
  | poll ok =>
    have hkept : (s.world.step (.poll ok)).focuser.lastFocusDir = s.world.focuser.lastFocusDir := by
      simp only [World.step, World.respond_poll, TicFocuser.received]
      repeat' split
      all_goals rfl
    exact ⟨hkept.trans hi.1, hi.2⟩
  | setBacklash enabled steps => exact hi
  | advance n => exact hi
  | relocate position target => exact hi

theorem inv_start (w : World) : (start w).Inv := ⟨rfl, by simp [start]⟩

/-- Over admissible runs: compensation happens exactly on reversals, exactly
    when no request meets a masked one. -/
theorem reversal_compensation_iff (w : World) (es : List Event) (h : Run.Each log Admissible (start w) es) :
    Run.Each log CompensatesReversals (start w) es ↔ Run.Each log Unmasked (start w) es :=
  Run.each_iff_each (fun s e hi _ => compensates_iff s e hi) inv_step (inv_start w) h

/-- Out to 100, in to 50 with compensation off, then in to 20 with it on. -/
def maskedRun : List Event :=
  [.moveAbs 100 true, .relocate 100 100, .poll true, .moveAbs 50 true, .relocate 50 50, .poll true,
    .setBacklash true 10, .moveAbs 20 true]

theorem reversal_compensation_maskedRun :
    Run.Each log Admissible (start World.atZero) maskedRun ∧
      (Run.Each log CompensatesReversals (start World.atZero) maskedRun ↔
        Run.Each log Unmasked (start World.atZero) maskedRun) :=
  ⟨by decide, reversal_compensation_iff _ _ (by decide)⟩

/-- The last request of `maskedRun` keeps the direction, and is sent to 10. -/
theorem maskedRun_compensated :
    Run.Each log Admissible (start World.atZero) maskedRun ∧
      ¬ Run.Each log CompensatesReversals (start World.atZero) maskedRun := by
  refine ⟨by decide, ?_⟩
  rintro ⟨-, -, -, -, -, -, -, h, -⟩
  exact absurd (h (by decide)) (by decide)

end Logged

end TicFocuserNG
