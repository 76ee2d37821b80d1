import TicFocuserNG.OutOfRange

/- Parking: `Disconnect` with the parking mode enabled.

   `parks_iff`: with a lower limit of 0, and a controller that accepts every
   command, the last target sent is 0 or the controller was at rest at 0, exactly
   when the position last polled is above 0; below 0, and the request for 0 is no
   compensated reversal away from it; or 0, and the controller is not under way
   to another target. `Disconnect` asks `MoveAbsFocuser` for 0, which takes the
   position last polled for where the motor is, and compensates. -/
namespace TicFocuserNG

/-- The last target sent to the controller. -/
def Controller.lastTarget (c : Controller) : Option Int32 :=
  c.commands.findSome? fun
    | .setTargetPosition p => some p
    | _ => none

@[simp] theorem Controller.lastTarget_accept (c : Controller) (p : Int32) :
    (c.accept (.setTargetPosition p)).lastTarget = some p := rfl

namespace World

/-- `Disconnect`, with a controller that accepts every command. -/
def disconnect (w : World) : World :=
  let (f, c) := w.focuser.disconnect (Controller.interface true) w.controller
  ⟨f, c⟩

/-- The last target sent is 0, or the controller was at rest at 0 and nothing was
    sent. -/
def Parks (w : World) : Prop :=
  w.disconnect.controller.lastTarget = some 0 ∨ w.controller.AtRest 0 ∧ w.disconnect.controller = w.controller

/-- The request for 0 comes from above; or from below, and is not compensated
    away from 0; or finds the controller at rest at 0, or 0 the last target
    sent. -/
def ParksFrom (w : World) : Prop :=
  0 < w.focuser.focusAbsPosNP.value ∨
    w.focuser.focusAbsPosNP.value < 0 ∧
      (w.focuser.focusBacklashSP = true → w.focuser.lastFocusDir = .inward →
        w.focuser.focusBacklashNP = 0 ∨ w.focuser.limits.max = 0) ∨
    w.focuser.focusAbsPosNP.value = 0 ∧ (w.controller.AtRest 0 ∨ w.controller.lastTarget = some 0)

instance (w : World) : Decidable w.ParksFrom := inferInstanceAs (Decidable (_ ∨ _ ∨ _))

theorem disconnect_parking {w : World} (hpark : w.focuser.focusParkingModeSP = true) :
    w.disconnect.controller = w.afterRequest 0 true := by
  rw [disconnect, TicFocuser.disconnect, if_pos hpark, TicFocuser.moveAbsFocuser_eq]
  rfl

/-- Where a request for 0 aims. -/
theorem aim_zero {w : World} (hmin : w.focuser.limits.min = 0) :
    w.focuser.aim 0 = 0 ↔
      (w.focuser.focusAbsPosNP.value < 0 → w.focuser.focusBacklashSP = true → w.focuser.lastFocusDir = .inward →
        w.focuser.focusBacklashNP = 0 ∨ w.focuser.limits.max = 0) := by
  have hord := w.focuser.limits.ordered
  have hzero : ((0 : UInt32).toNat : Int) = 0 := rfl
  by_cases hlt : w.focuser.focusAbsPosNP.value < 0
  · have hrev : w.focuser.Reverses 0 ↔ w.focuser.focusBacklashSP = true ∧ w.focuser.lastFocusDir = .inward := by
      rw [TicFocuser.Reverses, TicFocuser.direction, hzero, if_pos hlt]
      cases w.focuser.lastFocusDir <;> simp
    simp only [TicFocuser.aim, TicFocuser.compensated, hrev, hzero, hlt, if_true, true_imp_iff]
    split
    · next h =>
      simp only [h.1, h.2, true_imp_iff]
      omega
    · next h =>
      refine iff_of_true rfl ?_
      intro hon hdir
      exact absurd ⟨hon, hdir⟩ h
  · have haim : w.focuser.aim 0 = 0 := by
      simp only [TicFocuser.aim, TicFocuser.compensated, hzero, hlt, if_false, hmin]
      split <;> omega
    simp [haim, hlt]

/-- **Parking.** With parking enabled and a lower limit of 0. -/
theorem parks_iff (w : World) (hpark : w.focuser.focusParkingModeSP = true) (hmin : w.focuser.limits.min = 0) :
    w.Parks ↔ w.ParksFrom := by
  have hzero : ((0 : UInt32).toNat : Int) = 0 := rfl
  rw [Parks, disconnect_parking hpark, ParksFrom]
  by_cases hhere : w.focuser.focusAbsPosNP.value = 0
  · -- nothing is sent
    have hans : w.focuser.answer 0 true = .ok := TicFocuser.answer_here (by rw [hzero, hhere]) true
    rw [afterRequest, hans]
    simp [hhere, or_comm]
  · have hne : ((0 : UInt32).toNat : Int) ≠ w.focuser.focusAbsPosNP.value := by
      rw [hzero]
      exact fun h => hhere h.symm
    have hin : w.focuser.limits.Contains (w.focuser.aim 0) := by
      rw [TicFocuser.contains_aim, hzero]
      have hord := w.focuser.limits.ordered
      exact .inl ⟨by omega, by omega⟩
    have hans : w.focuser.answer 0 true = .busy := by rw [TicFocuser.answer_eq hne, if_pos ⟨hin, rfl⟩]
    have hto := TicFocuser.toInt_sent hne hin
    have hsent : (w.focuser.compensate 0).1.toInt32 = 0 ↔ w.focuser.aim 0 = 0 := by
      rw [← hto, ← Int32.toInt_inj]
      rfl
    have hother : w.controller.accept (.setTargetPosition (w.focuser.compensate 0).1.toInt32) ≠ w.controller := by
      intro h
      have hlen := congrArg (fun c => c.commands.length) h
      simp [Controller.accept] at hlen
    rw [afterRequest, hans]
    simp only [if_true, Controller.lastTarget_accept, Option.some.injEq, hother, and_false, or_false, hsent,
      aim_zero hmin]
    have hcases : ¬ 0 < w.focuser.focusAbsPosNP.value ↔ w.focuser.focusAbsPosNP.value < 0 := by omega
    by_cases hlt : w.focuser.focusAbsPosNP.value < 0
    · simp [hlt, hhere, hcases.mpr hlt]
    · have hgt : 0 < w.focuser.focusAbsPosNP.value := by omega
      simp [hlt, hgt]

theorem parks_iff_at100 :
    (({ atZero with focuser := { atZero.focuser with focusParkingModeSP := true } }.step
      (.relocate 100 100)).step (.poll true)).Parks :=
  (parks_iff _ rfl rfl).mpr (by decide)

/-- Parking enabled, the backlash 10, and the first poll finds the controller
    at -5. -/
def belowZero : World :=
  [.setBacklash true 10, .relocate (-5) (-5), .poll true].foldl step
    (start { atZero with focuser := { atZero.focuser with focusParkingModeSP := true } })

/-- 0 lies outward, and the driver starts out inward: 10 is sent. -/
theorem parked_at_backlash : belowZero.disconnect.controller.lastTarget = some 10 ∧ ¬ belowZero.Parks := by
  have hsent : belowZero.disconnect.controller.lastTarget = some 10 := by decide
  refine ⟨hsent, ?_⟩
  rintro (h | ⟨-, h⟩)
  · rw [hsent] at h
    exact absurd h (by decide)
  · have hbefore : belowZero.controller.lastTarget = none := by decide
    rw [h, hbefore] at hsent
    exact absurd hsent (by decide)

end World

end TicFocuserNG
