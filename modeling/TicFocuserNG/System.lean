import TicFocuserNG.Lib.Run
import TicFocuserNG.Focuser

/- The driver and the controller it commands, as one system.

   `Controller` is what the driver's commands do to a Tic: an accepted
   SetTargetPosition writes the target register and sets the motor going; an
   accepted halt stops it and leaves the target register as it is. `Controller.interface`
   offers this controller to the driver, the next command or poll succeeding or
   failing as told.

   `respond` takes one event: a client's request, a poll, a change of the
   backlash setting, or the controller moving on its own. What
   `INDI::Focuser` adds to a request is the state of the absolute position
   property: the state `MoveAbsFocuser` returned, idle after a successful
   abort, and after a successful sync the value only. -/
namespace TicFocuserNG

/-! The controller. -/

/-- Commands that start or stop a motion. -/
inductive MotionCommand where
  | setTargetPosition (position : Int32)
  | haltAndHold
  | haltAndSetPosition (position : Int32)
  deriving DecidableEq, Repr

structure Controller where
  target : Int32
  position : Int32
  /-- Under way to `target`, or arrived there; false after a halt. -/
  driving : Bool
  /-- Accepted motion commands, newest first. -/
  commands : List MotionCommand := []
  /-- The variables other than the two positions. -/
  info : TicVariables

namespace Controller

def accept (c : Controller) : MotionCommand → Controller
  | .setTargetPosition p =>
    { c with target := p, driving := true, commands := .setTargetPosition p :: c.commands }
  | .haltAndHold => { c with driving := false, commands := .haltAndHold :: c.commands }
  | .haltAndSetPosition p =>
    { c with position := p, driving := false, commands := .haltAndSetPosition p :: c.commands }

/-- `x`, moved up to `n` towards `y`. -/
def approach (x y : Int) (n : Nat) : Int := if x ≤ y then min (x + n) y else max (x - n) y

/-- The motor makes up to `n` steps towards the target. -/
def advance (n : Nat) (c : Controller) : Controller :=
  if c.driving then { c with position := Int32.ofInt (approach c.position.toInt c.target.toInt n) } else c

def report (c : Controller) : TicVariables :=
  { c.info with currentPosition := c.position, targetPosition := c.target }

def command (ok : Bool) (m : MotionCommand) (c : Controller) : Bool × Controller :=
  if ok then (true, c.accept m) else (false, c)

/-- The connection to the controller while commands succeed (`ok`) or fail. -/
def interface (ok : Bool) : TicDriverInterface Controller where
  energize c := (ok, c)
  deenergize c := (ok, c)
  exitSafeStart c := (ok, c)
  haltAndHold := command ok .haltAndHold
  setTargetPosition p := command ok (.setTargetPosition p)
  haltAndSetPosition p := command ok (.haltAndSetPosition p)
  getVariables c := (if ok then some c.report else none, c)

/-- On its way to `p`. -/
def HeadedFor (c : Controller) (p : Int32) : Prop := c.driving = true ∧ c.target = p

/-- Standing at `p`, with nothing left to do. -/
def AtRest (c : Controller) (p : Int32) : Prop := c.position = p ∧ (c.driving = true → c.target = p)

instance (c : Controller) (p : Int32) : Decidable (c.HeadedFor p) := inferInstanceAs (Decidable (_ ∧ _))
instance (c : Controller) (p : Int32) : Decidable (c.AtRest p) := inferInstanceAs (Decidable (_ ∧ _))

/-- A way longer than any two positions are apart ends at the target. -/
theorem advance_arrives (c : Controller) (h : c.driving = true) :
    c.advance (2 ^ 32) = { c with position := c.target } := by
  have hp : approach c.position.toInt c.target.toInt (2 ^ 32) = c.target.toInt := by
    have h1 := c.position.le_toInt
    have h2 := c.position.toInt_lt
    have h3 := c.target.le_toInt
    have h4 := c.target.toInt_lt
    unfold approach
    split <;> omega
  simp only [advance, h, if_true, hp, Int32.ofInt_toInt]

end Controller

/-! The system. -/

structure World where
  focuser : TicFocuser
  controller : Controller

inductive Event where
  | moveAbs (ticks : UInt32) (ok : Bool)
  | moveRel (dir : FocusDirection) (ticks : UInt32) (ok : Bool)
  | abort (ok : Bool)
  | sync (ticks : UInt32) (ok : Bool)
  | poll (ok : Bool)
  | setBacklash (enabled : Bool) (steps : Nat)
  | advance (n : Nat)
  /-- The controller's registers change for a reason of their own. -/
  | relocate (position target : Int32)
  deriving DecidableEq, Repr

namespace World

/-- One event: the answer to a request, and the system after it. -/
def respond (w : World) : Event → Option IPState × World
  | .moveAbs ticks ok =>
    let (ret, f, c) := w.focuser.moveAbsFocuser (Controller.interface ok) ticks w.controller
    (some ret, ⟨f.setAbsState ret, c⟩)
  | .moveRel dir ticks ok =>
    let (ret, f, c) := w.focuser.moveRelFocuser (Controller.interface ok) dir ticks w.controller
    (some ret, ⟨f, c⟩)
  | .abort ok =>
    let (res, c) := TicFocuser.abortFocuser (Controller.interface ok) w.controller
    (none, ⟨if res then w.focuser.setAbsState .idle else w.focuser, c⟩)
  | .sync ticks ok =>
    let (res, c) := TicFocuser.syncFocuser (Controller.interface ok) ticks w.controller
    (none, ⟨if res then { w.focuser with
      focusAbsPosNP := { w.focuser.focusAbsPosNP with value := ticks.toNat } } else w.focuser, c⟩)
  | .poll ok =>
    let (f, c) := w.focuser.timerHit (Controller.interface ok) w.controller
    (none, ⟨f, c⟩)
  | .setBacklash enabled steps =>
    (none, ⟨if TicFocuser.setFocuserBacklash (Int32.ofNat steps) then
      { w.focuser with focusBacklashSP := enabled, focusBacklashNP := steps } else w.focuser, w.controller⟩)
  | .advance n => (none, ⟨w.focuser, w.controller.advance n⟩)
  | .relocate position target =>
    (none, ⟨w.focuser, { w.controller with position := position, target := target }⟩)

def step (w : World) (e : Event) : World := (w.respond e).2

/-- `w`, with the driver fresh from its constructor, the properties idle and
    no command given yet. -/
def start (w : World) : World where
  focuser := { w.focuser with
    lastTimerHitError := false
    moveRelInitialValue := -1
    lastFocusDir := .inward
    focusAbsPosNP := { w.focuser.focusAbsPosNP with state := .idle }
    focusRelPosNP := { w.focuser.focusRelPosNP with state := .idle } }
  controller := { w.controller with commands := [] }

/-- A driver at 0 with limits 0 and 1000, over a controller at rest at 0. -/
def atZero : World where
  focuser :=
    { connected := true
      limits := ⟨0, 1000, by decide, by decide, by decide⟩
      focusAbsPosNP := ⟨0, .idle⟩
      focusRelPosNP := ⟨0, .idle⟩
      focusSyncNP := ⟨0, .idle⟩
      focusBacklashNP := 0
      focusBacklashSP := false
      focusParkingModeSP := false }
  controller :=
    { target := 0
      position := 0
      driving := true
      info := ⟨0, 0, 12000, 174, true, "Full step", "Normal", 0⟩ }

/-- The tick count a request hands to `MoveAbsFocuser`. -/
def requested (w : World) : Event → Option UInt32
  | .moveAbs ticks _ => some ticks
  | .moveRel dir ticks _ => some (w.focuser.targetTicks dir ticks)
  | _ => none

end World

/-! What a request does, in one equation. -/

namespace TicFocuser

/-- The answer to a request for `ticks` when the interface would accept a
    command (`ok`) or not. -/
def answer (f : TicFocuser) (ticks : UInt32) (ok : Bool) : IPState :=
  if (ticks.toNat : Int) = f.focusAbsPosNP.value then .ok
  else if f.limits.min ≤ (f.compensate ticks).1.toNat ∧ ((f.compensate ticks).1.toNat : Int) ≤ f.limits.max ∧ ok
    then .busy
  else .alert

/-- The driver after a request, before the answer reaches the property. -/
def turn (f : TicFocuser) (ticks : UInt32) : TicFocuser := { f with lastFocusDir := (f.compensate ticks).2 }

theorem answer_here {f : TicFocuser} {ticks : UInt32} (h : (ticks.toNat : Int) = f.focusAbsPosNP.value)
    (ok : Bool) : f.answer ticks ok = .ok := if_pos h

theorem answer_ok_iff {f : TicFocuser} {ticks : UInt32} {ok : Bool} :
    f.answer ticks ok = .ok ↔ (ticks.toNat : Int) = f.focusAbsPosNP.value := by
  unfold answer
  split
  · simp [*]
  · split <;> simp [*]

theorem answer_busy_iff {f : TicFocuser} {ticks : UInt32} {ok : Bool} :
    f.answer ticks ok = .busy ↔ (ticks.toNat : Int) ≠ f.focusAbsPosNP.value ∧
      f.limits.min ≤ (f.compensate ticks).1.toNat ∧ ((f.compensate ticks).1.toNat : Int) ≤ f.limits.max ∧
      ok = true := by
  unfold answer
  split
  · simp [*]
  · split <;> simp_all

/-- Against the controller: a request turns the remembered direction, whatever
    the answer, and is sent exactly when it is answered busy. -/
theorem moveAbsFocuser_eq (ok : Bool) (ticks : UInt32) (f : TicFocuser) (c : Controller) :
    f.moveAbsFocuser (Controller.interface ok) ticks c =
      (f.answer ticks ok, f.turn ticks,
        if f.answer ticks ok = .busy then c.accept (.setTargetPosition (f.compensate ticks).1.toInt32) else c) := by
  by_cases hh : (ticks.toNat : Int) = f.focusAbsPosNP.value
  · simp [moveAbsFocuser_here _ c hh, answer_here hh, turn, compensate_here hh]
  · rcases moveAbsFocuser_cases (Controller.interface ok) c hh with ⟨hr, h⟩ | ⟨hr, h⟩
    · rw [h]
      have : f.answer ticks ok = .alert := by
        rw [answer, if_neg hh, if_neg (by omega)]
      simp [this, turn]
    · rw [h]
      cases ok
      · have : f.answer ticks false = .alert := by simp [answer, hh]
        simp [this, turn, Controller.interface, Controller.command]
      · have : f.answer ticks true = .busy := by simp [answer, hh, hr]
        simp [this, turn, Controller.interface, Controller.command]

end TicFocuser

namespace World

/-- The controller after a request for `ticks`. -/
def afterRequest (w : World) (ticks : UInt32) (ok : Bool) : Controller :=
  if w.focuser.answer ticks ok = .busy then
    w.controller.accept (.setTargetPosition (w.focuser.compensate ticks).1.toInt32)
  else w.controller

theorem respond_moveAbs (w : World) (ticks : UInt32) (ok : Bool) :
    w.respond (.moveAbs ticks ok) =
      (some (w.focuser.answer ticks ok),
        ⟨(w.focuser.turn ticks).setAbsState (w.focuser.answer ticks ok), w.afterRequest ticks ok⟩) := by
  simp only [respond, TicFocuser.moveAbsFocuser_eq, afterRequest]

theorem respond_moveRel (w : World) (dir : FocusDirection) (ticks : UInt32) (ok : Bool) :
    w.respond (.moveRel dir ticks ok) =
      (some (w.focuser.answer (w.focuser.targetTicks dir ticks) ok),
        ⟨({ w.focuser.turn (w.focuser.targetTicks dir ticks) with
            moveRelInitialValue :=
              if w.focuser.answer (w.focuser.targetTicks dir ticks) ok = .busy then
                Int32.ofInt w.focuser.focusAbsPosNP.value
              else -1 } : TicFocuser).setAbsState (w.focuser.answer (w.focuser.targetTicks dir ticks) ok),
          w.afterRequest (w.focuser.targetTicks dir ticks) ok⟩) := by
  simp only [respond, TicFocuser.moveRelFocuser, TicFocuser.moveAbsFocuser_eq, afterRequest]

theorem respond_poll (w : World) (ok : Bool) :
    w.respond (.poll ok) =
      (none, ⟨if w.focuser.connected then
          if ok then w.focuser.received w.controller.report else { w.focuser with lastTimerHitError := true }
        else w.focuser, w.controller⟩) := by
  cases ok <;> cases h : w.focuser.connected <;>
    simp [respond, TicFocuser.timerHit, Controller.interface, h]

theorem respond_sync (w : World) (ticks : UInt32) (ok : Bool) :
    w.respond (.sync ticks ok) =
      (none, if ok then
        ⟨{ w.focuser with focusAbsPosNP := { w.focuser.focusAbsPosNP with value := ticks.toNat } },
          w.controller.accept (.haltAndSetPosition ticks.toInt32)⟩
        else w) := by
  cases ok <;> rfl

end World

end TicFocuserNG
