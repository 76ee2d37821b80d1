import TicFocuserNG.Lib.Binary64

/- The INDI driver class `TicFocuser`, over any implementation of the abstract
   class `TicDriverInterface`. A method takes the interface, the driver object
   and the state behind the interface, and returns its result with both.

   The properties hold integer-valued doubles (`Int`, with the arithmetic of
   `Binary64`): positions come from an `int` of the controller or from a
   `uint32_t` of the client. `static_cast<uint32_t>` of such a double is
   `UInt32.ofInt`; the limits INDI keeps for the absolute position (`Limits`)
   leave it in range. `int32_t absTicks = getValue()` is `Int32.ofInt`: of a value
   outside `int32_t`, which a sync can leave there, C++ gives no meaning to it (on
   x86-64 it is `INT_MIN`), and the model wraps around. Log lines and the texts of the info tab are not part of
   the state: no method reads them. -/
namespace TicFocuserNG

/-- `TicDriverInterface::TicVariables`. -/
structure TicVariables where
  currentPosition : Int32
  targetPosition : Int32
  vinVoltage : Int32
  currentLimit : Int32
  energized : Bool
  stepMode : String
  operationalState : String
  errorStatus : UInt16
  deriving DecidableEq, Repr

/-- `TicDriverInterface`: what the driver asks of a connection whose state is
    `σ`. `getVariables` fills its argument and returns true, or returns false. -/
structure TicDriverInterface (σ : Type) where
  energize : σ → Bool × σ
  deenergize : σ → Bool × σ
  exitSafeStart : σ → Bool × σ
  haltAndHold : σ → Bool × σ
  setTargetPosition : Int32 → σ → Bool × σ
  haltAndSetPosition : Int32 → σ → Bool × σ
  getVariables : σ → Option TicVariables × σ

inductive IPState where
  | idle
  | ok
  | busy
  | alert
  deriving DecidableEq, Repr

inductive FocusDirection where
  | inward
  | outward
  deriving DecidableEq, Repr

/-- `FocusAbsPosNP[0].min` and `.max`. -/
structure Limits where
  min : Int
  max : Int
  nonneg : 0 ≤ min
  ordered : min ≤ max
  fits : max < 2 ^ 31

/-- One-element number property: its value and its state. -/
structure NumberProperty where
  value : Int
  state : IPState := .idle
  deriving DecidableEq, Repr

/-- The driver object: its own members, and the INDI properties its methods
    read and write. -/
structure TicFocuser where
  lastTimerHitError : Bool := false
  moveRelInitialValue : Int32 := -1
  lastFocusDir : FocusDirection := .inward
  connected : Bool
  limits : Limits
  focusAbsPosNP : NumberProperty
  focusRelPosNP : NumberProperty
  focusSyncNP : NumberProperty
  focusBacklashNP : Nat
  focusBacklashSP : Bool
  focusParkingModeSP : Bool

namespace TicFocuser
variable {σ : Type} (drv : TicDriverInterface σ)

def setAbsState (f : TicFocuser) (s : IPState) : TicFocuser :=
  { f with focusAbsPosNP := { f.focusAbsPosNP with state := s } }

/-- The middle of `MoveAbsFocuser`: the tick count after compensation, and the
    direction to remember. The inward branch is entered with compensation on
    only. -/
def compensate (f : TicFocuser) (ticks : UInt32) : UInt32 × FocusDirection :=
  if f.focusAbsPosNP.value < ticks.toNat then
    (if f.lastFocusDir = .inward ∧ f.focusBacklashSP then
        UInt32.ofInt (min (Binary64.add ticks.toNat f.focusBacklashNP) f.limits.max)
      else ticks,
      .outward)
  else if ticks.toNat < f.focusAbsPosNP.value ∧ f.focusBacklashSP then
    (if f.lastFocusDir = .outward then
        UInt32.ofInt (max (Binary64.sub ticks.toNat f.focusBacklashNP) f.limits.min)
      else ticks,
      .inward)
  else (ticks, f.lastFocusDir)

def moveAbsFocuser (ticks : UInt32) (f : TicFocuser) (c : σ) : IPState × TicFocuser × σ :=
  -- the position last polled is where the motor is taken to be
  if (ticks.toNat : Int) = f.focusAbsPosNP.value then (.ok, f, c)
  else
    let sent := (f.compensate ticks).1
    let f := { f with lastFocusDir := (f.compensate ticks).2 }
    -- refused, but the direction is remembered already
    if (sent.toNat : Int) < f.limits.min ∨ f.limits.max < (sent.toNat : Int) then (.alert, f, c)
    else
      match drv.setTargetPosition sent.toInt32 c with
      | (false, c) => (.alert, f, c)
      | (true, c) => (.busy, f, c)

/-- `targetTicks` of `MoveRelFocuser`, as `MoveAbsFocuser` receives it: the sum
    is taken in `uint32_t`. -/
def targetTicks (f : TicFocuser) (dir : FocusDirection) (ticks : UInt32) : UInt32 :=
  let absTicks := Int32.ofInt f.focusAbsPosNP.value
  match dir with
  | .outward => (absTicks.toUInt32 + ticks).toInt32.toUInt32
  | .inward => (absTicks.toUInt32 - ticks).toInt32.toUInt32

def moveRelFocuser (dir : FocusDirection) (ticks : UInt32) (f : TicFocuser) (c : σ) :
    IPState × TicFocuser × σ :=
  let absTicks := Int32.ofInt f.focusAbsPosNP.value
  let (ret, f, c) := moveAbsFocuser drv (f.targetTicks dir ticks) f c
  let f := { f with moveRelInitialValue := if ret = IPState.busy then absTicks else -1 }
  (ret, f.setAbsState ret, c)

/-- `TimerHit` once the variables are there. -/
def received (vars : TicVariables) (f : TicFocuser) : TicFocuser :=
  let f := { f with
    lastTimerHitError := false
    focusAbsPosNP := { f.focusAbsPosNP with value := vars.currentPosition.toInt }
    focusSyncNP := { f.focusSyncNP with value := vars.currentPosition.toInt } }
  if f.focusAbsPosNP.state = .busy then
    let f :=
      if 0 ≤ f.moveRelInitialValue then
        { f with focusRelPosNP :=
          { f.focusRelPosNP with value := (f.moveRelInitialValue - vars.currentPosition).abs.toInt } }
      else f
    if vars.currentPosition = vars.targetPosition then
      { f with
        focusAbsPosNP := { f.focusAbsPosNP with state := .ok }
        focusRelPosNP := { f.focusRelPosNP with state := .ok }
        moveRelInitialValue := -1 }
    else f
  else f

def timerHit (f : TicFocuser) (c : σ) : TicFocuser × σ :=
  if f.connected then
    match drv.getVariables c with
    | (some vars, c) => (f.received vars, c)
    | (none, c) => ({ f with lastTimerHitError := true }, c)
  else (f, c)

def syncFocuser (ticks : UInt32) (c : σ) : Bool × σ := drv.haltAndSetPosition ticks.toInt32 c

def abortFocuser (c : σ) : Bool × σ := drv.haltAndHold c

/-- `MoveFocuser`: timed moves are not supported. -/
def moveFocuser (_dir : FocusDirection) (_speed : Int32) (_duration : UInt16) : IPState := .alert

def energizeFocuser (c : σ) : Bool × σ :=
  match drv.energize c with
  | (false, c) => (false, c)
  | (true, c) => drv.exitSafeStart c

def deenergizeFocuser (c : σ) : Bool × σ := drv.deenergize c

def setFocuserBacklash (_steps : Int32) : Bool := true

/-- `Disconnect` up to `Focuser::Disconnect()`. -/
def disconnect (f : TicFocuser) (c : σ) : TicFocuser × σ :=
  if f.focusParkingModeSP then (moveAbsFocuser drv 0 f c).2 else (f, c)

/-- `Connect` after `Focuser::Connect()` returned `res`. -/
def connect (res : Bool) (c : σ) : Bool × σ := if res then (res, (energizeFocuser drv c).2) else (res, c)

/-! Projections of the updates. -/

@[simp] theorem setAbsState_moveRelInitialValue (f : TicFocuser) (s : IPState) :
    (f.setAbsState s).moveRelInitialValue = f.moveRelInitialValue := rfl
@[simp] theorem setAbsState_lastFocusDir (f : TicFocuser) (s : IPState) :
    (f.setAbsState s).lastFocusDir = f.lastFocusDir := rfl

/-! What a request can do. -/

/-- A request for the position last polled is answered at once. -/
theorem moveAbsFocuser_here {ticks : UInt32} {f : TicFocuser} (c : σ)
    (h : (ticks.toNat : Int) = f.focusAbsPosNP.value) : moveAbsFocuser drv ticks f c = (.ok, f, c) := by
  simp [moveAbsFocuser, h]

/-- Every other request: refused for its range, refused by the interface, or
    sent; the direction is remembered in all three cases. -/
theorem moveAbsFocuser_cases {ticks : UInt32} {f : TicFocuser} (c : σ)
    (h : (ticks.toNat : Int) ≠ f.focusAbsPosNP.value) :
    (((f.compensate ticks).1.toNat : Int) < f.limits.min ∨ f.limits.max < (f.compensate ticks).1.toNat) ∧
      moveAbsFocuser drv ticks f c = (.alert, { f with lastFocusDir := (f.compensate ticks).2 }, c) ∨
    (f.limits.min ≤ (f.compensate ticks).1.toNat ∧ ((f.compensate ticks).1.toNat : Int) ≤ f.limits.max) ∧
      moveAbsFocuser drv ticks f c =
        (if (drv.setTargetPosition (f.compensate ticks).1.toInt32 c).1 then .busy else .alert,
          { f with lastFocusDir := (f.compensate ticks).2 },
          (drv.setTargetPosition (f.compensate ticks).1.toInt32 c).2) := by
  simp only [moveAbsFocuser, if_neg h]
  by_cases hr : ((f.compensate ticks).1.toNat : Int) < f.limits.min ∨ f.limits.max < (f.compensate ticks).1.toNat
  · exact .inl ⟨hr, by rw [if_pos hr]⟩
  · refine .inr ⟨by omega, ?_⟩
    rw [if_neg hr]
    rcases drv.setTargetPosition (f.compensate ticks).1.toInt32 c with ⟨ok, c'⟩
    cases ok <;> rfl

/-! Compensation over the integers. -/

/-- `ticks` overshot by the backlash, within the limits. -/
def compensated (f : TicFocuser) (ticks : UInt32) : Int :=
  if f.focusAbsPosNP.value < ticks.toNat then min (ticks.toNat + f.focusBacklashNP) f.limits.max
  else max (ticks.toNat - f.focusBacklashNP) f.limits.min

/-- The direction a tick count lies in, seen from the position last polled. -/
def direction (f : TicFocuser) (ticks : UInt32) : FocusDirection :=
  if f.focusAbsPosNP.value < ticks.toNat then .outward else .inward

theorem toNat_ofInt {x : Int} (h0 : 0 ≤ x) (h : x < 2 ^ 32) : ((UInt32.ofInt x).toNat : Int) = x := by
  simp only [UInt32.ofInt, UInt32.toNat_ofNat']
  omega

theorem compensate_outward {f : TicFocuser} {ticks : UInt32} (h : f.focusAbsPosNP.value < ticks.toNat) :
    ((f.compensate ticks).1.toNat : Int) =
        (if f.lastFocusDir = .inward ∧ f.focusBacklashSP then f.compensated ticks else ticks.toNat) ∧
      (f.compensate ticks).2 = .outward := by
  have hmin := f.limits.nonneg
  have hord := f.limits.ordered
  have hfit := f.limits.fits
  simp only [compensate, compensated, if_pos h, and_true]
  split
  · rw [Binary64.min_add (by omega) (by omega), toNat_ofInt (by omega) (by omega)]
  · rfl

theorem compensate_inward {f : TicFocuser} {ticks : UInt32} (h : ticks.toNat < f.focusAbsPosNP.value)
    (hon : f.focusBacklashSP = true) :
    ((f.compensate ticks).1.toNat : Int) =
        (if f.lastFocusDir = .outward then f.compensated ticks else ticks.toNat) ∧
      (f.compensate ticks).2 = .inward := by
  have hmin := f.limits.nonneg
  have hord := f.limits.ordered
  have hfit := f.limits.fits
  have hticks := ticks.toNat_lt
  have hnot : ¬ f.focusAbsPosNP.value < ticks.toNat := by omega
  simp only [compensate, compensated, if_neg hnot, h, hon, and_self, if_true, and_true]
  split
  · rw [Binary64.max_sub (by omega) (by omega), toNat_ofInt (by omega) (by omega)]
  · rfl

/-- With compensation off, an inward request is neither changed nor remembered. -/
theorem compensate_inward_off {f : TicFocuser} {ticks : UInt32} (h : ticks.toNat < f.focusAbsPosNP.value)
    (hoff : f.focusBacklashSP = false) : f.compensate ticks = (ticks, f.lastFocusDir) := by
  have hnot : ¬ f.focusAbsPosNP.value < ticks.toNat := by omega
  simp [compensate, hnot, hoff]

theorem compensate_here {f : TicFocuser} {ticks : UInt32} (h : (ticks.toNat : Int) = f.focusAbsPosNP.value) :
    f.compensate ticks = (ticks, f.lastFocusDir) := by
  simp [compensate, h]

/-- The request turns against the remembered direction, with compensation on. -/
def Reverses (f : TicFocuser) (t : UInt32) : Prop := f.focusBacklashSP = true ∧ f.direction t ≠ f.lastFocusDir

instance (f : TicFocuser) (t : UInt32) : Decidable (f.Reverses t) := inferInstanceAs (Decidable (_ ∧ _))

/-- The tick count a request goes to, over the integers. -/
def aim (f : TicFocuser) (t : UInt32) : Int := if f.Reverses t then f.compensated t else t.toNat

theorem compensate_aim {f : TicFocuser} {t : UInt32} (h : (t.toNat : Int) ≠ f.focusAbsPosNP.value) :
    ((f.compensate t).1.toNat : Int) = f.aim t := by
  by_cases hlt : f.focusAbsPosNP.value < t.toNat
  · have hrev : f.Reverses t ↔ f.lastFocusDir = .inward ∧ f.focusBacklashSP = true := by
      rw [Reverses, direction, if_pos hlt]
      cases f.lastFocusDir <;> simp
    simp only [(compensate_outward hlt).1, aim, hrev]
  · have hgt : (t.toNat : Int) < f.focusAbsPosNP.value := by omega
    have hrev : f.Reverses t ↔ f.focusBacklashSP = true ∧ f.lastFocusDir = .outward := by
      rw [Reverses, direction, if_neg hlt]
      cases f.lastFocusDir <;> simp
    by_cases hon : f.focusBacklashSP = true
    · simp only [(compensate_inward hgt hon).1, aim, hrev, hon, true_and]
    · have hoff : f.focusBacklashSP = false := Bool.eq_false_iff.mpr hon
      simp [compensate_inward_off hgt hoff, aim, hrev, hoff]

/-- The target computed for a request: one for the position last polled is not compensated. -/
def goal (f : TicFocuser) (t : UInt32) : Int := if (t.toNat : Int) = f.focusAbsPosNP.value then t.toNat else f.aim t

theorem compensate_goal (f : TicFocuser) (t : UInt32) : ((f.compensate t).1.toNat : Int) = f.goal t := by
  rw [goal]
  split
  · next h => rw [compensate_here h]
  · next h => exact compensate_aim h

theorem toInt32_ofInt (ticks : UInt32) : ticks.toInt32 = Int32.ofInt ticks.toNat := by
  apply Int32.toBitVec_inj.mp
  simp [Int32.ofInt, UInt32.toInt32]

/-- A tick count below `2^31` keeps its value as an `int`. -/
theorem toInt_toInt32 {ticks : UInt32} (h : ticks.toNat < 2 ^ 31) : ticks.toInt32.toInt = ticks.toNat := by
  rw [toInt32_ofInt, Int32.toInt_ofInt_of_le (by omega) (by omega)]

end TicFocuser

end TicFocuserNG
