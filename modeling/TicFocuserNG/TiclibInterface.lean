import TicFocuserNG.Focuser
import TicFocuserNG.TicBase

/- `TiclibInterface`: the driver's operations over any `TicBase`, and the names
   of `TicDefs.cpp`. Every command is one call of `TicBase` and a report on the
   last error (`report`); `getVariables` checks the last error after the first
   two of its eight reads. -/
namespace TicFocuserNG

/-! ## TicDefs -/

def ticStepModeNamesUi : List (String × UInt32) :=
  [("Full step", 0), ("1/2 step", 1), ("1/2 step 100%", 6), ("1/4 step", 2), ("1/8 step", 3),
    ("1/16 step", 4), ("1/32 step", 5), ("1/64 step", 7), ("1/128 step", 8), ("1/256 step", 9)]

def ticOperationStateNamesUi : List (String × UInt32) :=
  [("Reset", 0), ("De-energized", 2), ("Soft error", 4), ("Waiting for ERR line", 6), ("Starting up", 8),
    ("Normal", 10)]

def ticCodeToName : List (String × UInt32) → UInt32 → Option String
  | [], _ => none
  | (name, c) :: table, code => if c = code then some name else ticCodeToName table code

def ticLookUpOperationStateNameUi (operationState : UInt8) : String :=
  (ticCodeToName ticOperationStateNamesUi operationState.toUInt32).getD "(Unknown)"

def ticLookUpStepModeNameUi (stepMode : UInt8) : String :=
  (ticCodeToName ticStepModeNamesUi stepMode.toUInt32).getD "(Unknown)"

/-! ## The interface -/

structure TiclibInterface (τ : Type) where
  ticBase : Tic τ
  lastErrorMsg : String := ""

namespace TiclibInterface
variable {τ : Type} (T : TicBase τ)

/-- After a call of `TicBase` that left it in state `t`. -/
def report (errorMsg : String) (t : Tic τ) : Bool × TiclibInterface τ :=
  if t.lastError ≠ 0 then (false, ⟨t, errorMsg⟩) else (true, ⟨t, "OK"⟩)

def energize (i : TiclibInterface τ) : Bool × TiclibInterface τ :=
  report "Energize error" (T.energize i.ticBase)

def deenergize (i : TiclibInterface τ) : Bool × TiclibInterface τ :=
  report "De-energize error" (T.deenergize i.ticBase)

def exitSafeStart (i : TiclibInterface τ) : Bool × TiclibInterface τ :=
  report "ExitSafeStart error" (T.exitSafeStart i.ticBase)

def haltAndHold (i : TiclibInterface τ) : Bool × TiclibInterface τ :=
  report "HaltAndHold error" (T.haltAndHold i.ticBase)

def setTargetPosition (position : Int32) (i : TiclibInterface τ) : Bool × TiclibInterface τ :=
  report "SetTargetPosition error" (T.setTargetPosition position i.ticBase)

def haltAndSetPosition (position : Int32) (i : TiclibInterface τ) : Bool × TiclibInterface τ :=
  report "HaltAndSetPosition error" (T.haltAndSetPosition position i.ticBase)

/-- `getVariables`: false is `none`, and the variables are not used then. -/
def getVariables (u : Uninit) (i : TiclibInterface τ) : Option (Option TicVariables × TiclibInterface τ) := do
  let (targetPosition, t) ← T.getTargetPosition u i.ticBase
  if t.lastError ≠ 0 then return (none, ⟨t, "GetTargetPosition error"⟩)
  let (currentPosition, t) ← T.getCurrentPosition u t
  if t.lastError ≠ 0 then return (none, ⟨t, "GetCurrentPosition error"⟩)
  let (vinVoltage, t) ← T.getVinVoltage u t
  let (currentLimit, t) ← T.getCurrentLimit u t
  let (energized, t) ← T.getEnergized u t
  let (stepMode, t) ← T.getStepMode u t
  let (operationState, t) ← T.getOperationState u t
  let (errorStatus, t) ← T.getErrorStatus u t
  return (some
    { currentPosition
      targetPosition
      vinVoltage := Int32.ofNat vinVoltage.toNat
      currentLimit := Int32.ofNat currentLimit.toNat
      energized
      stepMode := ticLookUpStepModeNameUi stepMode
      operationalState := ticLookUpOperationStateNameUi operationState
      errorStatus }, ⟨t, "OK"⟩)

/-! ## The reads of a poll -/

open TicBase (value8 value16 value32 currentOfCode)

/-- The variables in the eight buffers, in the order they are read. -/
def variablesOf (product : TicProduct) (target current vin limit flags stepMode state errors : List UInt8) :
    TicVariables where
  targetPosition := (value32 target).toInt32
  currentPosition := (value32 current).toInt32
  vinVoltage := Int32.ofNat (value16 vin).toNat
  currentLimit := Int32.ofNat (currentOfCode product (value8 limit)).toNat
  energized := value8 flags &&& 1 != 0
  stepMode := ticLookUpStepModeNameUi (value8 stepMode)
  operationalState := ticLookUpOperationStateNameUi (value8 state)
  errorStatus := value16 errors

section
variable {T} {u : Uninit} {i : TiclibInterface τ} {t₁ t₂ t₃ t₄ t₅ t₆ t₇ t₈ : Tic τ}
  {b₁ b₂ b₃ b₄ b₅ b₆ b₇ b₈ : List UInt8}

theorem getVariables_ok (r₁ : T.getVar 4 u .targetPosition i.ticBase = some (b₁, t₁)) (e₁ : t₁.lastError = 0)
    (r₂ : T.getVar 4 u .currentPosition t₁ = some (b₂, t₂)) (e₂ : t₂.lastError = 0)
    (r₃ : T.getVar 2 u .vinVoltage t₂ = some (b₃, t₃)) (r₄ : T.getVar 1 u .currentLimit t₃ = some (b₄, t₄))
    (r₅ : T.getVar 1 u .miscFlags1 t₄ = some (b₅, t₅)) (r₆ : T.getVar 1 u .stepMode t₅ = some (b₆, t₆))
    (r₇ : T.getVar 1 u .operationState t₆ = some (b₇, t₇)) (r₈ : T.getVar 2 u .errorStatus t₇ = some (b₈, t₈)) :
    i.getVariables T u = some (some (variablesOf t₄.product b₁ b₂ b₃ b₄ b₅ b₆ b₇ b₈), ⟨t₈, "OK"⟩) := by
  simp [getVariables, TicBase.getTargetPosition, TicBase.getCurrentPosition, TicBase.getVinVoltage,
    TicBase.getCurrentLimit, TicBase.getEnergized, TicBase.getStepMode, TicBase.getOperationState,
    TicBase.getErrorStatus, TicBase.getVar32, TicBase.getVar16, TicBase.getVar8,
    r₁, e₁, r₂, e₂, r₃, r₄, r₅, r₆, r₇, r₈, variablesOf]

theorem getVariables_target_error (r₁ : T.getVar 4 u .targetPosition i.ticBase = some (b₁, t₁))
    (e₁ : t₁.lastError ≠ 0) : i.getVariables T u = some (none, ⟨t₁, "GetTargetPosition error"⟩) := by
  simp [getVariables, TicBase.getTargetPosition, TicBase.getVar32, r₁, e₁]

theorem getVariables_current_error (r₁ : T.getVar 4 u .targetPosition i.ticBase = some (b₁, t₁))
    (e₁ : t₁.lastError = 0) (r₂ : T.getVar 4 u .currentPosition t₁ = some (b₂, t₂)) (e₂ : t₂.lastError ≠ 0) :
    i.getVariables T u = some (none, ⟨t₂, "GetCurrentPosition error"⟩) := by
  simp [getVariables, TicBase.getTargetPosition, TicBase.getCurrentPosition, TicBase.getVar32, r₁, e₁, r₂, e₂]

end

/-! ## The commands as one family -/

/-- The commands of the interface, with their arguments. -/
inductive Command where
  | energize
  | deenergize
  | exitSafeStart
  | haltAndHold
  | setTargetPosition (position : Int32)
  | haltAndSetPosition (position : Int32)
  deriving DecidableEq, Repr

def command (i : TiclibInterface τ) : Command → Bool × TiclibInterface τ
  | .energize => i.energize T
  | .deenergize => i.deenergize T
  | .exitSafeStart => i.exitSafeStart T
  | .haltAndHold => i.haltAndHold T
  | .setTargetPosition position => i.setTargetPosition T position
  | .haltAndSetPosition position => i.haltAndSetPosition T position

/-- What a command calls on `TicBase`. -/
def Command.base (T : TicBase τ) : Command → Tic τ → Tic τ
  | .energize => T.energize
  | .deenergize => T.deenergize
  | .exitSafeStart => T.exitSafeStart
  | .haltAndHold => T.haltAndHold
  | .setTargetPosition position => T.setTargetPosition position
  | .haltAndSetPosition position => T.haltAndSetPosition position

/-- The call of a virtual function that comes of it. -/
def Command.call : Command → Call
  | .energize => .quick .energize
  | .deenergize => .quick .deenergize
  | .exitSafeStart => .quick .exitSafeStart
  | .haltAndHold => .quick .haltAndHold
  | .setTargetPosition position => .w32 .setTargetPosition position.toUInt32
  | .haltAndSetPosition position => .w32 .haltAndSetPosition position.toUInt32

theorem Command.base_call (c : Command) (buffer : List UInt8) (t : Tic τ) :
    T.call c.call buffer t = some (buffer, c.base T t) := by
  cases c <;> rfl

def Command.errorMsg : Command → String
  | .energize => "Energize error"
  | .deenergize => "De-energize error"
  | .exitSafeStart => "ExitSafeStart error"
  | .haltAndHold => "HaltAndHold error"
  | .setTargetPosition _ => "SetTargetPosition error"
  | .haltAndSetPosition _ => "HaltAndSetPosition error"

theorem command_eq (i : TiclibInterface τ) (c : Command) :
    i.command T c = report c.errorMsg (c.base T i.ticBase) := by
  cases c <;> rfl

/-- A command succeeds exactly when it leaves no last error. -/
theorem command_iff (i : TiclibInterface τ) (c : Command) :
    (i.command T c).1 = true ↔ (i.command T c).2.ticBase.lastError = 0 := by
  rw [command_eq, report]
  split <;> simp_all

end TiclibInterface

end TicFocuserNG
