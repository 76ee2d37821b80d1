import TicFocuserNG.Lib.RegisterMap
import TicFocuserNG.Transports

/- The variables of a Tic and the getters of `TicBase`.

   A Tic has its variables in a block of bytes, each at its offset with the least
   significant byte first. A getter reads some bytes of it and makes a value of them.

     1. `VarOffset.apart_all`: no two variables overlap; so the bytes at the offset of one
        hold its value (`read_variable`).
     2. `Readout.value_told`: every getter gives what it is named for;
        `getAnalogReading` of the pin RC, which has no such variable, two others. -/
namespace TicFocuserNG

/-! ## The variables -/

namespace VarOffset

/-- How many bytes a variable has: the type in its comment, except for
    InputAfterScaling, where that says two and the getter reads four. -/
def size : VarOffset → Nat
  | errorStatus | vinVoltage | rcPulseWidth | analogReadingSCL | analogReadingSDA | analogReadingTX | analogReadingRX
  | inputAfterAveraging | inputAfterHysteresis => 2
  | errorsOccurred | targetPosition | targetVelocity | startingSpeed | speedMax | decelMax | accelMax
  | currentPosition | currentVelocity | actingTargetPosition | timeSinceLastStep | upTime | encoderPosition
  | inputAfterScaling => 4
  | _ => 1

def all : List VarOffset :=
  [operationState, miscFlags1, errorStatus, errorsOccurred, planningMode, targetPosition, targetVelocity,
    startingSpeed, speedMax, decelMax, accelMax, currentPosition, currentVelocity, actingTargetPosition,
    timeSinceLastStep, deviceReset, vinVoltage, upTime, encoderPosition, rcPulseWidth, analogReadingSCL,
    analogReadingSDA, analogReadingTX, analogReadingRX, digitalReadings, pinStates, stepMode, currentLimit,
    decayMode, inputState, inputAfterAveraging, inputAfterHysteresis, inputAfterScaling, lastMotorDriverError,
    agcMode, agcBottomCurrentLimit, agcCurrentBoostSteps, agcFrequencyLimit, lastHpDriverErrors]

theorem mem_all (v : VarOffset) : v ∈ all := by
  cases v <;> decide

/-- No two variables overlap. -/
theorem apart_all : all.Pairwise (RegisterMap.Apart (fun v : VarOffset => v.code.toNat) size) := by decide

end VarOffset

namespace Ticlib

/-- The values of the variables, each within its bytes. -/
structure Variables where
  value : VarOffset → Nat
  fits : ∀ v, value v < 256 ^ v.size

/-- A byte of the block of the variables. -/
def Variables.byte (vars : Variables) (a : Nat) : UInt8 :=
  UInt8.ofNat (RegisterMap.block (fun v : VarOffset => v.code.toNat) VarOffset.size VarOffset.all vars.value a)

/-! ## The getters -/

inductive TicPin where
  | scl
  | sda
  | tx
  | rx
  | rc
  deriving DecidableEq, Repr

def TicPin.code : TicPin → UInt8
  | .scl => 0
  | .sda => 1
  | .tx => 2
  | .rx => 3
  | .rc => 4

/-- What a method returns. Of an enumeration, the code. -/
inductive Value where
  | flag (b : Bool)
  | u8 (v : UInt8)
  | u16 (v : UInt16)
  | u32 (v : UInt32)
  | i32 (v : Int32)
  | bytes (bs : List UInt8)
  deriving DecidableEq, Repr

/-- The ways the getters read. -/
inductive Readout where
  | var8 (v : VarOffset)
  | bit (v : VarOffset) (k : UInt8)
  /-- The two bits of a pin in PinStates. -/
  | pinState (pin : TicPin)
  | var16 (v : VarOffset)
  | var32 (v : VarOffset)
  | int32 (v : VarOffset)
  | analogReading (pin : TicPin)
  | currentLimit
  | errorsOccurred
  deriving DecidableEq, Repr

namespace Readout

def call : Readout → Call
  | var8 v | bit v _ => .segment .getVariable v.code 1
  | pinState _ => .segment .getVariable VarOffset.pinStates.code 1
  | var16 v => .segment .getVariable v.code 2
  | var32 v | int32 v => .segment .getVariable v.code 4
  | analogReading pin => .segment .getVariable (VarOffset.analogReadingSCL.code + 2 * pin.code) 2
  | currentLimit => .segment .getVariable VarOffset.currentLimit.code 1
  | errorsOccurred => .segment .getVariableAndClearErrorsOccurred VarOffset.errorsOccurred.code 4

/-- What is made of the bytes. A shift is one of an `int`, and a `uint32_t` read as such
    has its least significant byte first. -/
def value (product : TicProduct) (bs : List UInt8) : Readout → Value
  | var8 _ => .u8 (TicBase.value8 bs)
  | bit _ k => .flag ((TicBase.value8 bs).toUInt32 >>> k.toUInt32 &&& 1 != 0)
  | pinState pin => .u8 ((TicBase.value8 bs).toUInt32 >>> (2 * pin.code).toUInt32 &&& 3).toUInt8
  | var16 _ | analogReading _ => .u16 (TicBase.value16 bs)
  | var32 _ | errorsOccurred => .u32 (TicBase.value32 bs)
  | int32 _ => .i32 (TicBase.value32 bs).toInt32
  | currentLimit => .u16 (TicBase.currentOfCode product (TicBase.value8 bs))

end Readout

inductive Getter where
  | getOperationState
  | getEnergized
  | getPositionUncertain
  | getForwardLimitActive
  | getReverseLimitActive
  | getHomingActive
  | getErrorStatus
  | getErrorsOccurred
  | getPlanningMode
  | getTargetPosition
  | getTargetVelocity
  | getMaxSpeed
  | getStartingSpeed
  | getMaxAccel
  | getMaxDecel
  | getCurrentPosition
  | getCurrentVelocity
  | getActingTargetPosition
  | getTimeSinceLastStep
  | getDeviceReset
  | getVinVoltage
  | getUpTime
  | getEncoderPosition
  | getRCPulseWidth
  | getAnalogReading (pin : TicPin)
  | getDigitalReading (pin : TicPin)
  | getPinState (pin : TicPin)
  | getStepMode
  | getCurrentLimit
  | getDecayMode
  | getInputState
  | getInputAfterAveraging
  | getInputAfterHysteresis
  | getInputAfterScaling
  | getLastMotorDriverError
  | getAgcMode
  | getAgcBottomCurrentLimit
  | getAgcCurrentBoostSteps
  | getAgcFrequencyLimit
  | getLastHpDriverErrors
  deriving DecidableEq, Repr

def Getter.readout : Getter → Readout
  | getOperationState => .var8 .operationState
  | getEnergized => .bit .miscFlags1 0
  | getPositionUncertain => .bit .miscFlags1 1
  | getForwardLimitActive => .bit .miscFlags1 2
  | getReverseLimitActive => .bit .miscFlags1 3
  | getHomingActive => .bit .miscFlags1 4
  | getErrorStatus => .var16 .errorStatus
  | getErrorsOccurred => .errorsOccurred
  | getPlanningMode => .var8 .planningMode
  | getTargetPosition => .int32 .targetPosition
  | getTargetVelocity => .int32 .targetVelocity
  | getMaxSpeed => .var32 .speedMax
  | getStartingSpeed => .var32 .startingSpeed
  | getMaxAccel => .var32 .accelMax
  | getMaxDecel => .var32 .decelMax
  | getCurrentPosition => .int32 .currentPosition
  | getCurrentVelocity => .int32 .currentVelocity
  | getActingTargetPosition => .var32 .actingTargetPosition
  | getTimeSinceLastStep => .var32 .timeSinceLastStep
  | getDeviceReset => .var8 .deviceReset
  | getVinVoltage => .var16 .vinVoltage
  | getUpTime => .var32 .upTime
  | getEncoderPosition => .int32 .encoderPosition
  | getRCPulseWidth => .var16 .rcPulseWidth
  | getAnalogReading pin => .analogReading pin
  | getDigitalReading pin => .bit .digitalReadings pin.code
  | getPinState pin => .pinState pin
  | getStepMode => .var8 .stepMode
  | getCurrentLimit => .currentLimit
  | getDecayMode => .var8 .decayMode
  | getInputState => .var8 .inputState
  | getInputAfterAveraging => .var16 .inputAfterAveraging
  | getInputAfterHysteresis => .var16 .inputAfterHysteresis
  | getInputAfterScaling => .int32 .inputAfterScaling
  | getLastMotorDriverError => .var8 .lastMotorDriverError
  | getAgcMode => .var8 .agcMode
  | getAgcBottomCurrentLimit => .var8 .agcBottomCurrentLimit
  | getAgcCurrentBoostSteps => .var8 .agcCurrentBoostSteps
  | getAgcFrequencyLimit => .var8 .agcFrequencyLimit
  | getLastHpDriverErrors => .var8 .lastHpDriverErrors

/-! ## The variables in the bytes -/

theorem or_shifted {x i : Nat} (hx : x < 2 ^ i) (y : Nat) : x ||| y <<< i = x + 2 ^ i * y := by
  rw [Nat.shiftLeft_eq, Nat.mul_comm, Nat.or_comm, ← Nat.two_pow_add_eq_or_of_lt hx, Nat.add_comm]

theorem toNat_value16 (b₀ b₁ : UInt8) : (TicBase.value16 [b₀, b₁]).toNat = Nat.ofDigits 256 [b₀.toNat, b₁.toNat] := by
  have h₁ := b₁.toNat_lt
  have hshift : (b₁.toUInt16 <<< 8).toNat = b₁.toNat <<< 8 := by
    rw [UInt16.toNat_shiftLeft, UInt8.toNat_toUInt16]
    apply Nat.mod_eq_of_lt
    show b₁.toNat <<< 8 < 2 ^ 16
    rw [Nat.shiftLeft_eq]
    omega
  show (b₀.toUInt16 ||| b₁.toUInt16 <<< 8).toNat = _
  rw [UInt16.toNat_or, UInt8.toNat_toUInt16, hshift, or_shifted b₀.toNat_lt]
  simp only [Nat.ofDigits_cons, Nat.ofDigits_nil]
  omega

theorem toNat_shifted (b : UInt8) {k : Nat} (hk : k ≤ 24) : (b.toUInt32 <<< UInt32.ofNat k).toNat = b.toNat <<< k := by
  have hmod : (UInt32.ofNat k).toNat % 32 = k := by
    rw [UInt32.toNat_ofNat']
    omega
  rw [UInt32.toNat_shiftLeft, UInt8.toNat_toUInt32, hmod]
  apply Nat.mod_eq_of_lt
  rw [Nat.shiftLeft_eq]
  calc b.toNat * 2 ^ k < 2 ^ 8 * 2 ^ k := Nat.mul_lt_mul_of_pos_right b.toNat_lt (Nat.two_pow_pos k)
    _ = 2 ^ (8 + k) := (Nat.pow_add 2 8 k).symm
    _ ≤ 2 ^ 32 := Nat.pow_le_pow_right (by decide) (by omega)

theorem toNat_value32 (b₀ b₁ b₂ b₃ : UInt8) :
    (TicBase.value32 [b₀, b₁, b₂, b₃]).toNat = Nat.ofDigits 256 [b₀.toNat, b₁.toNat, b₂.toNat, b₃.toNat] := by
  have h₀ := b₀.toNat_lt
  have h₁ := b₁.toNat_lt
  have h₂ := b₂.toNat_lt
  have hsum : (TicBase.value32 [b₀, b₁, b₂, b₃]).toNat =
      b₀.toNat ||| b₁.toNat <<< 8 ||| b₂.toNat <<< 16 ||| b₃.toNat <<< 24 := by
    rw [← toNat_shifted b₁ (by decide), ← toNat_shifted b₂ (by decide), ← toNat_shifted b₃ (by decide),
      ← UInt8.toNat_toUInt32 b₀, ← UInt32.toNat_or, ← UInt32.toNat_or, ← UInt32.toNat_or]
    rfl
  rw [hsum, or_shifted h₀, or_shifted (show b₀.toNat + 2 ^ 8 * b₁.toNat < 2 ^ 16 by omega),
    or_shifted (show b₀.toNat + 2 ^ 8 * b₁.toNat + 2 ^ 16 * b₂.toNat < 2 ^ 24 by omega)]
  simp only [Nat.ofDigits_cons, Nat.ofDigits_nil]
  omega

namespace Variables
variable (vars : Variables)

/-- The bytes from an address on. -/
def bytes (a n : Nat) : List UInt8 := (List.range n).map fun k => vars.byte (a + k)

/-- The number in them. -/
def read (a n : Nat) : Nat :=
  RegisterMap.read (RegisterMap.block (fun v : VarOffset => v.code.toNat) VarOffset.size VarOffset.all vars.value) a n

theorem ofDigits_byte (a n : Nat) :
    Nat.ofDigits 256 ((List.range n).map fun k => (vars.byte (a + k)).toNat) = vars.read a n := by
  rw [read, RegisterMap.read]
  congr 1
  apply List.map_congr_left
  intro k _
  rw [byte, UInt8.toNat_ofNat', RegisterMap.block]
  cases VarOffset.all.find? (RegisterMap.covers (fun v : VarOffset => v.code.toNat) VarOffset.size (a + k)) with
  | none => rfl
  | some v => exact Nat.mod_mod _ _

theorem value8_bytes (a : Nat) : TicBase.value8 (vars.bytes a 1) = UInt8.ofNat (vars.read a 1) := by
  have h : (TicBase.value8 (vars.bytes a 1)).toNat = vars.read a 1 := by
    rw [← ofDigits_byte]
    exact Nat.ofDigits_singleton.symm
  rw [← h, UInt8.ofNat_toNat]

theorem value16_bytes (a : Nat) : TicBase.value16 (vars.bytes a 2) = UInt16.ofNat (vars.read a 2) := by
  have h : (TicBase.value16 (vars.bytes a 2)).toNat = vars.read a 2 := by
    rw [← ofDigits_byte]
    exact toNat_value16 _ _
  rw [← h, UInt16.ofNat_toNat]

theorem value32_bytes (a : Nat) : TicBase.value32 (vars.bytes a 4) = UInt32.ofNat (vars.read a 4) := by
  have h : (TicBase.value32 (vars.bytes a 4)).toNat = vars.read a 4 := by
    rw [← ofDigits_byte]
    exact toNat_value32 _ _ _ _
  rw [← h, UInt32.ofNat_toNat]

/-- A variable is what its bytes hold. -/
theorem read_variable (v : VarOffset) : vars.read v.code.toNat v.size = vars.value v :=
  (RegisterMap.read_block VarOffset.apart_all v.mem_all vars.value).trans (Nat.mod_eq_of_lt (vars.fits v))

end Variables

/-- The number that 32 bits hold in two's complement. -/
def signed32 (n : Nat) : Int := if n < 2 ^ 31 then n else (n : Int) - 2 ^ 32

/-- What a getter is to give of the variables. -/
def Readout.told (product : TicProduct) (vars : Variables) : Readout → Value
  | var8 v => .u8 (UInt8.ofNat (vars.value v))
  | bit v k => .flag ((vars.value v).testBit k.toNat)
  | pinState pin => .u8 (UInt8.ofNat (vars.value .pinStates / 4 ^ pin.code.toNat % 4))
  | var16 v => .u16 (UInt16.ofNat (vars.value v))
  | var32 v => .u32 (UInt32.ofNat (vars.value v))
  | int32 v => .i32 (Int32.ofInt (signed32 (vars.value v)))
  | analogReading .scl => .u16 (UInt16.ofNat (vars.value .analogReadingSCL))
  | analogReading .sda => .u16 (UInt16.ofNat (vars.value .analogReadingSDA))
  | analogReading .tx => .u16 (UInt16.ofNat (vars.value .analogReadingTX))
  | analogReading .rx => .u16 (UInt16.ofNat (vars.value .analogReadingRX))
  -- the pin has no analog reading: what comes behind that of RX
  | analogReading .rc => .u16 (UInt16.ofNat (vars.value .digitalReadings + 256 * vars.value .pinStates))
  | currentLimit => .u16 (TicBase.currentOfCode product (UInt8.ofNat (vars.value .currentLimit)))
  | errorsOccurred => .u32 (UInt32.ofNat (vars.value .errorsOccurred))

/-- A variable has as many bytes as are read of it, and a bit is one of them. -/
def Readout.Sized : Readout → Prop
  | var8 v => v.size = 1
  | bit v k => v.size = 1 ∧ k < 8
  | var16 v => v.size = 2
  | var32 v => v.size = 4
  | int32 v => v.size = 4
  | _ => True

instance (r : Readout) : Decidable r.Sized := by
  cases r <;> unfold Readout.Sized <;> infer_instance

theorem Getter.sized (g : Getter) : g.readout.Sized := by
  cases g with
  | getDigitalReading pin => cases pin <;> decide
  | getAnalogReading pin => trivial
  | getPinState pin => trivial
  | _ => decide

theorem shifted_bit {n : Nat} (hn : n < 256) {k : UInt8} (hk : k < 8) :
    ((UInt8.ofNat n).toUInt32 >>> k.toUInt32 &&& 1 != 0) = n.testBit k.toNat := by
  have hlt : k.toNat < 8 := hk
  have hmod : k.toNat % 32 = k.toNat := Nat.mod_eq_of_lt (by omega)
  have hone : (1 : UInt32).toNat = 1 := rfl
  have hnat : ((UInt8.ofNat n).toUInt32 >>> k.toUInt32 &&& 1).toNat = n >>> k.toNat &&& 1 := by
    rw [UInt32.toNat_and, UInt32.toNat_shiftRight, UInt8.toNat_toUInt32, UInt8.toNat_toUInt32, hmod, hone,
      UInt8.toNat_ofNat', Nat.mod_eq_of_lt hn]
  rw [Nat.testBit, Nat.and_comm, ← hnat, Bool.eq_iff_iff, bne_iff_ne, bne_iff_ne, ne_eq, ne_eq, ← UInt32.toNat_inj]
  rfl

theorem shifted_pin {n : Nat} (hn : n < 256) (pin : TicPin) :
    ((UInt8.ofNat n).toUInt32 >>> (2 * pin.code).toUInt32 &&& 3).toUInt8 =
      UInt8.ofNat (n / 4 ^ pin.code.toNat % 4) := by
  have hshift : (2 * pin.code).toUInt32.toNat % 32 = 2 * pin.code.toNat := by cases pin <;> rfl
  have hthree : (3 : UInt32).toNat = 2 ^ 2 - 1 := rfl
  apply UInt8.toNat_inj.mp
  rw [UInt32.toNat_toUInt8, UInt32.toNat_and, UInt32.toNat_shiftRight, hshift, UInt8.toNat_toUInt32,
    UInt8.toNat_ofNat', UInt8.toNat_ofNat', hthree, Nat.and_two_pow_sub_one_eq_mod, Nat.mod_eq_of_lt hn,
    Nat.shiftRight_eq_div_pow, Nat.pow_mul]

theorem toInt_eq_signed32 (p : Int32) : p.toInt = signed32 p.toUInt32.toNat := by
  have h : p.toInt = p.toBitVec.toInt := rfl
  have h' : p.toUInt32.toNat = p.toBitVec.toNat := rfl
  rw [h, h', BitVec.toInt_eq_toNat_cond, signed32]
  have := p.toBitVec.isLt
  split <;> split <;> omega

theorem toInt32_ofNat {n : Nat} (hn : n < 2 ^ 32) : (UInt32.ofNat n).toInt32 = Int32.ofInt (signed32 n) := by
  have hnat : (UInt32.ofNat n).toInt32.toUInt32.toNat = n := by
    show (UInt32.ofNat n).toNat = n
    rw [UInt32.toNat_ofNat']
    exact Nat.mod_eq_of_lt hn
  rw [← Int32.ofInt_toInt (UInt32.ofNat n).toInt32, toInt_eq_signed32, hnat]

theorem Readout.value_told (product : TicProduct) (vars : Variables) {r : Readout} (h : r.Sized)
    {cmd : TicCommand} {offset length : UInt8} {hcmd : cmd.kind = .segment}
    (hc : r.call = .segment cmd offset length hcmd) :
    r.value product (vars.bytes offset.toNat length.toNat) = r.told product vars := by
  have hread : ∀ {v : VarOffset} {n : Nat}, v.size = n → vars.read v.code.toNat n = vars.value v := by
    intro v n hsize
    rw [← hsize, vars.read_variable]
  have hbyte : ∀ {v : VarOffset}, v.size = 1 → vars.value v < 256 := by
    intro v hsize
    have hfits := vars.fits v
    rwa [hsize] at hfits
  have hlong : ∀ {v : VarOffset}, v.size = 4 → vars.value v < 2 ^ 32 := by
    intro v hsize
    have hfits := vars.fits v
    rwa [hsize] at hfits
  cases r with
  | var8 v =>
    cases hc
    exact congrArg Value.u8 ((vars.value8_bytes _).trans (congrArg _ (hread h)))
  | bit v k =>
    cases hc
    have hval := (vars.value8_bytes v.code.toNat).trans (congrArg _ (hread h.1))
    exact congrArg Value.flag ((congrArg (fun x : UInt8 => x.toUInt32 >>> k.toUInt32 &&& 1 != 0) hval).trans
      (shifted_bit (hbyte h.1) h.2))
  | pinState pin =>
    cases hc
    have hval := (vars.value8_bytes VarOffset.pinStates.code.toNat).trans (congrArg _ (hread rfl))
    exact congrArg Value.u8 ((congrArg (fun x : UInt8 => (x.toUInt32 >>> (2 * pin.code).toUInt32 &&& 3).toUInt8)
      hval).trans (shifted_pin (hbyte rfl) pin))
  | var16 v =>
    cases hc
    exact congrArg Value.u16 ((vars.value16_bytes _).trans (congrArg _ (hread h)))
  | var32 v =>
    cases hc
    exact congrArg Value.u32 ((vars.value32_bytes _).trans (congrArg _ (hread h)))
  | int32 v =>
    cases hc
    have hval := (vars.value32_bytes v.code.toNat).trans (congrArg _ (hread h))
    exact congrArg Value.i32 ((congrArg UInt32.toInt32 hval).trans (toInt32_ofNat (hlong h)))
  | analogReading pin =>
    cases hc
    have hword : ∀ v : VarOffset, v.size = 2 →
        Value.u16 (TicBase.value16 (vars.bytes v.code.toNat 2)) = .u16 (UInt16.ofNat (vars.value v)) := by
      intro v hsize
      exact congrArg Value.u16 ((vars.value16_bytes _).trans (congrArg _ (hread hsize)))
    cases pin with
    | scl => exact hword .analogReadingSCL rfl
    | sda => exact hword .analogReadingSDA rfl
    | tx => exact hword .analogReadingTX rfl
    | rx => exact hword .analogReadingRX rfl
    | rc =>
      -- the two bytes behind the reading of RX
      have hboth : vars.read VarOffset.digitalReadings.code.toNat 2 =
          vars.value .digitalReadings + 256 * vars.value .pinStates := by
        rw [← hread (show VarOffset.digitalReadings.size = 1 from rfl),
          ← hread (show VarOffset.pinStates.size = 1 from rfl)]
        exact RegisterMap.read_add _ _ 1 1
      exact congrArg Value.u16 ((vars.value16_bytes _).trans (congrArg _ hboth))
  | currentLimit =>
    cases hc
    exact congrArg (fun code => Value.u16 (TicBase.currentOfCode product code))
      ((vars.value8_bytes _).trans (congrArg _ (hread rfl)))
  | errorsOccurred =>
    cases hc
    exact congrArg Value.u32 ((vars.value32_bytes _).trans (congrArg _ (hread rfl)))

end Ticlib

end TicFocuserNG
