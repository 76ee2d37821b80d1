import TicFocuserNG.Streams

/- `TicBase` and its two transports.

   `Tic τ` is the state of a `TicBase` object, with the transport's own state
   `τ`; `TicBase τ` holds the virtual functions. `TicSerial` runs over any
   `Stream`, `TicUsb` over any `Libusb`. A getter reads into a local variable:
   what that variable holds before is an argument (`Uninit`), since a transport
   may leave it there.

   `getSegment` is `none` where the read loop of the stream does not return. -/
namespace TicFocuserNG

inductive TicProduct where
  | unknown
  | t825
  | t834
  | t500
  | t249
  | tic36v4
  deriving DecidableEq, Repr

inductive TicCommand where
  | setTargetPosition
  | setTargetVelocity
  | haltAndSetPosition
  | haltAndHold
  | goHome
  | resetCommandTimeout
  | deenergize
  | energize
  | exitSafeStart
  | enterSafeStart
  | reset
  | clearDriverError
  | setSpeedMax
  | setStartingSpeed
  | setAccelMax
  | setDecelMax
  | setStepMode
  | setCurrentLimit
  | setDecayMode
  | setAgcOption
  | getVariable
  | getVariableAndClearErrorsOccurred
  | getSetting
  deriving DecidableEq, Repr

def TicCommand.code : TicCommand → UInt8
  | .setTargetPosition => 0xE0
  | .setTargetVelocity => 0xE3
  | .haltAndSetPosition => 0xEC
  | .haltAndHold => 0x89
  | .goHome => 0x97
  | .resetCommandTimeout => 0x8C
  | .deenergize => 0x86
  | .energize => 0x85
  | .exitSafeStart => 0x83
  | .enterSafeStart => 0x8F
  | .reset => 0xB0
  | .clearDriverError => 0x8A
  | .setSpeedMax => 0xE6
  | .setStartingSpeed => 0xE5
  | .setAccelMax => 0xEA
  | .setDecelMax => 0xE9
  | .setStepMode => 0x94
  | .setCurrentLimit => 0x91
  | .setDecayMode => 0x92
  | .setAgcOption => 0x98
  | .getVariable => 0xA1
  | .getVariableAndClearErrorsOccurred => 0xA2
  | .getSetting => 0xA8

inductive VarOffset where
  | operationState
  | miscFlags1
  | errorStatus
  | errorsOccurred
  | planningMode
  | targetPosition
  | targetVelocity
  | startingSpeed
  | speedMax
  | decelMax
  | accelMax
  | currentPosition
  | currentVelocity
  | actingTargetPosition
  | timeSinceLastStep
  | deviceReset
  | vinVoltage
  | upTime
  | encoderPosition
  | rcPulseWidth
  | analogReadingSCL
  | analogReadingSDA
  | analogReadingTX
  | analogReadingRX
  | digitalReadings
  | pinStates
  | stepMode
  | currentLimit
  | decayMode
  | inputState
  | inputAfterAveraging
  | inputAfterHysteresis
  | inputAfterScaling
  | lastMotorDriverError
  | agcMode
  | agcBottomCurrentLimit
  | agcCurrentBoostSteps
  | agcFrequencyLimit
  | lastHpDriverErrors
  deriving DecidableEq, Repr

def VarOffset.code : VarOffset → UInt8
  | .operationState => 0x00
  | .miscFlags1 => 0x01
  | .errorStatus => 0x02
  | .errorsOccurred => 0x04
  | .planningMode => 0x09
  | .targetPosition => 0x0A
  | .targetVelocity => 0x0E
  | .startingSpeed => 0x12
  | .speedMax => 0x16
  | .decelMax => 0x1A
  | .accelMax => 0x1E
  | .currentPosition => 0x22
  | .currentVelocity => 0x26
  | .actingTargetPosition => 0x2A
  | .timeSinceLastStep => 0x2E
  | .deviceReset => 0x32
  | .vinVoltage => 0x33
  | .upTime => 0x35
  | .encoderPosition => 0x39
  | .rcPulseWidth => 0x3D
  | .analogReadingSCL => 0x3F
  | .analogReadingSDA => 0x41
  | .analogReadingTX => 0x43
  | .analogReadingRX => 0x45
  | .digitalReadings => 0x47
  | .pinStates => 0x48
  | .stepMode => 0x49
  | .currentLimit => 0x4A
  | .decayMode => 0x4B
  | .inputState => 0x4C
  | .inputAfterAveraging => 0x4D
  | .inputAfterHysteresis => 0x4F
  | .inputAfterScaling => 0x51
  | .lastMotorDriverError => 0x55
  | .agcMode => 0x56
  | .agcBottomCurrentLimit => 0x57
  | .agcCurrentBoostSteps => 0x58
  | .agcFrequencyLimit => 0x59
  | .lastHpDriverErrors => 0xFF

/-- A `TicBase` object over a transport whose state is `τ`. -/
structure Tic (τ : Type) where
  lastError : UInt8 := 0
  product : TicProduct := .unknown
  io : τ
  deriving DecidableEq, Repr

/-- The virtual functions of `TicBase`. -/
structure TicBase (τ : Type) where
  commandQuick : TicCommand → Tic τ → Tic τ
  commandW32 : TicCommand → UInt32 → Tic τ → Tic τ
  commandW7 : TicCommand → UInt8 → Tic τ → Tic τ
  getSegment : TicCommand → (offset length : UInt8) → (buffer : List UInt8) → Tic τ →
    Option (List UInt8 × Tic τ)

/-! ## The calls of the virtual functions -/

/-- What comes with a command: nothing, 32 bits, seven, or the request for a segment. -/
inductive TicCommand.Kind where
  | quick
  | w32
  | w7
  | segment
  deriving DecidableEq, Repr

def TicCommand.kind : TicCommand → Kind
  | .haltAndHold | .resetCommandTimeout | .deenergize | .energize | .exitSafeStart | .enterSafeStart | .reset
  | .clearDriverError => .quick
  | .setTargetPosition | .setTargetVelocity | .haltAndSetPosition | .setSpeedMax | .setStartingSpeed | .setAccelMax
  | .setDecelMax => .w32
  | .goHome | .setStepMode | .setCurrentLimit | .setDecayMode | .setAgcOption => .w7
  | .getVariable | .getVariableAndClearErrorsOccurred | .getSetting => .segment

/-- A call of a virtual function with one of its commands. -/
inductive Call where
  | quick (cmd : TicCommand) (h : cmd.kind = .quick := by exact Eq.refl TicCommand.Kind.quick)
  | w32 (cmd : TicCommand) (val : UInt32) (h : cmd.kind = .w32 := by exact Eq.refl TicCommand.Kind.w32)
  | w7 (cmd : TicCommand) (val : UInt8) (h : cmd.kind = .w7 := by exact Eq.refl TicCommand.Kind.w7)
  | segment (cmd : TicCommand) (offset length : UInt8)
    (h : cmd.kind = .segment := by exact Eq.refl TicCommand.Kind.segment)
  deriving DecidableEq, Repr

/-- How long the buffer of a call is. -/
def Call.length : Call → Nat
  | .segment _ _ length _ => length.toNat
  | _ => 0

/-- The buffer and the object after a call. -/
def TicBase.call {τ : Type} (T : TicBase τ) : Call → (buffer : List UInt8) → Tic τ → Option (List UInt8 × Tic τ)
  | .quick cmd _, buffer, t => some (buffer, T.commandQuick cmd t)
  | .w32 cmd val _, buffer, t => some (buffer, T.commandW32 cmd val t)
  | .w7 cmd val _, buffer, t => some (buffer, T.commandW7 cmd val t)
  | .segment cmd offset length _, buffer, t => T.getSegment cmd offset length buffer t

/-! ## The methods that the driver uses -/

/-- The bytes a getter's variable holds before the register is read into it. -/
abbrev Uninit := VarOffset → Nat → UInt8

def Uninit.buffer (u : Uninit) (offset : VarOffset) (n : Nat) : List UInt8 := (List.range n).map (u offset)

namespace TicBase
variable {τ : Type} (T : TicBase τ)

def setTargetPosition (position : Int32) : Tic τ → Tic τ := T.commandW32 .setTargetPosition position.toUInt32
def haltAndSetPosition (position : Int32) : Tic τ → Tic τ := T.commandW32 .haltAndSetPosition position.toUInt32
def haltAndHold : Tic τ → Tic τ := T.commandQuick .haltAndHold
def deenergize : Tic τ → Tic τ := T.commandQuick .deenergize
def energize : Tic τ → Tic τ := T.commandQuick .energize
def exitSafeStart : Tic τ → Tic τ := T.commandQuick .exitSafeStart

/-- The values of one, two and four bytes, the least significant first. -/
def value8 (buffer : List UInt8) : UInt8 := buffer.getD 0 0
def value16 (buffer : List UInt8) : UInt16 :=
  (buffer.getD 0 0).toUInt16 ||| (buffer.getD 1 0).toUInt16 <<< 8
def value32 (buffer : List UInt8) : UInt32 :=
  (buffer.getD 0 0).toUInt32 ||| (buffer.getD 1 0).toUInt32 <<< 8 |||
    (buffer.getD 2 0).toUInt32 <<< 16 ||| (buffer.getD 3 0).toUInt32 <<< 24

/-- A register of `n` bytes, read into a local buffer. -/
def getVar (n : UInt8) (u : Uninit) (offset : VarOffset) (t : Tic τ) : Option (List UInt8 × Tic τ) :=
  T.getSegment .getVariable offset.code n (u.buffer offset n.toNat) t

def getVar8 (u : Uninit) (offset : VarOffset) (t : Tic τ) : Option (UInt8 × Tic τ) :=
  (T.getVar 1 u offset t).map fun (buffer, t) => (value8 buffer, t)

def getVar16 (u : Uninit) (offset : VarOffset) (t : Tic τ) : Option (UInt16 × Tic τ) :=
  (T.getVar 2 u offset t).map fun (buffer, t) => (value16 buffer, t)

def getVar32 (u : Uninit) (offset : VarOffset) (t : Tic τ) : Option (UInt32 × Tic τ) :=
  (T.getVar 4 u offset t).map fun (buffer, t) => (value32 buffer, t)

def getTargetPosition (u : Uninit) (t : Tic τ) : Option (Int32 × Tic τ) :=
  (T.getVar32 u .targetPosition t).map fun (v, t) => (v.toInt32, t)

def getCurrentPosition (u : Uninit) (t : Tic τ) : Option (Int32 × Tic τ) :=
  (T.getVar32 u .currentPosition t).map fun (v, t) => (v.toInt32, t)

def getVinVoltage (u : Uninit) (t : Tic τ) : Option (UInt16 × Tic τ) := T.getVar16 u .vinVoltage t

def getEnergized (u : Uninit) (t : Tic τ) : Option (Bool × Tic τ) :=
  (T.getVar8 u .miscFlags1 t).map fun (v, t) => (v &&& 1 != 0, t)

def getStepMode (u : Uninit) (t : Tic τ) : Option (UInt8 × Tic τ) := T.getVar8 u .stepMode t

def getOperationState (u : Uninit) (t : Tic τ) : Option (UInt8 × Tic τ) := T.getVar8 u .operationState t

def getErrorStatus (u : Uninit) (t : Tic τ) : Option (UInt16 × Tic τ) := T.getVar16 u .errorStatus t

def tic03aCurrentTable : List UInt16 :=
  [0, 1, 174, 343, 495, 634, 762, 880, 990, 1092, 1189, 1281, 1368, 1452, 1532, 1611, 1687, 1762, 1835,
    1909, 1982, 2056, 2131, 2207, 2285, 2366, 2451, 2540, 2634, 2734, 2843, 2962, 3093]

/-- The conversion of `getCurrentLimit`, in mA. -/
def currentOfCode (product : TicProduct) (code : UInt8) : UInt16 :=
  match product with
  | .t500 => tic03aCurrentTable.getD (if 32 < code then 32 else code).toNat 0
  | .t249 => UInt16.ofNat (code.toNat * 40)
  | .tic36v4 => UInt16.ofNat ((55000 * code.toNat + 384) / 768)
  | _ => UInt16.ofNat (code.toNat * 32)

def getCurrentLimit (u : Uninit) (t : Tic τ) : Option (UInt16 × Tic τ) :=
  (T.getVar8 u .currentLimit t).map fun (code, t) => (currentOfCode t.product code, t)

end TicBase

/-! ## TicSerial -/

namespace TicSerial
variable {τ : Type} (S : Stream τ) (deviceNumber : UInt8)

/-- A byte to the stream, whose result is not looked at. -/
def put (byte : UInt8) (t : Tic τ) : Tic τ := { t with io := (S.write byte t.io).2 }

def serialW7 (val : UInt8) : Tic τ → Tic τ := put S (val &&& 0x7F)

def sendCommandHeader (cmd : TicCommand) (t : Tic τ) : Tic τ :=
  let t :=
    if deviceNumber = 255 then put S cmd.code t
    else serialW7 S cmd.code (serialW7 S deviceNumber (put S 0xAA t))
  { t with lastError := 0 }

/-- The byte with the most significant bits of the four data bytes. -/
def msbs (val : UInt32) : UInt8 :=
  UInt32.toUInt8 ((val >>> 7 &&& (1 : UInt32)) ||| (val >>> 14 &&& (2 : UInt32)) |||
    (val >>> 21 &&& (4 : UInt32)) ||| (val >>> 28 &&& (8 : UInt32)))

def commandW32 (cmd : TicCommand) (val : UInt32) (t : Tic τ) : Tic τ :=
  let t := sendCommandHeader S deviceNumber cmd t
  let t := serialW7 S (msbs val) t
  let t := serialW7 S val.toUInt8 t
  let t := serialW7 S (val >>> 8).toUInt8 t
  let t := serialW7 S (val >>> 16).toUInt8 t
  let t := serialW7 S (val >>> 24).toUInt8 t
  { t with lastError := 0 }

def commandW7 (cmd : TicCommand) (val : UInt8) (t : Tic τ) : Tic τ :=
  let t := serialW7 S val (sendCommandHeader S deviceNumber cmd t)
  { t with lastError := 0 }

def getSegment (cmd : TicCommand) (offset length : UInt8) (buffer : List UInt8) (t : Tic τ) :
    Option (List UInt8 × Tic τ) :=
  let length := length &&& 0x3F
  let t := sendCommandHeader S deviceNumber cmd t
  let t := serialW7 S (offset &&& 0x7F) t
  let t := serialW7 S (length ||| (offset >>> 1 &&& (0x40 : UInt8))) t
  match S.readBytes buffer length.toNat t.io with
  | none => none
  | some (byteCount, buffer, io) =>
    if UInt8.ofNat byteCount ≠ length then
      some (List.replicate length.toNat 0 ++ buffer.drop length.toNat, { t with lastError := 50, io })
    else some (buffer, { t with lastError := 0, io })

def base : TicBase τ where
  commandQuick := sendCommandHeader S deviceNumber
  commandW32 := commandW32 S deviceNumber
  commandW7 := commandW7 S deviceNumber
  getSegment := getSegment S deviceNumber

end TicSerial

/-! ## TicUsb -/

/-- The errors of libusb. -/
inductive LibusbError where
  | io
  | invalidParam
  | access
  | noDevice
  | notFound
  | busy
  | timeout
  | overflow
  | pipe
  | interrupted
  | noMem
  | notSupported
  | other
  deriving DecidableEq, Repr

def LibusbError.code : LibusbError → Int32
  | .io => -1
  | .invalidParam => -2
  | .access => -3
  | .noDevice => -4
  | .notFound => -5
  | .busy => -6
  | .timeout => -7
  | .overflow => -8
  | .pipe => -9
  | .interrupted => -10
  | .noMem => -11
  | .notSupported => -12
  | .other => -99

/-- `libusb_control_transfer` over a state `σ`: its result, and the bytes it
    puts into the buffer. -/
structure Libusb (σ : Type) where
  controlTransfer : (handle : Option Nat) → (bmRequestType bRequest : UInt8) →
    (wValue wIndex wLength : UInt16) → σ → (Int32 × { bs : List UInt8 // bs.length ≤ wLength.toNat }) × σ

/-- A transfer may leave the buffer as it is. -/
theorem length_nil_le (wLength : UInt16) : ([] : List UInt8).length ≤ wLength.toNat := Nat.zero_le _

structure TicUsb (σ : Type) where
  handle : Option Nat := none
  usb : σ

namespace TicUsb
variable {σ : Type} (L : Libusb σ)

/-- An `int`, stored in `_lastError`. -/
def narrow (r : Int32) : UInt8 := r.toUInt32.toUInt8

/-- The common body of the three commands: a transfer without data, and
    `_lastError > 0? 0: _lastError`. -/
def control (cmd : TicCommand) (wValue wIndex : UInt16) (t : Tic (TicUsb σ)) : Tic (TicUsb σ) :=
  let ((r, _), usb) := L.controlTransfer t.io.handle 0x40 cmd.code wValue wIndex 0 t.io.usb
  { t with lastError := if 0 < narrow r then 0 else narrow r, io := { t.io with usb } }

def commandQuick (cmd : TicCommand) : Tic (TicUsb σ) → Tic (TicUsb σ) := control L cmd 0 0

def commandW32 (cmd : TicCommand) (val : UInt32) : Tic (TicUsb σ) → Tic (TicUsb σ) :=
  control L cmd val.toUInt16 (val >>> 16).toUInt16

def commandW7 (cmd : TicCommand) (val : UInt8) : Tic (TicUsb σ) → Tic (TicUsb σ) :=
  control L cmd val.toUInt16 0

/-- `_lastError < 0` is a comparison of an unsigned byte, and never true.
    `LIBUSB_ERROR_OTHER` is -99. -/
def getSegment (cmd : TicCommand) (offset length : UInt8) (buffer : List UInt8) (t : Tic (TicUsb σ)) :
    Option (List UInt8 × Tic (TicUsb σ)) :=
  let ((r, bs), usb) := L.controlTransfer t.io.handle 0xC0 cmd.code 0 offset.toUInt16 length.toUInt16 t.io.usb
  let lastError :=
    if narrow r < 0 then narrow r
    else if narrow r ≠ length then narrow (-99)
    else 0
  some (poke buffer 0 bs, { t with lastError, io := { t.io with usb } })

def base : TicBase (TicUsb σ) where
  commandQuick := commandQuick L
  commandW32 := commandW32 L
  commandW7 := commandW7 L
  getSegment := getSegment L

end TicUsb

end TicFocuserNG
