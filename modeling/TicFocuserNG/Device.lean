import TicFocuserNG.Lib.Framing
import TicFocuserNG.TiclibInterface

/- The Tic at the other end of the transports.

   `TicOp` is what a Tic can be asked for: every command of `TicBase`, with its data.
   `Firmware` is any controller: the bytes it answers a request with, after the operations
   it was asked for. `usbTic` decodes control transfers, `serialTic` the bytes of the
   compact protocol, each in its own way; both perform the same operations. The replies of
   `serialTic` wait on the link until `::read` finds them: how many bytes the `k`-th
   `::read` may find is `found k`. -/
namespace TicFocuserNG

inductive TicOp where
  | quick (cmd : TicCommand)
  | w32 (cmd : TicCommand) (val : Nat)
  | w7 (cmd : TicCommand) (val : Nat)
  | segment (cmd : TicCommand) (offset length : Nat)
  deriving DecidableEq, Repr

/-- What a transport carries: of the argument of `commandW7`, and of the length of
    `getSegment`, the rest of a division by these. -/
structure Wire where
  val : Nat
  length : Nat
  deriving DecidableEq, Repr

def Wire.usb : Wire := ⟨256, 256⟩
def Wire.serial : Wire := ⟨128, 64⟩

/-- What a Tic is asked for by a call. -/
def Call.op (w : Wire) : Call → TicOp
  | .quick cmd _ => .quick cmd
  | .w32 cmd val _ => .w32 cmd val.toNat
  | .w7 cmd val _ => .w7 cmd (val.toNat % w.val)
  | .segment cmd offset length _ => .segment cmd offset.toNat (length.toNat % w.length)

/-- The bytes that a request is answered with, after the operations so far. -/
abbrev Firmware := List TicOp → (cmd : TicCommand) → Nat → UInt8

/-- The reply to a request after the operations `ops`. -/
def Firmware.reply (fw : Firmware) (ops : List TicOp) (cmd : TicCommand) (offset length : Nat) : List UInt8 :=
  (List.range length).map fun k => fw ops cmd (offset + k)

@[simp] theorem Firmware.length_reply (fw : Firmware) (ops : List TicOp) (cmd : TicCommand) (offset length : Nat) :
    (fw.reply ops cmd offset length).length = length := by
  simp [Firmware.reply]

/-- What the controller sends back for an operation. -/
def TicOp.answer (fw : Firmware) (ops : List TicOp) : TicOp → List UInt8
  | .segment cmd offset length => fw.reply ops cmd offset length
  | _ => []

/-- What it sends back for operations one after the other. -/
def Firmware.replies (fw : Firmware) : (ops new : List TicOp) → List UInt8
  | _, [] => []
  | ops, op :: new => op.answer fw ops ++ fw.replies (ops ++ [op]) new

theorem Firmware.replies_append (fw : Firmware) (ops new rest : List TicOp) :
    fw.replies ops (new ++ rest) = fw.replies ops new ++ fw.replies (ops ++ new) rest := by
  induction new generalizing ops with
  | nil => rw [List.nil_append, List.append_nil, replies, List.nil_append]
  | cons op new ih =>
    rw [List.cons_append, replies, replies, ih, List.append_assoc, List.append_assoc, List.singleton_append]

/-! ## The commands -/

namespace TicCommand

/-- The command with a code. -/
def ofCode (code : UInt8) : Option TicCommand :=
  [.setTargetPosition, .setTargetVelocity, .haltAndSetPosition, .haltAndHold, .goHome, .resetCommandTimeout,
    .deenergize, .energize, .exitSafeStart, .enterSafeStart, .reset, .clearDriverError, .setSpeedMax,
    .setStartingSpeed, .setAccelMax, .setDecelMax, .setStepMode, .setCurrentLimit, .setDecayMode, .setAgcOption,
    .getVariable, .getVariableAndClearErrorsOccurred, .getSetting].find? fun cmd : TicCommand => cmd.code = code

theorem ofCode_code (cmd : TicCommand) : ofCode cmd.code = some cmd := by
  cases cmd <;> rfl

/-- The codes are those of command bytes. -/
theorem le_code (cmd : TicCommand) : 0x80 ≤ cmd.code := by
  cases cmd <;> decide

end TicCommand

/-! ## Over USB -/

/-- The operation a control transfer asks for. -/
def decodeSetup (bmRequestType bRequest : UInt8) (wValue wIndex wLength : UInt16) : Option TicOp :=
  (TicCommand.ofCode bRequest).bind fun cmd =>
    if bmRequestType = 0x40 then
      match cmd.kind with
      | .quick => some (.quick cmd)
      | .w32 => some (.w32 cmd (wIndex.toNat * 65536 + wValue.toNat))
      | .w7 => some (.w7 cmd wValue.toNat)
      | .segment => none
    else if bmRequestType = 0xC0 ∧ cmd.kind = .segment then some (.segment cmd wIndex.toNat wLength.toNat)
    else none

/-- A Tic on the bus, with the operations it was asked for; it stalls on a
    request it does not know. -/
def usbTic (fw : Firmware) : Libusb (List TicOp) where
  controlTransfer _ bmRequestType bRequest wValue wIndex wLength ops :=
    match decodeSetup bmRequestType bRequest wValue wIndex wLength with
    | none => ((-9, ⟨[], length_nil_le _⟩), ops)
    | some op =>
      ((Int32.ofNat wLength.toNat, ⟨(op.answer fw ops).take wLength.toNat, List.length_take_le _ _⟩),
        ops ++ [op])

/-! ## Over the serial line -/

/-- The value of four data bytes, their most significant bits in `msbs`. -/
def decodeW32 (msbs b₀ b₁ b₂ b₃ : UInt8) : Nat :=
  (b₀.toNat + 128 * (msbs.toNat.testBit 0).toNat) +
    256 * (b₁.toNat + 128 * (msbs.toNat.testBit 1).toNat) +
    65536 * (b₂.toNat + 128 * (msbs.toNat.testBit 2).toNat) +
    16777216 * (b₃.toNat + 128 * (msbs.toNat.testBit 3).toNat)

/-- A command with its data bytes. -/
def decodeData (cmd : TicCommand) (data : List UInt8) : Option TicOp :=
  match cmd.kind, data with
  | .quick, [] => some (.quick cmd)
  | .w7, [val] => some (.w7 cmd val.toNat)
  | .segment, [offset, length] =>
    some (.segment cmd (offset.toNat + 128 * (length.toNat.testBit 6).toNat) (length.toNat % 64))
  | .w32, [msbs, b₀, b₁, b₂, b₃] => some (.w32 cmd (decodeW32 msbs b₀ b₁ b₂ b₃))
  | _, _ => none

/-- The operation a complete frame of the compact protocol asks for. -/
def decodeFrame : List UInt8 → Option TicOp
  | [] => none
  | code :: data => (TicCommand.ofCode code).bind fun cmd => decodeData cmd data

/-- A command byte starts a frame anew. -/
def compact : Framing.Format UInt8 TicOp where
  head byte := decide (0x80 ≤ byte)
  decode := decodeFrame

structure SerialTic extends Framing.Receiver UInt8 TicOp where
  /-- All bytes received, and all reply bytes sent. -/
  wire : List UInt8 := []
  sent : List UInt8 := []
  /-- Reply bytes read off the link, and `::read` calls made for them. -/
  taken : Nat := 0
  reads : Nat := 0
  deriving DecidableEq, Repr

namespace SerialTic

/-- All operations asked for. -/
abbrev ops (t : SerialTic) : List TicOp := t.out

/-- One byte from the line; an operation is performed, and replied to, when its frame is
    complete. -/
def receive (fw : Firmware) (t : SerialTic) (byte : UInt8) : SerialTic :=
  let received := Framing.receive compact t.toReceiver byte
  { t with
    toReceiver := received
    wire := t.wire ++ [byte]
    sent := t.sent ++ fw.replies t.ops (received.out.drop t.ops.length) }

/-- How many bytes a `::read` of up to `n` finds. -/
def finds (found : Nat → Nat) (n : Nat) (t : SerialTic) : Nat :=
  min (found t.reads) (min n (t.sent.length - t.taken))

/-- The oldest `c` reply bytes on the link. -/
def next (c : Nat) (t : SerialTic) : List UInt8 := (t.sent.drop t.taken).take c

theorem length_next {c : Nat} {t : SerialTic} (h : t.taken + c ≤ t.sent.length) : (t.next c).length = c := by
  simp only [next, List.length_take, List.length_drop]
  omega

/-- The Tic after `c` bytes were read off the link in `r` reads. -/
def delivered (c r : Nat) (t : SerialTic) : SerialTic :=
  { t with taken := t.taken + c, reads := t.reads + r }

theorem next_add (c c' : Nat) (t : SerialTic) (r : Nat) : t.next (c + c') = t.next c ++ (t.delivered c r).next c' := by
  simp only [next, delivered, List.take_add, List.drop_drop]

theorem length_next_finds (found : Nat → Nat) (n : Nat) (t : SerialTic) :
    (t.next (t.finds found n)).length = t.finds found n := by
  simp only [next, finds, List.length_take, List.length_drop]
  omega

end SerialTic

/-- The link to a Tic: every byte written arrives, no call fails, and the `k`-th
    `::read` finds at most `found k` bytes. -/
def serialTic (fw : Firmware) (found : Nat → Nat) : Posix SerialTic where
  read _ n t :=
    (some ⟨t.next (t.finds found n), by rw [t.length_next_finds]; unfold SerialTic.finds; omega⟩,
      t.delivered (t.finds found n) 1)
  write _ byte t := (1, t.receive fw byte)
  socket t := (some 3, t)
  setsockopt _ _ t := (0, t)
  bind _ t := (0, t)
  connect _ _ t := (0, t)
  close _ t := t

/-- A `::read` brings the oldest bytes of the link; some, if it finds some and
    some are there. -/
theorem read_serialTic (fw : Firmware) (found : Nat → Nat) (fd : Int) (n : Nat) {t : SerialTic}
    (htaken : t.taken ≤ t.sent.length) :
    ∃ (chunk : { bs : List UInt8 // bs.length ≤ n }) (c : Nat),
      (serialTic fw found).read fd n t = (some chunk, t.delivered c 1) ∧ chunk.val = t.next c ∧
      chunk.val.length = c ∧ c ≤ n ∧ t.taken + c ≤ t.sent.length ∧
      ((∀ k, 0 < found k) → 0 < n → t.taken < t.sent.length → 0 < c) := by
  refine ⟨_, t.finds found n, rfl, rfl, t.length_next_finds found n, ?_, ?_, ?_⟩
  · unfold SerialTic.finds
    omega
  · unfold SerialTic.finds
    omega
  · intro hfound h0 hsent
    have := hfound t.reads
    unfold SerialTic.finds
    omega

end TicFocuserNG
