import Mathlib.Data.List.Induction
import TicFocuserNG.Motion
import TicFocuserNG.Transports

/- A Tic that turns a motor, as the transports meet it.

   A `Board` is a `Controller` whose positions fill the position registers, and whose
   motor goes on between any two operations; its other registers stay as they are.

     1. `after_snoc`: the controller after one operation more.
     2. `variables_eq`: a poll reads eight registers one after the other, and the two
        positions it delivers are those of the moment of the second read. -/
namespace TicFocuserNG

/-! ## The board -/

/-- Byte `k` of a register of four. -/
def registerByte (p : Int32) (k : Nat) : UInt8 := UInt8.ofNat (p.toUInt32.toNat >>> (8 * k))

/-- The command to the motor that an operation is. -/
def TicOp.motion : TicOp → Option MotionCommand
  | .w32 .setTargetPosition val => some (.setTargetPosition (UInt32.ofNat val).toInt32)
  | .quick .haltAndHold => some .haltAndHold
  | .w32 .haltAndSetPosition val => some (.haltAndSetPosition (UInt32.ofNat val).toInt32)
  | _ => none

theorem motion_setTargetPosition (p : Int32) :
    (TiclibInterface.Command.setTargetPosition p).op.motion = some (.setTargetPosition p) :=
  congrArg (fun v : UInt32 => some (MotionCommand.setTargetPosition v.toInt32)) UInt32.ofNat_toNat

theorem motion_haltAndSetPosition (p : Int32) :
    (TiclibInterface.Command.haltAndSetPosition p).op.motion = some (.haltAndSetPosition p) :=
  congrArg (fun v : UInt32 => some (MotionCommand.haltAndSetPosition v.toInt32)) UInt32.ofNat_toNat

namespace Controller

def perform (c : Controller) (op : TicOp) : Controller :=
  match op.motion with
  | some m => c.accept m
  | none => c

end Controller

structure Board where
  product : TicProduct
  /-- The registers that hold no position. -/
  registers : Nat → UInt8
  target : Int32
  position : Int32
  driving : Bool
  /-- The steps the motor may make before the `k`-th operation. -/
  pace : Nat → Nat

namespace Board

/-- The bytes of a register that holds no position. -/
def bytes (b : Board) (offset : VarOffset) (n : Nat) : List UInt8 :=
  (List.range n).map fun k => b.registers (offset.code.toNat + k)

/-- The variables other than the positions. -/
def info (b : Board) : TicVariables :=
  TiclibInterface.variablesOf b.product [] [] (b.bytes .vinVoltage 2) (b.bytes .currentLimit 1)
    (b.bytes .miscFlags1 1) (b.bytes .stepMode 1) (b.bytes .operationState 1) (b.bytes .errorStatus 2)

/-- The controller before any operation. -/
def controller (b : Board) : Controller where
  target := b.target
  position := b.position
  driving := b.driving
  info := b.info

/-- The controller that the next operation finds, after `k` of them and in the
    state `c` since. -/
def turned (b : Board) (k : Nat) (c : Controller) : Controller := c.advance (b.pace k)

/-- The controller after the operations `ops`. -/
def after (b : Board) (ops : List TicOp) : Controller :=
  (ops.foldl (fun s op => ((b.turned s.2 s.1).perform op, s.2 + 1)) (b.controller, 0)).1

/-- The controller as the operation after `ops` finds it. -/
def now (b : Board) (ops : List TicOp) : Controller := b.turned ops.length (b.after ops)

def firmware (b : Board) : Firmware := fun ops _ offset =>
  if 0x0A ≤ offset ∧ offset < 0x0E then registerByte (b.now ops).target (offset - 0x0A)
  else if 0x22 ≤ offset ∧ offset < 0x26 then registerByte (b.now ops).position (offset - 0x22)
  else b.registers offset

/-- At rest at 0, and ready to make up to 30 steps between two operations. -/
def atZero : Board where
  product := .t825
  registers _ := 0
  target := 0
  position := 0
  driving := true
  pace _ := 30

theorem after_snoc (b : Board) (ops : List TicOp) (op : TicOp) : b.after (ops ++ [op]) = (b.now ops).perform op := by
  have hcount : ∀ (ops : List TicOp) (s : Controller × Nat),
      (ops.foldl (fun s op => ((b.turned s.2 s.1).perform op, s.2 + 1)) s).2 = s.2 + ops.length := by
    intro ops
    induction ops with
    | nil => intro s; rfl
    | cons op ops ih =>
      intro s
      rw [List.foldl_cons, ih, List.length_cons]
      omega
  rw [after, List.foldl_append, List.foldl_cons, List.foldl_nil, hcount, Nat.zero_add]
  rfl

/-- A read leaves the controller alone. -/
theorem after_read (b : Board) (ops : List TicOp) (offset : VarOffset) (n : Nat) :
    b.after (ops ++ [offset.read n]) = b.now ops := b.after_snoc ops _

end Board

/-! ## Reading the positions -/

theorem value32_registerByte (p : Int32) :
    (TicBase.value32 ((List.range 4).map (registerByte p))).toInt32 = p := by
  have hvalue : TicBase.value32 ((List.range 4).map (registerByte p)) = p.toUInt32 := by
    apply UInt32.toNat_inj.mp
    apply Nat.eq_of_testBit_eq
    intro i
    have hlt := p.toUInt32.toNat_lt
    have hbig : 32 ≤ i → p.toUInt32.toNat.testBit i = false := by
      intro hi
      exact Nat.testBit_lt_two_pow (Nat.lt_of_lt_of_le hlt (Nat.pow_le_pow_right (by omega) hi))
    have h8 : (8 : UInt32).toNat % 32 = 8 := rfl
    have h16 : (16 : UInt32).toNat % 32 = 16 := rfl
    have h24 : (24 : UInt32).toNat % 32 = 24 := rfl
    have hbytes : (List.range 4).map (registerByte p) =
        [registerByte p 0, registerByte p 1, registerByte p 2, registerByte p 3] := rfl
    simp only [hbytes, TicBase.value32, List.getD_cons_zero, List.getD_cons_succ, registerByte, UInt32.toNat_or,
      UInt32.toNat_shiftLeft, UInt8.toNat_toUInt32, UInt8.toNat_ofNat', h8, h16, h24, Nat.testBit_or,
      Nat.testBit_mod_two_pow, Nat.testBit_shiftLeft, Nat.testBit_shiftRight]
    generalize p.toUInt32.toNat.testBit = bit at hbig ⊢
    -- bit `i` stands in byte `i / 8`
    have hbyte : i < 8 ∨ 8 ≤ i ∧ i < 16 ∨ 16 ≤ i ∧ i < 24 ∨ 24 ≤ i ∧ i < 32 ∨ 32 ≤ i := by omega
    rcases hbyte with h | h | h | h | h
    · grind
    · grind
    · grind
    · grind
    · grind
  rw [hvalue]
  rfl

namespace Board
variable (b : Board)

theorem reply_target (ops : List TicOp) :
    b.firmware.reply ops .getVariable VarOffset.targetPosition.code.toNat 4 =
      (List.range 4).map (registerByte (b.now ops).target) := rfl

theorem reply_position (ops : List TicOp) :
    b.firmware.reply ops .getVariable VarOffset.currentPosition.code.toNat 4 =
      (List.range 4).map (registerByte (b.now ops).position) := rfl

theorem info_after (ops : List TicOp) : (b.after ops).info = b.info := by
  induction ops using List.reverseRecOn with
  | nil => rfl
  | append_singleton ops op ih =>
    rw [after_snoc, Controller.perform]
    cases op.motion with
    | none => rw [now, turned, Controller.advance_info, ih]
    | some m =>
      have haccept : ((b.now ops).accept m).info = (b.now ops).info := by cases m <;> rfl
      rw [haccept, now, turned, Controller.advance_info, ih]

theorem now_read (ops : List TicOp) (offset : VarOffset) (n : Nat) :
    b.now (ops ++ [offset.read n]) = b.turned (ops.length + 1) (b.now ops) := by
  rw [now, after_read, List.length_append, List.length_singleton]

/-- **The moment of a poll.** Nothing but a command moves the target, so the two
    positions are those of the second read, whatever the motor does meanwhile. -/
theorem variables_eq (ops : List TicOp) :
    b.firmware.variables b.product ops = (b.after (ops ++ registerReads.take 2)).report := by
  have htwo : ops ++ registerReads.take 2 =
      ops ++ [VarOffset.targetPosition.read 4] ++ [VarOffset.currentPosition.read 4] := by
    simp [registerReads]
  have htarget : (b.now (ops ++ [VarOffset.targetPosition.read 4])).target = (b.now ops).target := by
    rw [now_read, turned, Controller.advance_target]
  have hreport : (b.after (ops ++ registerReads.take 2)).report =
      { b.info with
        currentPosition := (b.now (ops ++ [VarOffset.targetPosition.read 4])).position
        targetPosition := (b.now ops).target } := by
    rw [Controller.report, info_after, htwo, after_read, htarget]
  rw [hreport, Firmware.variables]
  simp only [List.take_zero, List.append_nil, reply_target]
  show TiclibInterface.variablesOf _ _ (b.firmware.reply (ops ++ [VarOffset.targetPosition.read 4]) _ _ 4)
    _ _ _ _ _ _ = _
  rw [reply_position, TiclibInterface.variablesOf, value32_registerByte, value32_registerByte]
  rfl

/-! ## The events between operations -/

/-- The motor going on before `n` operations, from the `k`-th on. -/
def idle : (k n : Nat) → List Event
  | _, 0 => []
  | k, n + 1 => .advance (b.pace k) :: idle (k + 1) n

/-- Operations that do not command the motor. -/
theorem idle_run (f : TicFocuser) (ops quiet : List TicOp) (h : ∀ op ∈ quiet, op.motion = none) :
    (b.idle ops.length quiet.length).foldl World.step ⟨f, b.after ops⟩ = ⟨f, b.after (ops ++ quiet)⟩ := by
  induction quiet generalizing ops with
  | nil => rw [List.append_nil]; rfl
  | cons op quiet ih =>
    have hop : op.motion = none := h op List.mem_cons_self
    have hafter : b.after (ops ++ [op]) = b.now ops := by
      rw [after_snoc, Controller.perform, hop]
    have hrest := ih (ops ++ [op]) (fun op' hop' => h op' (List.mem_cons_of_mem op hop'))
    rw [List.length_append, List.length_singleton, List.append_assoc, List.singleton_append, hafter] at hrest
    rw [List.length_cons, idle, List.foldl_cons]
    exact hrest

end Board

end TicFocuserNG
