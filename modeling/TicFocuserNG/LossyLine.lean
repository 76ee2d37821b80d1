import TicFocuserNG.LostErrors
import TicFocuserNG.Link

/- Bytes lost on the way to the Tic.

   The stream's `write` drops a byte that no `::write` takes, and the interface does
   not notice (`command_serial`). A Tic starts anew at every command byte, so what
   it makes of the rest is decided frame by frame:

     1. `lost_data_lose_commands`: where data bytes are lost and no command byte is,
        the Tic performs the commands that arrived whole, and nothing else.
     2. The condition is needed: two frames that lose the end of the one and the
        command byte of the other become one frame, of neither. -/
namespace TicFocuserNG

open TiclibInterface (Command)
open Retry (Channel AllSucceed attempt)

/-! ## A line that loses bytes -/

namespace Lossy

/-- The frames of commands, with what they ask for. -/
def frames (cs : List Command) : List (List UInt8 × TicOp) := cs.map fun c => (c.frame 255, c.op)

section
variable (ok : Nat → Bool) (tries : Nat)

/-- What comes through of a frame sent from the `k`-th outcome on, and the outcomes
    consumed then. -/
def sendFrame (k : Nat) (frame : List UInt8) : Channel UInt8 := frame.foldl (Channel.send ok tries) { used := k }

/-- What comes through of each frame. -/
def heard : (k : Nat) → List Command → List (List UInt8)
  | _, [] => []
  | k, c :: cs =>
    (sendFrame ok tries k (c.frame 255)).accepted :: heard (sendFrame ok tries k (c.frame 255)).used cs

/-- No command byte is lost. -/
def CommandBytesArrive : (k : Nat) → List Command → Prop
  | _, [] => True
  | k, c :: cs =>
    (attempt ok tries k).1 = true ∧ CommandBytesArrive (sendFrame ok tries k (c.frame 255)).used cs

/-- The commands that arrive whole. -/
def arrived : (k : Nat) → List Command → List Command
  | _, [] => []
  | k, c :: cs =>
    if AllSucceed ok tries (c.frame 255).length k then
      c :: arrived (sendFrame ok tries k (c.frame 255)).used cs
    else arrived (sendFrame ok tries k (c.frame 255)).used cs

variable {ok tries}

theorem whole_iff (k : Nat) (frame : List UInt8) :
    (sendFrame ok tries k frame).accepted = frame ↔ AllSucceed ok tries frame.length k :=
  Channel.sendAll_complete_iff ok tries frame { used := k }

theorem remains_sendFrame {k : Nat} {c : Command} (h : (attempt ok tries k).1 = true) :
    Framing.Remains (c.frame 255) (sendFrame ok tries k (c.frame 255)).accepted := by
  have hframe : c.frame 255 = c.call.cmd.code :: c.call.data := rfl
  rw [hframe, sendFrame, Channel.sendAll_head ok tries _ _ h]
  exact ⟨_, _, _, rfl, rfl, Channel.sendAll_sublist ok tries _ _⟩

theorem remains_heard {k : Nat} {cs : List Command} (h : CommandBytesArrive ok tries k cs) :
    List.Forall₂ (fun p g => Framing.Remains p.1 g) (frames cs) (heard ok tries k cs) := by
  induction cs generalizing k with
  | nil => exact .nil
  | cons c cs ih => exact .cons (remains_sendFrame h.1) (ih h.2)

theorem survivors_heard (k : Nat) (cs : List Command) :
    Framing.survivors (frames cs) (heard ok tries k cs) = (arrived ok tries k cs).map Command.op := by
  induction cs generalizing k with
  | nil => rfl
  | cons c cs ih =>
    have hrest := ih (sendFrame ok tries k (c.frame 255)).used
    rw [frames, List.map_cons, heard, Framing.survivors, arrived]
    by_cases hall : AllSucceed ok tries (c.frame 255).length k
    · rw [if_pos hall, if_pos ((whole_iff k _).mpr hall), List.map_cons]
      exact congrArg _ hrest
    · rw [if_neg hall, if_neg (fun h => hall ((whole_iff k _).mp h))]
      exact hrest

end

/-- The commands one after the other. -/
def commandAll {τ : Type} (T : TicBase τ) (i : TiclibInterface τ) (cs : List Command) : TiclibInterface τ :=
  cs.foldl (fun i c => (i.command T c).2) i

section
variable {τ : Type} {S : Stream τ} (channel : τ → Channel UInt8) {ws : Nat → Int} {tries : Nat}

theorem commandAll_channel
    (hS : ∀ byte io, channel (S.write byte io).2 = (channel io).send (taken ws) tries byte) (cs : List Command)
    (i : TiclibInterface τ) :
    (channel (commandAll (TicSerial.base S 255) i cs).ticBase.io).accepted =
      (channel i.ticBase.io).accepted ++ (heard (taken ws) tries (channel i.ticBase.io).used cs).flatten := by
  induction cs generalizing i with
  | nil => simp [commandAll, heard]
  | cons c cs ih =>
    have hsent : channel (i.command (TicSerial.base S 255) c).2.ticBase.io =
        { used := (sendFrame (taken ws) tries (channel i.ticBase.io).used (c.frame 255)).used
          accepted := (channel i.ticBase.io).accepted ++
            (sendFrame (taken ws) tries (channel i.ticBase.io).used (c.frame 255)).accepted } := by
      rw [TiclibInterface.command_serial]
      show channel (TicSerial.putAll S _ i.ticBase.io) = _
      rw [putAll_channel channel hS, Channel.sendAll_fresh]
      rfl
    have hrest := ih (i.command (TicSerial.base S 255) c).2
    rw [hsent] at hrest
    rw [heard, List.flatten_cons, ← List.append_assoc]
    exact hrest

/-- From the channel `c` to `c'` just the commands `cs` reached the Tic `t`. -/
def Reached (fw : Firmware) (t : SerialTic) (c c' : Channel UInt8) (cs : List Command) : Prop :=
  ∃ new, c'.accepted = c.accepted ++ new ∧
    (new.foldl (SerialTic.receive fw) t).ops = t.ops ++ cs.map Command.op

theorem commandAll_reached
    (hS : ∀ byte io, channel (S.write byte io).2 = (channel io).send (taken ws) tries byte) (fw : Firmware)
    (t : SerialTic) (cs : List Command) (i : TiclibInterface τ)
    (h : CommandBytesArrive (taken ws) tries (channel i.ticBase.io).used cs) :
    Reached fw t (channel i.ticBase.io) (channel (commandAll (TicSerial.base S 255) i cs).ticBase.io)
      (arrived (taken ws) tries (channel i.ticBase.io).used cs) := by
  refine ⟨_, commandAll_channel channel hS cs i, ?_⟩
  have hframes : ∀ p ∈ frames cs, Framing.Robust compact p.1 p.2 := by
    intro p hp
    obtain ⟨c, -, rfl⟩ := List.mem_map.mp hp
    exact robust_command c
  have hout := Framing.foldl_receive_lossy hframes (remains_heard h) t.toReceiver
  rw [survivors_heard] at hout
  rw [SerialTic.receive_foldl]
  exact hout

end

/-- **Lost data lose commands, and nothing else.** Over `StreamSerial` and over
    `StreamBT`, for any outcomes of `::write` that lose no command byte, a Tic at the
    other end performs the commands all of whose bytes are taken, in order: whatever
    it has received of a frame before. -/
theorem lost_data_lose_commands {σ : Type} (fw : Firmware) (ws : Nat → Int) (os : Posix σ) (t : SerialTic)
    (cs : List Command) :
    (∀ (fd : Int) (fuel : Nat) (i : TiclibInterface (Channel UInt8 × σ)),
      CommandBytesArrive (taken ws) 1 i.ticBase.io.1.used cs →
        Reached fw t i.ticBase.io.1
          (commandAll (TicSerial.base (StreamSerial.stream (os.writing ws) fd fuel) 255) i cs).ticBase.io.1
          (arrived (taken ws) 1 i.ticBase.io.1.used cs)) ∧
    ∀ i : TiclibInterface (StreamBT × Channel UInt8 × σ),
      CommandBytesArrive (taken ws) 3 i.ticBase.io.2.1.used cs →
        Reached fw t i.ticBase.io.2.1
          (commandAll (TicSerial.base (StreamBT.stream (os.writing ws)) 255) i cs).ticBase.io.2.1
          (arrived (taken ws) 3 i.ticBase.io.2.1.used cs) := by
  apply And.intro
  · intro fd fuel i h
    have hS : ∀ (byte : UInt8) (io : Channel UInt8 × σ),
        ((StreamSerial.stream (os.writing ws) fd fuel).write byte io).2.1 = io.1.send (taken ws) 1 byte :=
      fun _ _ => rfl
    exact commandAll_reached Prod.fst hS fw t cs i h
  · intro i h
    have hS : ∀ (byte : UInt8) (io : StreamBT × Channel UInt8 × σ),
        ((StreamBT.stream (os.writing ws)).write byte io).2.2.1 = io.2.1.send (taken ws) 3 byte :=
      fun byte io => StreamBT.writeLoop_channel ws os byte 3 0 io.1 io.2
    exact commandAll_reached (fun io => io.2.1) hS fw t cs i h

/-- The outcomes of `::write`, those at `ks` being failures. -/
def losing (ks : List Nat) (k : Nat) : Int := if k ∈ ks then -1 else 1

/-- The third byte of a SetTargetPosition is lost: the halt after it is performed, by
    a Tic in the middle of another frame. -/
theorem lost_data_lose_commands_halt :
    CommandBytesArrive (taken (losing [2])) 1 0 [.setTargetPosition 1000, .haltAndHold] ∧
      arrived (taken (losing [2])) 1 0 [.setTargetPosition 1000, .haltAndHold] = [.haltAndHold] ∧
      Reached (fun _ _ _ => 0) { frame := [0xE0, 1] } {}
        (commandAll (TicSerial.base (StreamSerial.stream (Posix.obliging.writing (losing [2])) 3 0) 255)
          ⟨{ io := ({}, 3) }, ""⟩ [.setTargetPosition 1000, .haltAndHold]).ticBase.io.1
        (arrived (taken (losing [2])) 1 0 [.setTargetPosition 1000, .haltAndHold]) := by
  have h : CommandBytesArrive (taken (losing [2])) 1 0 [.setTargetPosition 1000, .haltAndHold] :=
    ⟨by decide, by decide, trivial⟩
  exact ⟨h, by decide, (lost_data_lose_commands _ _ Posix.obliging _ _).1 3 0 ⟨{ io := ({}, 3) }, ""⟩ h⟩

-- the end of one target and the next command byte lost: a target that nobody asked for
example :
    ((commandAll (TicSerial.base (StreamSerial.stream (Posix.obliging.writing (losing [5, 6])) 3 0) 255)
        ⟨{ io := ({}, 3) }, ""⟩ [.setTargetPosition 1000, .setTargetPosition 2000]).ticBase.io.1.accepted.foldl
      (SerialTic.receive fun _ _ _ => 0) {}).ops = [.w32 .setTargetPosition 16778216] := by
  decide +kernel

end Lossy

end TicFocuserNG
