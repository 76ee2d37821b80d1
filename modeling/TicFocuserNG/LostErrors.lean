import TicFocuserNG.Lib.Retry
import TicFocuserNG.Frames

/- Commands that fail, and what the interface reports.

     1. `usb_reports_iff`: over `TicUsb` a command reports the outcome of its
        transfer exactly when the transfer succeeds. The result is narrowed to
        an unsigned byte before its sign is looked at.
     2. `serial_reports_iff`: over `TicSerial` a command reports success only
        for a complete frame exactly when every byte of the frame gets a
        `::write` that takes it: the first one over `StreamSerial`, one of three
        over `StreamBT`. The results of the stream's `write` are dropped. -/
namespace TicFocuserNG

open TiclibInterface (Command)

/-! ## LibUSB -/

namespace TicUsb
variable {σ : Type} (L : Libusb σ)

/-- The command code, `wValue` and `wIndex` of a command's transfer. -/
def request : Command → TicCommand × UInt16 × UInt16
  | .energize => (.energize, 0, 0)
  | .deenergize => (.deenergize, 0, 0)
  | .exitSafeStart => (.exitSafeStart, 0, 0)
  | .haltAndHold => (.haltAndHold, 0, 0)
  | .setTargetPosition p => (.setTargetPosition, p.toUInt32.toUInt16, (p.toUInt32 >>> 16).toUInt16)
  | .haltAndSetPosition p => (.haltAndSetPosition, p.toUInt32.toUInt16, (p.toUInt32 >>> 16).toUInt16)

theorem base_usb (t : Tic (TicUsb σ)) (c : Command) :
    c.base (base L) t = control L (request c).1 (request c).2.1 (request c).2.2 t := by
  cases c <;> rfl

/-- What `libusb_control_transfer` returns for a command. -/
def result (t : Tic (TicUsb σ)) (c : Command) : Int32 :=
  (L.controlTransfer t.io.handle 0x40 (request c).1.code (request c).2.1 (request c).2.2 0 t.io.usb).1.1

/-- A transfer with result `r` is reported as what it is. -/
def Reports (r : Int32) (out : Bool × TiclibInterface (TicUsb σ)) : Prop :=
  (out.1 = true ↔ 0 ≤ r) ∧ (r < 0 → out.1 = false ∧ out.2.ticBase.lastError ≠ 0)

/-- The test after the narrowing leaves no error. -/
theorem control_lastError (cmd : TicCommand) (wValue wIndex : UInt16) (t : Tic (TicUsb σ)) :
    (control L cmd wValue wIndex t).lastError = 0 := by
  simp only [control]
  generalize narrow _ = e
  split
  · rfl
  · next h =>
    rw [UInt8.lt_iff_toNat_lt] at h
    apply UInt8.toNat_inj.mp
    simpa using h

theorem command_usb (i : TiclibInterface (TicUsb σ)) (c : Command) : (i.command (base L) c).1 = true := by
  rw [TiclibInterface.command_iff, TiclibInterface.command_eq, TiclibInterface.report, base_usb]
  simp [control_lastError]

theorem usb_reports_iff (i : TiclibInterface (TicUsb σ)) (c : Command) :
    Reports (result L i.ticBase c) (i.command (base L) c) ↔ 0 ≤ result L i.ticBase c := by
  have hok := command_usb L i c
  apply Iff.intro
  · intro h
    exact h.1.mp hok
  · intro h
    refine ⟨iff_of_true hok h, ?_⟩
    intro hneg
    exact absurd hneg (Int32.not_lt.mpr h)

/-- Every transfer returns `r`. -/
def answering (r : Int32) : Libusb Unit where
  controlTransfer _ _ _ _ _ _ s := ((r, ⟨[], length_nil_le _⟩), s)

/-- `LIBUSB_ERROR_NO_DEVICE`, reported as success. -/
theorem unplugged_energize :
    ¬ Reports (-4) (TiclibInterface.energize (base (answering (-4))) ⟨{ io := { usb := () } }, ""⟩) := by
  intro h
  exact absurd (h.1.mp (by decide)) (by decide)

end TicUsb

/-! ## Serial and Bluetooth -/

open Retry (Channel AllSucceed)

/-- `::write` takes a byte with its `k`-th outcome. -/
def taken (ws : Nat → Int) (k : Nat) : Bool := 0 < ws k

/-- `os`, the outcomes of `::write` being `ws`; the channel keeps how many there
    were and the bytes taken. -/
def Posix.writing {σ : Type} (ws : Nat → Int) (os : Posix σ) : Posix (Channel UInt8 × σ) where
  read fd n s := let (r, s') := os.read fd n s.2; (r, s.1, s')
  write _ byte s := (ws s.1.used, s.1.send (taken ws) 1 byte, s.2)
  socket s := let (r, s') := os.socket s.2; (r, s.1, s')
  setsockopt fd opt s := let (r, s') := os.setsockopt fd opt s.2; (r, s.1, s')
  bind fd s := let (r, s') := os.bind fd s.2; (r, s.1, s')
  connect fd mac s := let (r, s') := os.connect fd mac s.2; (r, s.1, s')
  close fd s := (s.1, os.close fd s.2)

namespace StreamBT
variable {σ : Type} (ws : Nat → Int) (os : Posix σ)

theorem keeping_channel (c : Channel UInt8) : Keeping (os.writing ws) fun s => s.1 = c where
  socket h := h
  setsockopt h := h
  bind h := h
  connect h := h
  close h := h

/-- The tries `writeLoop` has left, whatever `reconnect` does in between. -/
theorem writeLoop_channel (byte : UInt8) (tries : Nat) (c : Int) (b : StreamBT) (s : Channel UInt8 × σ) :
    (writeLoop (os.writing ws) byte tries c b s).2.2.1 = s.1.send (taken ws) tries byte := by
  induction tries generalizing c b s with
  | zero => rfl
  | succ tries ih =>
    have hw : (os.writing ws).write b.btSocket byte s = (ws s.1.used, s.1.send (taken ws) 1 byte, s.2) := rfl
    rw [writeLoop, hw, Channel.send_one, Channel.send_succ]
    by_cases hpos : 0 < ws s.1.used
    · have h : taken ws s.1.used = true := decide_eq_true hpos
      simp only [h, hpos, if_true]
    · have h : taken ws s.1.used = false := decide_eq_false hpos
      simp only [h, hpos, if_false, Bool.false_eq_true]
      rw [ih, (keeping_channel ws os _).reconnect b rfl]

end StreamBT

section
variable {τ : Type} {S : Stream τ} (channel : τ → Channel UInt8) {ws : Nat → Int} {tries : Nat}

/-- The channel after a frame, for a stream with `tries` tries for a byte. -/
theorem putAll_channel (hS : ∀ byte io, channel (S.write byte io).2 = (channel io).send (taken ws) tries byte)
    (bytes : List UInt8) (io : τ) :
    channel (TicSerial.putAll S bytes io) = bytes.foldl (Channel.send (taken ws) tries) (channel io) := by
  induction bytes generalizing io with
  | nil => rfl
  | cons byte bytes ih =>
    rw [TicSerial.putAll, List.foldl_cons, List.foldl_cons, ← hS]
    exact ih (S.write byte io).2

/-- A command that returns `res` and takes the channel from `c` to `c'` reports
    success for a complete frame only: every byte taken, in order, once. -/
def Complete (frame : List UInt8) (c c' : Channel UInt8) (res : Bool) : Prop :=
  res = true → c'.accepted = c.accepted ++ frame

theorem complete_iff (hS : ∀ byte io, channel (S.write byte io).2 = (channel io).send (taken ws) tries byte)
    (deviceNumber : UInt8) (i : TiclibInterface τ) (c : Command) :
    Complete (c.frame deviceNumber) (channel i.ticBase.io)
        (channel (i.command (TicSerial.base S deviceNumber) c).2.ticBase.io)
        (i.command (TicSerial.base S deviceNumber) c).1 ↔
      AllSucceed (taken ws) tries (c.frame deviceNumber).length (channel i.ticBase.io).used := by
  rw [TiclibInterface.command_serial]
  simp only [Complete, true_imp_iff]
  rw [putAll_channel channel hS, Channel.sendAll_complete_iff]

end

/-- A command's frame is complete when success is reported exactly when: over
    `StreamSerial`, the next `::write` for each of its bytes takes it; over
    `StreamBT`, one of the next three for each byte does. -/
theorem serial_reports_iff {σ : Type} (ws : Nat → Int) (os : Posix σ) (deviceNumber : UInt8) (c : Command) :
    (∀ (fd : Int) (fuel : Nat) (i : TiclibInterface (Channel UInt8 × σ)),
      let out := i.command (TicSerial.base (StreamSerial.stream (os.writing ws) fd fuel) deviceNumber) c
      Complete (c.frame deviceNumber) i.ticBase.io.1 out.2.ticBase.io.1 out.1 ↔
        ∀ j, j < (c.frame deviceNumber).length → 0 < ws (i.ticBase.io.1.used + j)) ∧
    ∀ i : TiclibInterface (StreamBT × Channel UInt8 × σ),
      let out := i.command (TicSerial.base (StreamBT.stream (os.writing ws)) deviceNumber) c
      Complete (c.frame deviceNumber) i.ticBase.io.2.1 out.2.ticBase.io.2.1 out.1 ↔
        AllSucceed (taken ws) 3 (c.frame deviceNumber).length i.ticBase.io.2.1.used := by
  apply And.intro
  · intro fd fuel i
    have hS : ∀ (byte : UInt8) (io : Channel UInt8 × σ),
        ((StreamSerial.stream (os.writing ws) fd fuel).write byte io).2.1 = io.1.send (taken ws) 1 byte :=
      fun _ _ => rfl
    have hall := complete_iff Prod.fst hS deviceNumber i c
    rw [Retry.allSucceed_one] at hall
    simpa only [taken, decide_eq_true_eq] using hall
  · intro i
    have hS : ∀ (byte : UInt8) (io : StreamBT × Channel UInt8 × σ),
        ((StreamBT.stream (os.writing ws)).write byte io).2.2.1 = io.2.1.send (taken ws) 3 byte :=
      fun byte io => StreamBT.writeLoop_channel ws os byte 3 0 io.1 io.2
    exact complete_iff (fun io => io.2.1) hS deviceNumber i c

/-- The third byte of a SetTargetPosition is not taken, and the move is reported
    as sent. -/
theorem lost_byte_reported :
    let os := Posix.obliging.writing fun k => if k = 2 then -1 else 1
    let i : TiclibInterface (Channel UInt8 × Nat) := ⟨{ io := ({}, 3) }, ""⟩
    let out := i.setTargetPosition (TicSerial.base (StreamSerial.stream os 3 0) 255) 1000
    ¬ Complete (Command.frame 255 (.setTargetPosition 1000)) i.ticBase.io.1 out.2.ticBase.io.1 out.1 := by
  intro os i out h
  exact absurd (h (by decide)) (by decide)

end TicFocuserNG
