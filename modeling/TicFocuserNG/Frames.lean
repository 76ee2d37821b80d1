import TicFocuserNG.TiclibInterface

/- The frames of the serial protocol: every call of `TicSerial` is a list of bytes put
   to the stream one after the other; that of `getSegment`, before the reply is read. -/
namespace TicFocuserNG

namespace TicSerial
variable {τ : Type} (S : Stream τ) (deviceNumber : UInt8)

/-- Bytes to the stream, one `write` each. -/
def putAll (bytes : List UInt8) (io : τ) : τ := bytes.foldl (fun io byte => (S.write byte io).2) io

def headerBytes (cmd : TicCommand) : List UInt8 :=
  if deviceNumber = 255 then [cmd.code] else [0xAA, deviceNumber &&& 0x7F, cmd.code &&& 0x7F]

def w32Bytes (val : UInt32) : List UInt8 :=
  [msbs val &&& 0x7F, val.toUInt8 &&& 0x7F, (val >>> 8).toUInt8 &&& 0x7F, (val >>> 16).toUInt8 &&& 0x7F,
    (val >>> 24).toUInt8 &&& 0x7F]

def segmentBytes (offset length : UInt8) : List UInt8 :=
  [offset &&& 0x7F &&& 0x7F, ((length &&& (0x3F : UInt8)) ||| (offset >>> 1 &&& (0x40 : UInt8))) &&& 0x7F]

theorem putAll_append (bytes bytes' : List UInt8) (io : τ) :
    putAll S (bytes ++ bytes') io = putAll S bytes' (putAll S bytes io) := List.foldl_append

theorem sendCommandHeader_eq (cmd : TicCommand) (t : Tic τ) :
    sendCommandHeader S deviceNumber cmd t =
      { t with lastError := 0, io := putAll S (headerBytes deviceNumber cmd) t.io } := by
  rw [sendCommandHeader, headerBytes]
  split <;> rfl

theorem commandW32_eq (cmd : TicCommand) (val : UInt32) (t : Tic τ) :
    commandW32 S deviceNumber cmd val t =
      { t with lastError := 0, io := putAll S (headerBytes deviceNumber cmd ++ w32Bytes val) t.io } := by
  rw [commandW32, sendCommandHeader_eq, putAll_append]
  rfl

theorem commandW7_eq (cmd : TicCommand) (val : UInt8) (t : Tic τ) :
    commandW7 S deviceNumber cmd val t =
      { t with lastError := 0, io := putAll S (headerBytes deviceNumber cmd ++ [val &&& 0x7F]) t.io } := by
  rw [commandW7, sendCommandHeader_eq, putAll_append]
  rfl

theorem getSegment_eq (cmd : TicCommand) (offset length : UInt8) (buffer : List UInt8) (t : Tic τ) :
    getSegment S deviceNumber cmd offset length buffer t =
      (S.readBytes buffer (length &&& 0x3F).toNat
        (putAll S (headerBytes deviceNumber cmd ++ segmentBytes offset length) t.io)).map fun out =>
          if UInt8.ofNat out.1 ≠ length &&& 0x3F then
            (List.replicate (length &&& 0x3F).toNat 0 ++ out.2.1.drop (length &&& 0x3F).toNat,
              { t with lastError := 50, io := out.2.2 })
          else (out.2.1, { t with lastError := 0, io := out.2.2 }) := by
  have hio : (serialW7 S ((length &&& (0x3F : UInt8)) ||| (offset >>> 1 &&& (0x40 : UInt8)))
      (serialW7 S (offset &&& 0x7F) (sendCommandHeader S deviceNumber cmd t))) =
        { t with
          lastError := 0
          io := putAll S (headerBytes deviceNumber cmd ++ segmentBytes offset length) t.io } := by
    rw [sendCommandHeader_eq, putAll_append]
    rfl
  rw [getSegment]
  simp only [hio]
  cases S.readBytes buffer (length &&& 0x3F).toNat
    (putAll S (headerBytes deviceNumber cmd ++ segmentBytes offset length) t.io) with
  | none => rfl
  | some out =>
    simp only [Option.map_some]
    split <;> rfl

/-- What the stream keeps through every write and read, a register read keeps. -/
theorem getSegment_keeps {S : Stream τ} {deviceNumber : UInt8} {I : τ → Prop}
    (hwrite : ∀ byte io, I io → I (S.write byte io).2)
    (hread : ∀ {buffer length io out}, S.readBytes buffer length io = some out → I io → I out.2.2)
    {cmd : TicCommand} {offset length : UInt8} {buffer : List UInt8} {t : Tic τ} {out : List UInt8 × Tic τ}
    (h : getSegment S deviceNumber cmd offset length buffer t = some out) (hI : I t.io) : I out.2.io := by
  have hput : ∀ (bytes : List UInt8) (io : τ), I io → I (putAll S bytes io) := by
    intro bytes
    induction bytes with
    | nil => exact fun _ hio => hio
    | cons byte bytes ih => exact fun io hio => ih _ (hwrite byte io hio)
  rw [getSegment_eq, Option.map_eq_some_iff] at h
  obtain ⟨read, hr, rfl⟩ := h
  have hI' : I read.2.2 := hread hr (hput _ _ hI)
  split <;> exact hI'

end TicSerial

/-! ## The frame of a call -/

namespace Call

def cmd : Call → TicCommand
  | .quick cmd _ => cmd
  | .w32 cmd _ _ => cmd
  | .w7 cmd _ _ => cmd
  | .segment cmd _ _ _ => cmd

/-- The bytes after the command. -/
def data : Call → List UInt8
  | .quick _ _ => []
  | .w32 _ val _ => TicSerial.w32Bytes val
  | .w7 _ val _ => [val &&& 0x7F]
  | .segment _ offset length _ => TicSerial.segmentBytes offset length

def frame (deviceNumber : UInt8) (c : Call) : List UInt8 := TicSerial.headerBytes deviceNumber c.cmd ++ c.data

end Call

/-- A call that brings nothing back. -/
theorem TicSerial.call_eq {τ : Type} (S : Stream τ) (deviceNumber : UInt8) {c : Call}
    (h : ∀ cmd offset length hcmd, c ≠ .segment cmd offset length hcmd) (buffer : List UInt8) (t : Tic τ) :
    (base S deviceNumber).call c buffer t =
      some (buffer, { t with lastError := 0, io := putAll S (c.frame deviceNumber) t.io }) := by
  cases c with
  | quick cmd _ =>
    rw [Call.frame, Call.data, List.append_nil]
    exact congrArg (fun t => some (buffer, t)) (sendCommandHeader_eq S deviceNumber cmd t)
  | w32 cmd val _ => exact congrArg (fun t => some (buffer, t)) (commandW32_eq S deviceNumber cmd val t)
  | w7 cmd val _ => exact congrArg (fun t => some (buffer, t)) (commandW7_eq S deviceNumber cmd val t)
  | segment cmd offset length hcmd => exact absurd rfl (h cmd offset length hcmd)

namespace TiclibInterface

/-- The bytes of a command over the serial protocol. -/
def Command.frame (deviceNumber : UInt8) (c : Command) : List UInt8 := c.call.frame deviceNumber

theorem Command.base_serial {τ : Type} (S : Stream τ) (deviceNumber : UInt8) (t : Tic τ) (c : Command) :
    c.base (TicSerial.base S deviceNumber) t =
      { t with lastError := 0, io := TicSerial.putAll S (c.frame deviceNumber) t.io } := by
  have hcall := c.base_call (TicSerial.base S deviceNumber) [] t
  rw [TicSerial.call_eq S deviceNumber (by cases c <;> exact fun _ _ _ _ => nofun)] at hcall
  exact (congrArg Prod.snd (Option.some.inj hcall)).symm

/-- A command over the serial protocol puts its frame to the stream, and always
    reports success. -/
theorem command_serial {τ : Type} (S : Stream τ) (deviceNumber : UInt8) (i : TiclibInterface τ) (c : Command) :
    i.command (TicSerial.base S deviceNumber) c =
      (true, ⟨{ i.ticBase with
        lastError := 0
        io := TicSerial.putAll S (c.frame deviceNumber) i.ticBase.io }, "OK"⟩) := by
  rw [command_eq, Command.base_serial, report]
  rfl

end TiclibInterface

end TicFocuserNG
