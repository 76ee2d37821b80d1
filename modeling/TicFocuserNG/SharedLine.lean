import TicFocuserNG.LossyLine

/- Several Tics on one line.

   A `TicSerial` with a device number below 128 puts the number into its frames (the
   Pololu protocol); with 255 it does not (the compact protocol). A Tic takes the
   frames of both that are for it.

     1. `yields_command`: what a Tic makes of one command, from any state.
     2. `each_tic_its_own_commands`: over a line that loses nothing, a Tic performs
        the commands sent with its number or with 255, in order, and no others. -/
namespace TicFocuserNG

open TiclibInterface (Command)
open Retry (Channel AllSucceed)

namespace SharedLine

/-- What a Tic with the device number `n` makes of a frame. -/
def decode (n : UInt8) (f : List UInt8) : Option TicOp :=
  if f.head? = some 0xAA then
    match f.tail with
    | number :: cmd :: data => if number = n then decodeFrame ((cmd ||| 0x80) :: data) else none
    | _ => none
  else decodeFrame f

def format (n : UInt8) : Framing.Format UInt8 TicOp where
  head byte := decide (0x80 ≤ byte)
  decode := decode n

/-- A command sent with `deviceNumber` is for the Tic with the number `n`. -/
def IsFor (n deviceNumber : UInt8) : Prop := deviceNumber = 255 ∨ deviceNumber &&& 0x7F = n

instance (n deviceNumber : UInt8) : Decidable (IsFor n deviceNumber) := inferInstanceAs (Decidable (_ ∨ _))

/-! ## One command -/

theorem decode_compact (n : UInt8) {cmd : UInt8} {data : List UInt8} (h : cmd ≠ 0xAA) :
    decode n (cmd :: data) = decodeFrame (cmd :: data) := by
  have hne : (cmd :: data).head? ≠ some 0xAA := fun heq => h (Option.some.inj heq)
  rw [decode, if_neg hne]

theorem decode_pololu (n number cmd : UInt8) (data : List UInt8) :
    decode n (0xAA :: number :: cmd :: data) = if number = n then decodeFrame ((cmd ||| 0x80) :: data) else none :=
  if_pos rfl

/-- No code is the byte that announces a device number, and none loses more than the top
    bit behind one. -/
theorem code_ne (cmd : TicCommand) : cmd.code ≠ 0xAA ∧ cmd.code &&& 0x7F ||| 0x80 = cmd.code := by
  cases cmd <;> decide

theorem frame_pololu {number : UInt8} (h : number ≠ 255) (c : Command) :
    c.frame number = 0xAA :: (number &&& 0x7F) :: (c.call.cmd.code &&& 0x7F) :: c.call.data := by
  rw [Command.frame, Call.frame, TicSerial.headerBytes, if_neg h]
  rfl

theorem head_low {byte : UInt8} (n : UInt8) (h : byte < 0x80) : (format n).head byte = false :=
  decide_eq_false (UInt8.not_le.mpr h)

theorem isFrame_compact (n : UInt8) (c : Command) : Framing.IsFrame (format n) (c.frame 255) c.op := by
  obtain ⟨hne, -⟩ := code_ne c.call.cmd
  obtain ⟨-, hpart, hdec⟩ := (robust_command c).toIsFrame
  refine ⟨⟨c.call.cmd.code, c.call.data, rfl, decide_eq_true c.call.cmd.le_code, ?_⟩, ?_, ?_⟩
  · intro b hb
    exact head_low n (c.call.data_low b hb)
  · intro k h0 hk
    obtain ⟨m, rfl⟩ : ∃ m, k = m + 1 := ⟨k - 1, by omega⟩
    exact (decode_compact n hne).trans (hpart (m + 1) h0 hk)
  · exact (decode_compact n hne).trans hdec

/-- A part of a frame with a number: before the command, nothing; then as without. -/
theorem decode_take (n number cmd : UInt8) (data : List UInt8) {k : Nat} (hk : k ≤ (number :: cmd :: data).length) :
    decode n (0xAA :: (number :: cmd :: data).take k) = none ∨
      ∃ m ≤ data.length, k = m + 2 ∧ decode n (0xAA :: (number :: cmd :: data).take k) =
        if number = n then decodeFrame ((cmd ||| 0x80) :: data.take m) else none := by
  rcases k with _ | _ | m
  · exact .inl rfl
  · exact .inl rfl
  · refine .inr ⟨m, ?_, rfl, decode_pololu n number cmd (data.take m)⟩
    simp only [List.length_cons] at hk
    omega

theorem yields_command (n deviceNumber : UInt8) (c : Command) :
    Framing.Yields (format n) (c.frame deviceNumber) (if IsFor n deviceNumber then [c.op] else []) := by
  by_cases h255 : deviceNumber = 255
  · subst h255
    rw [if_pos (.inl rfl)]
    exact (isFrame_compact n c).yields
  · obtain ⟨-, hcode⟩ := code_ne c.call.cmd
    obtain ⟨-, hpart, hdec⟩ := (robust_command c).toIsFrame
    have hdata : ∀ b ∈ (deviceNumber &&& 0x7F) :: (c.call.cmd.code &&& 0x7F) :: c.call.data,
        (format n).head b = false := by
      intro b hb
      apply head_low
      rcases List.mem_cons.mp hb with rfl | hb
      · exact low7_lt _
      · rcases List.mem_cons.mp hb with rfl | hb
        · exact low7_lt _
        · exact c.call.data_low b hb
    rw [frame_pololu h255]
    by_cases hfor : deviceNumber &&& 0x7F = n
    · rw [if_pos (.inr hfor)]
      apply Framing.IsFrame.yields
      refine ⟨⟨_, _, rfl, rfl, hdata⟩, ?_, ?_⟩
      · intro k h0 hk
        obtain ⟨j, rfl⟩ : ∃ j, k = j + 1 := ⟨k - 1, by omega⟩
        rw [List.take_succ_cons]
        have hj : j ≤ ((deviceNumber &&& 0x7F) :: (c.call.cmd.code &&& 0x7F) :: c.call.data).length := by
          simpa using hk.le
        rcases decode_take n _ _ _ hj with hnone | ⟨m, -, rfl, heq⟩
        · exact hnone
        · have hm : m + 1 < (c.call.cmd.code :: c.call.data).length := by simpa using hk
          rw [show (format n).decode = decode n from rfl, heq, if_pos hfor, hcode]
          exact hpart (m + 1) (Nat.succ_pos m) hm
      · have hpololu := decode_pololu n (deviceNumber &&& 0x7F) (c.call.cmd.code &&& 0x7F) c.call.data
        rw [if_pos hfor, hcode] at hpololu
        exact hpololu.trans hdec
    · have hnot : ¬ IsFor n deviceNumber := not_or.mpr ⟨h255, hfor⟩
      rw [if_neg hnot]
      apply Framing.yields_unfinished rfl hdata
      intro k hk
      rcases decode_take n _ _ _ hk with hnone | ⟨m, -, -, heq⟩
      · exact hnone
      · exact heq.trans (if_neg hfor)

/-! ## The line -/

/-- Commands of several `TicSerial` objects on one stream, each with its number. -/
def sendAll {τ : Type} (S : Stream τ) (sends : List (UInt8 × Command)) (io : τ) : τ :=
  sends.foldl (fun io s =>
    ((TiclibInterface.mk { io } "").command (TicSerial.base S s.1) s.2).2.ticBase.io) io

section
variable {τ : Type} {S : Stream τ} (channel : τ → Channel UInt8) {ws : Nat → Int} {tries : Nat}

theorem sendAll_channel (hS : ∀ byte io, channel (S.write byte io).2 = (channel io).send (taken ws) (tries + 1) byte)
    (hws : ∀ k, 0 < ws k) (sends : List (UInt8 × Command)) (io : τ) :
    (channel (sendAll S sends io)).accepted =
      (channel io).accepted ++ sends.flatMap fun s => s.2.frame s.1 := by
  induction sends generalizing io with
  | nil => simp [sendAll]
  | cons s sends ih =>
    have hone : ∀ k, Retry.attempt (taken ws) (tries + 1) k = (true, k + 1) := by
      intro k
      have htaken : taken ws k = true := decide_eq_true (hws k)
      rw [Retry.attempt, htaken, if_pos rfl]
    have hall : ∀ n k, AllSucceed (taken ws) (tries + 1) n k := by
      intro n
      induction n with
      | zero => exact fun _ => trivial
      | succ n ihn =>
        intro k
        rw [AllSucceed, hone]
        exact ⟨rfl, ihn _⟩
    have hsent : (channel ((TiclibInterface.mk { io } "").command (TicSerial.base S s.1) s.2).2.ticBase.io).accepted =
        (channel io).accepted ++ s.2.frame s.1 := by
      rw [TiclibInterface.command_serial]
      show (channel (TicSerial.putAll S _ io)).accepted = _
      rw [putAll_channel channel hS, Channel.sendAll_complete_iff]
      exact hall _ _
    have hrest := ih ((TiclibInterface.mk { io } "").command (TicSerial.base S s.1) s.2).2.ticBase.io
    rw [hsent, List.append_assoc] at hrest
    rw [List.flatMap_cons]
    exact hrest

/-- From the channel `c` to `c'`, just `ops` were sent to the Tic with the number `n`,
    whatever it had received before. -/
def Hears (n : UInt8) (c c' : Channel UInt8) (ops : List TicOp) : Prop :=
  ∃ new, c'.accepted = c.accepted ++ new ∧ Framing.Yields (format n) new ops

/-- The commands for the Tic with the number `n`. -/
def own (n : UInt8) (sends : List (UInt8 × Command)) : List Command :=
  (sends.filter fun s => IsFor n s.1).map Prod.snd

theorem own_ops (n : UInt8) (sends : List (UInt8 × Command)) :
    (sends.flatMap fun s => if IsFor n s.1 then [s.2.op] else []) = (own n sends).map Command.op := by
  induction sends with
  | nil => rfl
  | cons s sends ih =>
    rw [List.flatMap_cons, ih, own, own, List.filter_cons]
    by_cases hfor : IsFor n s.1
    · rw [if_pos hfor, if_pos (decide_eq_true hfor)]
      rfl
    · rw [if_neg hfor, if_neg (by simpa using hfor)]
      rfl

theorem sendAll_hears
    (hS : ∀ byte io, channel (S.write byte io).2 = (channel io).send (taken ws) (tries + 1) byte)
    (hws : ∀ k, 0 < ws k) (n : UInt8) (sends : List (UInt8 × Command)) (io : τ) :
    Hears n (channel io) (channel (sendAll S sends io)) ((own n sends).map Command.op) := by
  refine ⟨_, sendAll_channel channel hS hws sends io, ?_⟩
  rw [← own_ops]
  exact Framing.Yields.flatMap (fun s => yields_command n s.1 s.2) sends

end

/-- **Each Tic its own commands.** Where every `::write` takes its byte, of the
    commands that any number of `TicSerial` objects send over one line, a Tic is asked
    for those that carry its number or none, in order. -/
theorem each_tic_its_own_commands {σ : Type} (ws : Nat → Int) (hws : ∀ k, 0 < ws k) (os : Posix σ) (n : UInt8)
    (sends : List (UInt8 × Command)) :
    (∀ (fd : Int) (fuel : Nat) (io : Channel UInt8 × σ),
      Hears n io.1 (sendAll (StreamSerial.stream (os.writing ws) fd fuel) sends io).1
        ((own n sends).map Command.op)) ∧
    ∀ io : StreamBT × Channel UInt8 × σ,
      Hears n io.2.1 (sendAll (StreamBT.stream (os.writing ws)) sends io).2.1
        ((own n sends).map Command.op) := by
  apply And.intro
  · intro fd fuel io
    have hS : ∀ (byte : UInt8) (io : Channel UInt8 × σ),
        ((StreamSerial.stream (os.writing ws) fd fuel).write byte io).2.1 = io.1.send (taken ws) (0 + 1) byte :=
      fun _ _ => rfl
    exact sendAll_hears Prod.fst hS hws n sends io
  · intro io
    have hS : ∀ (byte : UInt8) (io : StreamBT × Channel UInt8 × σ),
        ((StreamBT.stream (os.writing ws)).write byte io).2.2.1 = io.2.1.send (taken ws) (2 + 1) byte :=
      fun byte io => StreamBT.writeLoop_channel ws os byte 3 0 io.1 io.2
    exact sendAll_hears (fun io => io.2.1) hS hws n sends io

/-- Two Tics, 14 and 15: the halt without a number is for both. -/
theorem each_tic_its_own_commands_15 :
    own 15 [(14, .setTargetPosition 7), (15, .energize), (255, .haltAndHold)] = [.energize, .haltAndHold] ∧
      Hears 15 ({} : Channel UInt8)
        (sendAll (StreamSerial.stream (Posix.obliging.writing fun _ => 1) 3 0)
          [(14, .setTargetPosition 7), (15, .energize), (255, .haltAndHold)] ({}, 3)).1
        ((own 15 [(14, .setTargetPosition 7), (15, .energize), (255, .haltAndHold)]).map Command.op) :=
  ⟨by decide, (each_tic_its_own_commands (fun _ => 1) (fun _ => Int.one_pos) Posix.obliging 15 _).1 3 0 ({}, 3)⟩

end SharedLine

end TicFocuserNG
