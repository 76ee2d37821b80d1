import Mathlib.Data.List.Forall2
import TicFocuserNG.Link
import TicFocuserNG.LostErrors

/- The two transports present the same controller.

   `Carries` is what a transport does with every call of ticlib: the controller is
   asked for what the wire carries of it, and the bytes it answers with come back
   without an error. `TicUsb` over `usbTic` and `TicSerial` with `StreamBT` over
   `serialTic` do so for any firmware (`usb_carries`, `serial_carries`), the latter
   for every way the replies are split into non-empty reads.

   `Serves` is as much as the driver's interface needs of it (`Carries.serves`), so
   every sequence of its operations goes the same way over both
   (`transports_agree`). -/
namespace TicFocuserNG

open TiclibInterface (Command)

/-- The GetVariable for a register of `n` bytes. -/
def VarOffset.read (offset : VarOffset) (n : Nat) : TicOp := .segment .getVariable offset.code.toNat n

/-- `T` serves `fw`: `I ops t` says that `t` stands for a controller that was
    asked for `ops`. -/
structure Serves {τ : Type} (fw : Firmware) (T : TicBase τ) (I : List TicOp → Tic τ → Prop) : Prop where
  command : ∀ {ops t} (c : Command), I ops t →
    (c.base T t).lastError = 0 ∧ (c.base T t).product = t.product ∧ I (ops ++ [c.op]) (c.base T t)
  getVar : ∀ {ops t} (n : UInt8) (u : Uninit) (offset : VarOffset), n.toNat < 64 → I ops t →
    ∃ t', T.getVar n u offset t = some (fw.reply ops .getVariable offset.code.toNat n.toNat, t') ∧ t'.lastError = 0 ∧
      t'.product = t.product ∧ I (ops ++ [offset.read n.toNat]) t'

/-- `T` carries every call to a controller with the firmware `fw`, as far as `w` does, and
    its answer back. -/
def Carries {τ : Type} (fw : Firmware) (w : Wire) (T : TicBase τ) (I : List TicOp → Tic τ → Prop) : Prop :=
  ∀ {ops t} (c : Call) (buffer : List UInt8), buffer.length = c.length → I ops t →
    ∃ t', T.call c buffer t = some (poke buffer 0 ((c.op w).answer fw ops), t') ∧ t'.lastError = 0 ∧
      t'.product = t.product ∧ I (ops ++ [c.op w]) t'

theorem length_buffer (u : Uninit) (offset : VarOffset) (n : Nat) : (u.buffer offset n).length = n := by
  simp [Uninit.buffer]

/-- A transport that carries all calls serves the driver, whose registers are short. -/
theorem Carries.serves {τ : Type} {fw : Firmware} {w : Wire} {T : TicBase τ} {I : List TicOp → Tic τ → Prop}
    (h : Carries fw w T I) (hw : 64 ≤ w.length) : Serves fw T I where
  command {ops t} c hI := by
    have hlength : ([] : List UInt8).length = c.call.length := by cases c <;> rfl
    obtain ⟨t', hcall, hok, hproduct, hI'⟩ := h c.call [] hlength hI
    rw [c.base_call] at hcall
    obtain rfl : c.base T t = t' := congrArg Prod.snd (Option.some.inj hcall)
    rw [c.op_call] at hI'
    exact ⟨hok, hproduct, hI'⟩
  getVar {ops t} n u offset hn hI := by
    have hlen : n.toNat % w.length = n.toNat := Nat.mod_eq_of_lt (hn.trans_le hw)
    obtain ⟨t', hcall, hok, hproduct, hI'⟩ :=
      h (.segment .getVariable offset.code n) (u.buffer offset n.toNat) (length_buffer u offset n.toNat) hI
    simp only [Call.op, hlen] at hcall hI'
    have hwhole : poke (u.buffer offset n.toNat) 0 (fw.reply ops .getVariable offset.code.toNat n.toNat) =
        fw.reply ops .getVariable offset.code.toNat n.toNat :=
      poke_zero (by rw [fw.length_reply, length_buffer])
    refine ⟨t', ?_, hok, hproduct, hI'⟩
    rw [← hwhole]
    exact hcall

/-! ## Operations of the interface -/

inductive Operation where
  | command (c : Command)
  | getVariables
  deriving DecidableEq, Repr

/-- The registers `getVariables` reads, in order. -/
def registerReads : List TicOp :=
  [VarOffset.targetPosition.read 4, VarOffset.currentPosition.read 4, VarOffset.vinVoltage.read 2,
    VarOffset.currentLimit.read 1, VarOffset.miscFlags1.read 1, VarOffset.stepMode.read 1,
    VarOffset.operationState.read 1, VarOffset.errorStatus.read 2]

/-- What an operation asks the controller for. -/
def Operation.ops : Operation → List TicOp
  | .command c => [c.op]
  | .getVariables => registerReads

/-- The variables of a controller that was asked for `ops`, read one register
    after the other. -/
def Firmware.variables (fw : Firmware) (product : TicProduct) (ops : List TicOp) : TicVariables :=
  let bytes (k : Nat) (offset : VarOffset) (n : Nat) :=
    fw.reply (ops ++ registerReads.take k) .getVariable offset.code.toNat n
  TiclibInterface.variablesOf product (bytes 0 .targetPosition 4) (bytes 1 .currentPosition 4)
    (bytes 2 .vinVoltage 2) (bytes 3 .currentLimit 1) (bytes 4 .miscFlags1 1) (bytes 5 .stepMode 1)
    (bytes 6 .operationState 1) (bytes 7 .errorStatus 2)

/-- The result of an operation on a controller that was asked for `ops`: whether
    it succeeds, and the variables. -/
def Operation.result (fw : Firmware) (product : TicProduct) (ops : List TicOp) : Operation → Bool × Option TicVariables
  | .command _ => (true, none)
  | .getVariables => (true, some (fw.variables product ops))

namespace TiclibInterface
variable {τ : Type} (T : TicBase τ)

def perform (u : Uninit) (i : TiclibInterface τ) : Operation → Option ((Bool × Option TicVariables) × TiclibInterface τ)
  | .command c => some (((i.command T c).1, none), (i.command T c).2)
  | .getVariables => (i.getVariables T u).map fun (vars, i) => ((vars.isSome, vars), i)

/-- The operations one after the other, the `k`-th finding `us k` in its
    variables. -/
def performAll (us : Nat → Uninit) : (k : Nat) → List Operation → TiclibInterface τ →
    Option (List (Bool × Option TicVariables) × TiclibInterface τ)
  | _, [], i => some ([], i)
  | k, op :: todo, i => do
    let (res, i) ← i.perform T (us k) op
    let (rest, i) ← performAll us (k + 1) todo i
    return (res :: rest, i)

end TiclibInterface

/-- The results of operations on a controller that was asked for `ops`. -/
def Firmware.results (fw : Firmware) (product : TicProduct) :
    List TicOp → List Operation → List (Bool × Option TicVariables)
  | _, [] => []
  | ops, op :: todo => op.result fw product ops :: fw.results product (ops ++ op.ops) todo

namespace Serves
variable {τ : Type} {fw : Firmware} {T : TicBase τ} {I : List TicOp → Tic τ → Prop}

theorem getVariables (hT : Serves fw T I) {ops : List TicOp} {i : TiclibInterface τ} (hI : I ops i.ticBase)
    (u : Uninit) :
    ∃ i', i.getVariables T u = some (some (fw.variables i.ticBase.product ops), i') ∧
      i'.ticBase.product = i.ticBase.product ∧ I (ops ++ registerReads) i'.ticBase := by
  obtain ⟨t₁, r₁, e₁, p₁, I₁⟩ := hT.getVar 4 u .targetPosition (by decide) hI
  obtain ⟨t₂, r₂, e₂, p₂, I₂⟩ := hT.getVar 4 u .currentPosition (by decide) I₁
  obtain ⟨t₃, r₃, e₃, p₃, I₃⟩ := hT.getVar 2 u .vinVoltage (by decide) I₂
  obtain ⟨t₄, r₄, e₄, p₄, I₄⟩ := hT.getVar 1 u .currentLimit (by decide) I₃
  obtain ⟨t₅, r₅, e₅, p₅, I₅⟩ := hT.getVar 1 u .miscFlags1 (by decide) I₄
  obtain ⟨t₆, r₆, e₆, p₆, I₆⟩ := hT.getVar 1 u .stepMode (by decide) I₅
  obtain ⟨t₇, r₇, e₇, p₇, I₇⟩ := hT.getVar 1 u .operationState (by decide) I₆
  obtain ⟨t₈, r₈, e₈, p₈, I₈⟩ := hT.getVar 2 u .errorStatus (by decide) I₇
  have hres := TiclibInterface.getVariables_ok r₁ e₁ r₂ e₂ r₃ r₄ r₅ r₆ r₇ r₈
  simp only [List.append_assoc, List.cons_append, List.nil_append, UInt8.reduceToNat] at hres I₈
  have hproduct : t₄.product = i.ticBase.product := by rw [p₄, p₃, p₂, p₁]
  refine ⟨⟨t₈, "OK"⟩, ?_, by rw [p₈, p₇, p₆, p₅, hproduct], I₈⟩
  rw [hres, hproduct]
  simp [Firmware.variables, registerReads]

theorem perform (hT : Serves fw T I) {ops : List TicOp} {i : TiclibInterface τ} (hI : I ops i.ticBase)
    (u : Uninit) (op : Operation) :
    ∃ i', i.perform T u op = some (op.result fw i.ticBase.product ops, i') ∧
      i'.ticBase.product = i.ticBase.product ∧ I (ops ++ op.ops) i'.ticBase := by
  cases op with
  | command c =>
    obtain ⟨hok, hproduct, hI'⟩ := hT.command c hI
    have hres : i.command T c = (true, ⟨c.base T i.ticBase, "OK"⟩) := by
      rw [TiclibInterface.command_eq, TiclibInterface.report, hok]
      rfl
    exact ⟨⟨c.base T i.ticBase, "OK"⟩, by rw [TiclibInterface.perform, hres]; rfl, hproduct, hI'⟩
  | getVariables =>
    obtain ⟨i', hres, hproduct, hI'⟩ := hT.getVariables hI u
    exact ⟨i', by rw [TiclibInterface.perform, hres]; rfl, hproduct, hI'⟩

/-- A sequence of operations over a transport that serves the firmware has the
    results of the firmware, and the controller is asked for just these. -/
theorem performAll (hT : Serves fw T I) (us : Nat → Uninit) (todo : List Operation) (k : Nat) {ops : List TicOp}
    {i : TiclibInterface τ} (hI : I ops i.ticBase) :
    ∃ i', i.performAll T us k todo = some (fw.results i.ticBase.product ops todo, i') ∧
      I (ops ++ todo.flatMap Operation.ops) i'.ticBase := by
  induction todo generalizing k ops i with
  | nil => exact ⟨i, rfl, by simpa using hI⟩
  | cons op todo ih =>
    obtain ⟨i₁, hop, hproduct, hI₁⟩ := hT.perform hI (us k) op
    obtain ⟨i₂, hrest, hI₂⟩ := ih (k + 1) hI₁
    refine ⟨i₂, ?_, by rwa [List.flatMap_cons, ← List.append_assoc]⟩
    rw [TiclibInterface.performAll, hop]
    simp only [Option.bind_eq_bind, Option.bind_some, hrest, hproduct]
    rfl

end Serves

/-! ## The two transports -/

/-- A controller on the bus that was asked for `ops`. -/
def OnBus (ops : List TicOp) (t : Tic (TicUsb (List TicOp))) : Prop := t.io.usb = ops

/-- A controller on the line that was asked for `ops`, one frame each, with no
    reply under way. -/
structure OnLine (ops : List TicOp) (t : Tic (StreamBT × SerialTic)) : Prop where
  asked : t.io.2.ops = ops
  frames : ∃ frames, t.io.2.wire = frames.flatten ∧ List.Forall₂ (Framing.IsFrame compact) frames ops
  drained : t.io.2.taken = t.io.2.sent.length

/-- `wIndex` and `wValue` put together again. -/
theorem setup_value (val : UInt32) : (val >>> 16).toUInt16.toNat * 65536 + val.toUInt16.toNat = val.toNat := by
  have hhigh : (val >>> 16).toUInt16.toNat = val.toNat / 65536 % 65536 := by
    rw [UInt32.toNat_toUInt16, UInt32.toNat_shiftRight, Nat.shiftRight_eq_div_pow]
    rfl
  have hlt := val.toNat_lt
  rw [hhigh, UInt32.toNat_toUInt16]
  omega

theorem narrow_ofNat (n : UInt8) : TicUsb.narrow (Int32.ofNat n.toNat) = n := by
  rw [TicUsb.narrow, Int32.toUInt32_ofNat']
  apply UInt8.toNat_inj.mp
  have hlt := n.toNat_lt
  rw [UInt32.toNat_toUInt8, UInt32.toNat_ofNat']
  omega

/-- A transfer without data that the Tic knows. -/
theorem control_usbTic (fw : Firmware) {ops : List TicOp} {t : Tic (TicUsb (List TicOp))} (h : OnBus ops t)
    {cmd : TicCommand} {wValue wIndex : UInt16} {op : TicOp}
    (hdec : decodeSetup 0x40 cmd.code wValue wIndex 0 = some op) :
    TicUsb.control (usbTic fw) cmd wValue wIndex t =
      { t with lastError := 0, io := { t.io with usb := ops ++ [op] } } := by
  have husb : t.io.usb = ops := h
  simp only [TicUsb.control, usbTic, hdec, husb]
  rfl

theorem usb_carries (fw : Firmware) : Carries fw .usb (TicUsb.base (usbTic fw)) OnBus := by
  intro ops t c buffer hbuf h
  have hcontrol : ∀ {cmd : TicCommand} {wValue wIndex : UInt16},
      decodeSetup 0x40 cmd.code wValue wIndex 0 = some (c.op .usb) → (c.op .usb).answer fw ops = [] →
      ∃ t', some (buffer, TicUsb.control (usbTic fw) cmd wValue wIndex t) =
          some (poke buffer 0 ((c.op .usb).answer fw ops), t') ∧ t'.lastError = 0 ∧ t'.product = t.product ∧
        OnBus (ops ++ [c.op .usb]) t' := by
    intro cmd wValue wIndex hdec hsilent
    rw [control_usbTic fw h hdec, hsilent, poke_nil]
    exact ⟨_, rfl, rfl, rfl, rfl⟩
  cases c with
  | quick cmd hcmd =>
    have hdec : decodeSetup 0x40 cmd.code 0 0 0 = some (.quick cmd) := by
      simp [decodeSetup, TicCommand.ofCode_code, hcmd]
    exact hcontrol hdec rfl
  | w32 cmd val hcmd =>
    have hdec : decodeSetup 0x40 cmd.code val.toUInt16 (val >>> 16).toUInt16 0 = some (.w32 cmd val.toNat) := by
      simp only [decodeSetup, TicCommand.ofCode_code, Option.bind_some, if_true, hcmd, setup_value]
    exact hcontrol hdec rfl
  | w7 cmd val hcmd =>
    have hval : val.toNat % Wire.usb.val = val.toNat := Nat.mod_eq_of_lt val.toNat_lt
    have hdec : decodeSetup 0x40 cmd.code val.toUInt16 0 0 = some (.w7 cmd (val.toNat % Wire.usb.val)) := by
      simp only [decodeSetup, TicCommand.ofCode_code, Option.bind_some, if_true, hcmd, UInt8.toNat_toUInt16, hval]
    exact hcontrol hdec rfl
  | segment cmd offset length hcmd =>
    have husb : t.io.usb = ops := h
    have hlength : length.toNat % Wire.usb.length = length.toNat := Nat.mod_eq_of_lt length.toNat_lt
    have hdec : decodeSetup 0xC0 cmd.code 0 offset.toUInt16 length.toUInt16 =
        some (.segment cmd offset.toNat length.toNat) := by
      simp [decodeSetup, TicCommand.ofCode_code, hcmd]
    have hwhole : (fw.reply ops cmd offset.toNat length.toNat).take length.toNat =
        fw.reply ops cmd offset.toNat length.toNat := List.take_of_length_le (by simp)
    have hlt : ¬ length < 0 := by
      rw [UInt8.lt_iff_toNat_lt]
      exact Nat.not_lt_zero _
    rw [Call.op, hlength]
    refine ⟨{ t with lastError := 0, io := { t.io with usb := ops ++ [.segment cmd offset.toNat length.toNat] } }, ?_,
      rfl, rfl, rfl⟩
    show TicUsb.getSegment (usbTic fw) cmd offset length buffer t = _
    simp only [TicUsb.getSegment, usbTic, hdec, husb, TicOp.answer, UInt8.toNat_toUInt16, hwhole, narrow_ofNat,
      if_neg hlt, ne_eq, not_true_eq_false, if_false]

theorem usb_serves (fw : Firmware) : Serves fw (TicUsb.base (usbTic fw)) OnBus :=
  Carries.serves (usb_carries fw) (by decide)

/-- A frame more on the line. -/
theorem OnLine.performed (fw : Firmware) {ops : List TicOp} {t : Tic (StreamBT × SerialTic)} (h : OnLine ops t)
    {f : List UInt8} {op : TicOp} (hf : Framing.IsFrame compact f op) :
    (t.io.2.performed fw f op).ops = ops ++ [op] ∧ ∃ frames, (t.io.2.performed fw f op).wire = frames.flatten ∧
      List.Forall₂ (Framing.IsFrame compact) frames (ops ++ [op]) := by
  obtain ⟨frames, hwire, hall⟩ := h.frames
  have hasked : t.io.2.out = ops := h.asked
  refine ⟨by simp only [SerialTic.performed, SerialTic.ops, hasked], frames ++ [f], ?_, ?_⟩
  · rw [SerialTic.performed, hwire, List.flatten_append, List.flatten_singleton]
  · exact List.rel_append hall (.cons hf .nil)

/-- A call that has no answer, whatever the reads of the line find. -/
theorem OnLine.call (fw : Firmware) (found : Nat → Nat) {ops : List TicOp} {t : Tic (StreamBT × SerialTic)}
    (h : OnLine ops t) (c : Call) (hnot : ∀ cmd offset length hcmd, c ≠ .segment cmd offset length hcmd)
    (buffer : List UInt8) :
    ∃ t', (TicSerial.base (StreamBT.stream (serialTic fw found)) 255).call c buffer t =
        some (poke buffer 0 ((c.op .serial).answer fw ops), t') ∧ t'.lastError = 0 ∧ t'.product = t.product ∧
      OnLine (ops ++ [c.op .serial]) t' := by
  have hframe : Framing.IsFrame compact (c.frame 255) (c.op .serial) := (robust_call c).toIsFrame
  have hsilent : ∀ ops, (c.op .serial).answer fw ops = [] := by
    intro ops
    cases c with
    | segment cmd offset length hcmd => exact absurd rfl (hnot cmd offset length hcmd)
    | _ => rfl
  obtain ⟨hops, hframes⟩ := h.performed fw hframe
  rw [TicSerial.call_eq _ _ hnot, StreamBT.putAll_link, SerialTic.receive_isFrame fw _ hframe, hsilent, poke_nil]
  refine ⟨_, rfl, rfl, rfl, hops, hframes, ?_⟩
  show t.io.2.taken = (t.io.2.sent ++ (c.op .serial).answer fw t.io.2.ops).length
  rw [hsilent, List.append_nil]
  exact h.drained

theorem serial_carries (fw : Firmware) {found : Nat → Nat} (hfound : ∀ k, 0 < found k) :
    Carries fw .serial (TicSerial.base (StreamBT.stream (serialTic fw found)) 255) OnLine := by
  intro ops t c buffer hbuf h
  cases c with
  | quick cmd hcmd => exact h.call fw found (.quick cmd hcmd) (fun _ _ _ _ => nofun) buffer
  | w32 cmd val hcmd => exact h.call fw found (.w32 cmd val hcmd) (fun _ _ _ _ => nofun) buffer
  | w7 cmd val hcmd => exact h.call fw found (.w7 cmd val hcmd) (fun _ _ _ _ => nofun) buffer
  | segment cmd offset length hcmd =>
    obtain ⟨lastError, product, b, t⟩ := t
    have hdrained : t.taken = t.sent.length := h.drained
    have hasked : t.ops = ops := h.asked
    have hfits : length.toNat % 64 ≤ buffer.length := by
      rw [hbuf]
      exact Nat.mod_le _ _
    obtain ⟨c, r, hget, -, -, hall⟩ := StreamBT.getSegment_link fw found hcmd offset length hfits lastError product b
      (Nat.le_of_eq hdrained)
    have hc := hall hfound hdrained
    obtain ⟨hops, hframes⟩ := h.performed fw (robust_call (.segment cmd offset length hcmd)).toIsFrame
    rw [hc, if_pos rfl, if_pos rfl, SerialTic.next_requested fw cmd _ _ hdrained, hasked] at hget
    refine ⟨_, hget, rfl, rfl, hops, hframes, ?_⟩
    show t.taken + length.toNat % 64 = (t.sent ++ fw.reply t.ops cmd offset.toNat (length.toNat % 64)).length
    rw [List.length_append, fw.length_reply, hdrained]

theorem serial_serves (fw : Firmware) {found : Nat → Nat} (hfound : ∀ k, 0 < found k) :
    Serves fw (TicSerial.base (StreamBT.stream (serialTic fw found)) 255) OnLine :=
  Carries.serves (serial_carries fw hfound) (by decide)

/-! ## The same controller -/

/-- The same operations over both transports, whatever the variables hold
    before: the same results, and the same requests to the controller in the
    same order; over the line each request is a frame of one command byte and
    data bytes below it, and there are no other bytes. -/
def Agree (fw : Firmware) (found : Nat → Nat) (product : TicProduct) (handle : Option Nat) (b : StreamBT)
    (us us' : Nat → Uninit) (todo : List Operation) : Prop :=
  ∃ (results : List (Bool × Option TicVariables)) (i : TiclibInterface (TicUsb (List TicOp)))
    (i' : TiclibInterface (StreamBT × SerialTic)) (frames : List (List UInt8)),
    (TiclibInterface.mk { product, io := { handle, usb := [] } } "").performAll
      (TicUsb.base (usbTic fw)) us 0 todo = some (results, i) ∧
    (TiclibInterface.mk { product, io := (b, {}) } "").performAll
      (TicSerial.base (StreamBT.stream (serialTic fw found)) 255) us' 0 todo = some (results, i') ∧
    i.ticBase.io.usb = todo.flatMap Operation.ops ∧
    i'.ticBase.io.2.ops = todo.flatMap Operation.ops ∧
    i'.ticBase.io.2.wire = frames.flatten ∧
    List.Forall₂ (Framing.IsFrame compact) frames (todo.flatMap Operation.ops)

/-- **Equivalence of the transports**, for every way the replies are split into
    non-empty reads. -/
theorem transports_agree (fw : Firmware) (found : Nat → Nat) (hfound : ∀ k, 0 < found k) (product : TicProduct)
    (handle : Option Nat) (b : StreamBT) (us us' : Nat → Uninit) (todo : List Operation) :
    Agree fw found product handle b us us' todo := by
  have hbus : OnBus [] (Tic.mk 0 product (TicUsb.mk handle [])) := rfl
  have hline : OnLine [] (Tic.mk 0 product (b, ({} : SerialTic))) := ⟨rfl, ⟨[], rfl, .nil⟩, rfl⟩
  obtain ⟨i, hrun, hI⟩ := (usb_serves fw).performAll us todo 0 (i := ⟨_, ""⟩) hbus
  obtain ⟨i', hrun', hI'⟩ := (serial_serves fw hfound).performAll us' todo 0 (i := ⟨_, ""⟩) hline
  obtain ⟨frames, hwire, hall⟩ := hI'.frames
  exact ⟨_, i, i', frames, hrun, hrun', hI, hI'.asked, hwire, hall⟩

/-- A negative target and a poll, the replies in chunks of one to three bytes. -/
theorem transports_agree_chunked :
    (∀ k, 0 < k % 3 + 1) ∧
      Agree (fun ops _ k => UInt8.ofNat (k + ops.length)) (fun k => k % 3 + 1) .tic36v4 (some 1) {}
        (fun _ _ _ => 0xAA) (fun _ _ _ => 0x55) [.command (.setTargetPosition (-5)), .getVariables] := by
  have hfound : ∀ k, 0 < k % 3 + 1 := fun k => Nat.succ_pos _
  exact ⟨hfound, transports_agree _ _ hfound _ _ _ _ _ _⟩

end TicFocuserNG
