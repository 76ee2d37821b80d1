import TicFocuserNG.CurrentLimitSetting
import TicFocuserNG.Getters

/- The methods of `TicBase`, all of them, over the two transports. Each is a call of a
   virtual function at most, and the getters make a value of the bytes that come back.

     1. `library_asks_iff`: over both transports a Tic is asked for the same, exactly
        when no code of a current limit needs more than seven bits and no length of
        `getSetting` more than six.
     2. `getters_tell`: among any methods, every getter gives its variable as it is when
        the Tic is asked. -/
namespace TicFocuserNG

namespace Ticlib

/-! ## The methods -/

/-- `Full` and `Half` are other names of the first two. -/
inductive TicStepMode where
  | microstep1
  | microstep2
  | microstep4
  | microstep8
  | microstep16
  | microstep32
  | microstep2_100p
  | microstep64
  | microstep128
  | microstep256
  deriving DecidableEq, Repr

def TicStepMode.code : TicStepMode → UInt8
  | .microstep1 => 0
  | .microstep2 => 1
  | .microstep4 => 2
  | .microstep8 => 3
  | .microstep16 => 4
  | .microstep32 => 5
  | .microstep2_100p => 6
  | .microstep64 => 7
  | .microstep128 => 8
  | .microstep256 => 9

/-- `Mixed50` is another name of the first. -/
inductive TicDecayMode where
  | mixed
  | slow
  | fast
  | mixed25
  | mixed75
  deriving DecidableEq, Repr

def TicDecayMode.code : TicDecayMode → UInt8
  | .mixed => 0
  | .slow => 1
  | .fast => 2
  | .mixed25 => 3
  | .mixed75 => 4

inductive TicAgcMode where
  | off
  | on
  | activeOff
  deriving DecidableEq, Repr

def TicAgcMode.code : TicAgcMode → UInt8
  | .off => 0
  | .on => 1
  | .activeOff => 2

inductive TicAgcBottomCurrentLimit where
  | p45
  | p50
  | p55
  | p60
  | p65
  | p70
  | p75
  | p80
  deriving DecidableEq, Repr

def TicAgcBottomCurrentLimit.code : TicAgcBottomCurrentLimit → UInt8
  | .p45 => 0
  | .p50 => 1
  | .p55 => 2
  | .p60 => 3
  | .p65 => 4
  | .p70 => 5
  | .p75 => 6
  | .p80 => 7

inductive TicAgcCurrentBoostSteps where
  | s5
  | s7
  | s9
  | s11
  deriving DecidableEq, Repr

def TicAgcCurrentBoostSteps.code : TicAgcCurrentBoostSteps → UInt8
  | .s5 => 0
  | .s7 => 1
  | .s9 => 2
  | .s11 => 3

inductive TicAgcFrequencyLimit where
  | off
  | f225Hz
  | f450Hz
  | f675Hz
  deriving DecidableEq, Repr

def TicAgcFrequencyLimit.code : TicAgcFrequencyLimit → UInt8
  | .off => 0
  | .f225Hz => 1
  | .f450Hz => 2
  | .f675Hz => 3

inductive Method where
  | setProduct (product : TicProduct)
  | setTargetPosition (position : Int32)
  | setTargetVelocity (velocity : Int32)
  | haltAndSetPosition (position : Int32)
  | haltAndHold
  | goHomeReverse
  | goHomeForward
  | resetCommandTimeout
  | deenergize
  | energize
  | exitSafeStart
  | enterSafeStart
  | reset
  | clearDriverError
  | setMaxSpeed (speed : UInt32)
  | setStartingSpeed (speed : UInt32)
  | setMaxAccel (accel : UInt32)
  | setMaxDecel (decel : UInt32)
  | setStepMode (mode : TicStepMode)
  | setCurrentLimit (limit : UInt16)
  | setDecayMode (mode : TicDecayMode)
  | setAgcMode (mode : TicAgcMode)
  | setAgcBottomCurrentLimit (limit : TicAgcBottomCurrentLimit)
  | setAgcCurrentBoostSteps (steps : TicAgcCurrentBoostSteps)
  | setAgcFrequencyLimit (limit : TicAgcFrequencyLimit)
  | get (getter : Getter)
  | getSetting (offset length : UInt8)
  deriving DecidableEq, Repr

namespace Method

/-- The call that a method makes. -/
def call (product : TicProduct) : Method → Option Call
  | setProduct _ => none
  | setTargetPosition position => some (.w32 .setTargetPosition position.toUInt32)
  | setTargetVelocity velocity => some (.w32 .setTargetVelocity velocity.toUInt32)
  | haltAndSetPosition position => some (.w32 .haltAndSetPosition position.toUInt32)
  | haltAndHold => some (.quick .haltAndHold)
  | goHomeReverse => some (.w7 .goHome 0)
  | goHomeForward => some (.w7 .goHome 1)
  | resetCommandTimeout => some (.quick .resetCommandTimeout)
  | deenergize => some (.quick .deenergize)
  | energize => some (.quick .energize)
  | exitSafeStart => some (.quick .exitSafeStart)
  | enterSafeStart => some (.quick .enterSafeStart)
  | reset => some (.quick .reset)
  | clearDriverError => some (.quick .clearDriverError)
  | setMaxSpeed speed => some (.w32 .setSpeedMax speed)
  | setStartingSpeed speed => some (.w32 .setStartingSpeed speed)
  | setMaxAccel accel => some (.w32 .setAccelMax accel)
  | setMaxDecel decel => some (.w32 .setDecelMax decel)
  | setStepMode mode => some (.w7 .setStepMode mode.code)
  | setCurrentLimit limit => some (.w7 .setCurrentLimit (TicBase.codeOfCurrent product limit))
  | setDecayMode mode => some (.w7 .setDecayMode mode.code)
  | setAgcMode mode => some (.w7 .setAgcOption (mode.code &&& 0xF))
  | setAgcBottomCurrentLimit limit => some (.w7 .setAgcOption ((0x10 : UInt8) ||| (limit.code &&& 0xF)))
  | setAgcCurrentBoostSteps steps => some (.w7 .setAgcOption ((0x20 : UInt8) ||| (steps.code &&& 0xF)))
  | setAgcFrequencyLimit limit => some (.w7 .setAgcOption ((0x30 : UInt8) ||| (limit.code &&& 0xF)))
  | get getter => some getter.readout.call
  | getSetting offset length => some (.segment .getSetting offset length)

/-- The product of the object after a method. -/
def product (before : TicProduct) : Method → TicProduct
  | setProduct product => product
  | _ => before

/-- What a method returns, from the buffer of its call. -/
def value (product : TicProduct) (buffer : List UInt8) : Method → Option Value
  | get getter => some (getter.readout.value product buffer)
  | getSetting _ _ => some (.bytes buffer)
  | _ => none

section
variable {τ : Type} (T : TicBase τ)

/-- `buffer` is what the variable that is read into holds before. -/
def perform (buffer : Nat → UInt8) (m : Method) (t : Tic τ) : Option (Option Value × Tic τ) :=
  match m.call t.product with
  | none => some (none, { t with product := m.product t.product })
  | some c => (T.call c ((List.range c.length).map buffer) t).map fun (buffer, t) => (m.value t.product buffer, t)

/-- The methods one after the other, the `k`-th with `buffers k` in its variable. -/
def performAll (buffers : Nat → Nat → UInt8) : (k : Nat) → List Method → Tic τ → Option (List (Option Value) × Tic τ)
  | _, [], t => some ([], t)
  | k, m :: ms, t => do
    let (v, t) ← m.perform T (buffers k) t
    let (vs, t) ← performAll buffers (k + 1) ms t
    return (v :: vs, t)

end

/-- What the Tic is asked for over a transport that carries as much as `w`. -/
def asked (w : Wire) (product : TicProduct) (m : Method) : List TicOp := ((m.call product).map (Call.op w)).toList

def askedAll (w : Wire) : (product : TicProduct) → List Method → List TicOp
  | _, [] => []
  | product, m :: ms => m.asked w product ++ askedAll w (m.product product) ms

end Method

namespace Method

/-- What a method returns of a Tic with the firmware `fw` that was asked for `ops`. -/
def result (fw : Firmware) (w : Wire) (product : TicProduct) (ops : List TicOp) (buffer : Nat → UInt8) (m : Method) :
    Option Value :=
  match m.call product with
  | none => none
  | some c => m.value product (poke ((List.range c.length).map buffer) 0 ((c.op w).answer fw ops))

def results (fw : Firmware) (w : Wire) (buffers : Nat → Nat → UInt8) :
    (k : Nat) → (product : TicProduct) → (ops : List TicOp) → List Method → List (Option Value)
  | _, _, _, [] => []
  | k, product, ops, m :: ms =>
    m.result fw w product ops (buffers k) ::
      results fw w buffers (k + 1) (m.product product) (ops ++ m.asked w product) ms

section
variable {τ : Type} {fw : Firmware} {w : Wire} {T : TicBase τ} {I : List TicOp → Tic τ → Prop}

theorem product_of_call {product : TicProduct} {m : Method} {c : Call} (h : m.call product = some c) :
    m.product product = product := by
  cases m with
  | setProduct _ => cases h
  | _ => rfl

theorem perform_carries (hT : Carries fw w T I) (hI : ∀ {ops t} product, I ops t → I ops { t with product })
    {ops : List TicOp} {t : Tic τ} (h : I ops t) (buffer : Nat → UInt8) (m : Method) :
    ∃ t', m.perform T buffer t = some (m.result fw w t.product ops buffer, t') ∧
      t'.product = m.product t.product ∧ I (ops ++ m.asked w t.product) t' := by
  rw [perform, result, asked]
  cases hc : m.call t.product with
  | none =>
    refine ⟨_, rfl, rfl, ?_⟩
    rw [Option.map_none, Option.toList_none, List.append_nil]
    exact hI _ h
  | some c =>
    obtain ⟨t', hcall, -, hproduct, hI'⟩ := hT c ((List.range c.length).map buffer) (by simp) h
    simp only [hcall, Option.map_some, hproduct, product_of_call hc]
    exact ⟨t', rfl, hproduct, hI'⟩

theorem performAll_carries (hT : Carries fw w T I) (hI : ∀ {ops t} product, I ops t → I ops { t with product })
    (buffers : Nat → Nat → UInt8) (ms : List Method) (k : Nat) {ops : List TicOp} {t : Tic τ} (h : I ops t) :
    ∃ t', performAll T buffers k ms t = some (results fw w buffers k t.product ops ms, t') ∧
      I (ops ++ askedAll w t.product ms) t' := by
  induction ms generalizing k ops t with
  | nil => exact ⟨t, rfl, by simpa [askedAll] using h⟩
  | cons m ms ih =>
    obtain ⟨t₁, hone, hproduct, hI₁⟩ := perform_carries hT hI h (buffers k) m
    obtain ⟨t₂, hrest, hI₂⟩ := ih (k + 1) hI₁
    refine ⟨t₂, ?_, ?_⟩
    · rw [performAll, hone]
      simp only [Option.bind_eq_bind, Option.bind_some, hrest, hproduct]
      rfl
    · rw [askedAll, ← List.append_assoc, ← hproduct]
      exact hI₂

end

end Method

/-! ## The same requests -/

/-- `TicSerial` carries all of the call. -/
def Fits : Call → Prop
  | .w7 _ val _ => val < 128
  | .segment _ _ length _ => length < 64
  | _ => True

instance (c : Call) : Decidable (Fits c) := by
  cases c <;> unfold Fits <;> infer_instance

theorem op_eq_iff (c : Call) : c.op .usb = c.op .serial ↔ Fits c := by
  have hcut : ∀ (n : UInt8) {k : Nat}, 0 < k → (n.toNat % 256 = n.toNat % k ↔ n.toNat < k) := by
    intro n k hk
    rw [Nat.mod_eq_of_lt n.toNat_lt]
    apply Iff.intro
    · intro h
      rw [h]
      exact Nat.mod_lt _ hk
    · exact fun h => (Nat.mod_eq_of_lt h).symm
  cases c with
  | quick cmd _ => exact iff_of_true rfl trivial
  | w32 cmd val _ => exact iff_of_true rfl trivial
  | w7 cmd val _ =>
    have h := hcut val (show 0 < 128 by decide)
    simp only [Call.op, Wire.usb, Wire.serial, TicOp.w7.injEq, true_and, h, Fits, UInt8.lt_iff_toNat_lt,
      UInt8.reduceToNat]
  | segment cmd offset length _ =>
    have h := hcut length (show 0 < 64 by decide)
    simp only [Call.op, Wire.usb, Wire.serial, TicOp.segment.injEq, true_and, h, Fits, UInt8.lt_iff_toNat_lt,
      UInt8.reduceToNat]

namespace Method

/-- The two methods whose arguments may be more than `TicSerial` carries. -/
def Fits (product : TicProduct) : Method → Prop
  | setCurrentLimit limit => TicBase.codeOfCurrent product limit < 128
  | getSetting _ length => length < 64
  | _ => True

/-- So it is for every method, with the product at its turn. -/
def FitAll : (product : TicProduct) → List Method → Prop
  | _, [] => True
  | product, m :: ms => m.Fits product ∧ FitAll (m.product product) ms

theorem fits_call (product : TicProduct) (m : Method) : m.Fits product ↔ ∀ c ∈ m.call product, Ticlib.Fits c := by
  have hone : ∀ {c : Call}, m.call product = some c → (m.Fits product ↔ Ticlib.Fits c) →
      (m.Fits product ↔ ∀ c ∈ m.call product, Ticlib.Fits c) := by
    intro c hc hiff
    rw [hc, hiff]
    simp
  cases m with
  | setProduct _ => exact iff_of_true trivial fun c hc => nomatch hc
  | setStepMode mode => exact hone rfl (iff_of_true trivial (by cases mode <;> decide))
  | setDecayMode mode => exact hone rfl (iff_of_true trivial (by cases mode <;> decide))
  | setAgcMode mode => exact hone rfl (iff_of_true trivial (by cases mode <;> decide))
  | setAgcBottomCurrentLimit limit => exact hone rfl (iff_of_true trivial (by cases limit <;> decide))
  | setAgcCurrentBoostSteps steps => exact hone rfl (iff_of_true trivial (by cases steps <;> decide))
  | setAgcFrequencyLimit limit => exact hone rfl (iff_of_true trivial (by cases limit <;> decide))
  | goHomeReverse => exact hone rfl (iff_of_true trivial (by decide))
  | goHomeForward => exact hone rfl (iff_of_true trivial (by decide))
  | get getter =>
    have hlength : Ticlib.Fits getter.readout.call := by
      cases getter.readout <;> simp [Readout.call, Ticlib.Fits]
    exact hone rfl (iff_of_true trivial hlength)
  | setCurrentLimit limit => exact hone rfl Iff.rfl
  | getSetting offset length => exact hone rfl Iff.rfl
  | _ => exact hone rfl Iff.rfl

theorem asked_eq_iff (product : TicProduct) (m : Method) :
    m.asked .usb product = m.asked .serial product ↔ m.Fits product := by
  rw [fits_call, asked, asked]
  cases m.call product with
  | none => simp
  | some c => simp [op_eq_iff c]

theorem askedAll_eq_iff (product : TicProduct) (ms : List Method) :
    askedAll .usb product ms = askedAll .serial product ms ↔ FitAll product ms := by
  induction ms generalizing product with
  | nil => exact iff_of_true rfl trivial
  | cons m ms ih =>
    have hlen : (m.asked .usb product).length = (m.asked .serial product).length := by
      rw [asked, asked]
      cases m.call product <;> rfl
    rw [askedAll, askedAll, FitAll, ← asked_eq_iff, ← ih]
    constructor
    · exact fun h => List.append_inj h hlen
    · rintro ⟨h, h'⟩
      rw [h, h']

end Method

/-- A `TicUsb` object and a `TicSerial` one over Bluetooth, made anew. -/
def overUsb (product : TicProduct) (handle : Option Nat) : Tic (TicUsb (List TicOp)) :=
  { product, io := { handle, usb := [] } }

def overBluetooth (product : TicProduct) (b : StreamBT) : Tic (StreamBT × SerialTic) := { product, io := (b, {}) }

/-- Any methods over both transports: what they return, and what the two Tics were asked
    for then. -/
theorem performAll_both (fw : Firmware) {found : Nat → Nat} (hfound : ∀ k, 0 < found k) (product : TicProduct)
    (handle : Option Nat) (b : StreamBT) (buffers buffers' : Nat → Nat → UInt8) (ms : List Method) :
    (∃ t, Method.performAll (TicUsb.base (usbTic fw)) buffers 0 ms (overUsb product handle) =
        some (Method.results fw .usb buffers 0 product [] ms, t) ∧ t.io.usb = Method.askedAll .usb product ms) ∧
      ∃ t', Method.performAll (TicSerial.base (StreamBT.stream (serialTic fw found)) 255) buffers' 0 ms
          (overBluetooth product b) = some (Method.results fw .serial buffers' 0 product [] ms, t') ∧
        t'.io.2.ops = Method.askedAll .serial product ms := by
  have hbus : OnBus [] (overUsb product handle) := rfl
  have hline : OnLine [] (overBluetooth product b) := ⟨rfl, ⟨[], rfl, .nil⟩, rfl⟩
  obtain ⟨t, hrun, hI⟩ := Method.performAll_carries (usb_carries fw) (fun _ h => h) buffers ms 0 hbus
  obtain ⟨t', hrun', hI'⟩ := Method.performAll_carries (serial_carries fw hfound)
    (fun _ h => ⟨h.asked, h.frames, h.drained⟩) buffers' ms 0 hline
  exact ⟨⟨t, hrun, hI⟩, t', hrun', hI'.asked⟩

/-- What the transports carry alike comes back alike, whatever was in the buffers. -/
theorem result_of_fits (fw : Firmware) {product : TicProduct} {m : Method} (h : m.Fits product) (ops : List TicOp)
    (buffer buffer' : Nat → UInt8) :
    m.result fw .usb product ops buffer = m.result fw .serial product ops buffer' := by
  have hfits := (m.fits_call product).mp h
  rw [Method.result, Method.result]
  cases hc : m.call product with
  | none => rfl
  | some c =>
    have hsame := (op_eq_iff c).mpr (hfits c hc)
    have hfull : ∀ buffer : Nat → UInt8, m.value product (poke ((List.range c.length).map buffer) 0
        ((c.op .usb).answer fw ops)) = m.value product ((c.op .usb).answer fw ops) := by
      intro buffer
      cases c with
      | segment cmd offset length hcmd =>
        have hlength : (((Call.segment cmd offset length hcmd).op .usb).answer fw ops).length = length.toNat :=
          (fw.length_reply ops cmd _ _).trans (Nat.mod_eq_of_lt length.toNat_lt)
        rw [poke_zero (by rw [hlength, List.length_map, List.length_range]; rfl)]
      | _ => rfl
    simp only [← hsame, hfull]

theorem results_of_fitAll (fw : Firmware) (buffers buffers' : Nat → Nat → UInt8) (ms : List Method) (k : Nat)
    {product : TicProduct} {ops : List TicOp} (h : Method.FitAll product ms) :
    Method.results fw .usb buffers k product ops ms = Method.results fw .serial buffers' k product ops ms := by
  induction ms generalizing k product ops with
  | nil => rfl
  | cons m ms ih =>
    rw [Method.results, Method.results, result_of_fits fw h.1, (m.asked_eq_iff product).mpr h.1, ih (k + 1) h.2]

/-- **The same requests over both transports**, for any methods of `TicBase`, exactly when
    `TicSerial` carries all their arguments: the codes of current limits in seven bits,
    the lengths of `getSetting` in six. Then the methods return the same, too. -/
theorem library_asks_iff (fw : Firmware) (found : Nat → Nat) (hfound : ∀ k, 0 < found k) (product : TicProduct)
    (handle : Option Nat) (b : StreamBT) (buffers buffers' : Nat → Nat → UInt8) (ms : List Method) :
    ∃ vs t vs' t',
      Method.performAll (TicUsb.base (usbTic fw)) buffers 0 ms (overUsb product handle) = some (vs, t) ∧
      Method.performAll (TicSerial.base (StreamBT.stream (serialTic fw found)) 255) buffers' 0 ms
        (overBluetooth product b) = some (vs', t') ∧
      t.io.usb = Method.askedAll .usb product ms ∧ (t'.io.2.ops = t.io.usb ↔ Method.FitAll product ms) ∧
      (Method.FitAll product ms → vs' = vs) := by
  obtain ⟨⟨t, hrun, hasked⟩, t', hrun', hasked'⟩ := performAll_both fw hfound product handle b buffers buffers' ms
  refine ⟨_, t, _, t', hrun, hrun', hasked, ?_, fun h => (results_of_fitAll fw buffers buffers' ms 0 h).symm⟩
  rw [hasked, hasked', eq_comm]
  exact Method.askedAll_eq_iff product ms

/-- 3 A for a T825, read back then; the replies in chunks of one to three bytes. -/
theorem library_asks_iff_3A :
    (∀ k, 0 < k % 3 + 1) ∧
      ∃ vs t vs' t', Method.performAll (TicUsb.base (usbTic fun ops _ a => UInt8.ofNat (a + ops.length)))
          (fun _ _ => 0xAA) 0 [.setCurrentLimit 3000, .get .getCurrentLimit] (overUsb .t825 (some 1)) = some (vs, t) ∧
        Method.performAll (TicSerial.base (StreamBT.stream
          (serialTic (fun ops _ a => UInt8.ofNat (a + ops.length)) fun k => k % 3 + 1)) 255) (fun _ _ => 0x55) 0
          [.setCurrentLimit 3000, .get .getCurrentLimit] (overBluetooth .t825 {}) = some (vs', t') ∧
        t.io.usb = Method.askedAll .usb .t825 [.setCurrentLimit 3000, .get .getCurrentLimit] ∧
        (t'.io.2.ops = t.io.usb ↔ Method.FitAll .t825 [.setCurrentLimit 3000, .get .getCurrentLimit]) ∧
        (Method.FitAll .t825 [.setCurrentLimit 3000, .get .getCurrentLimit] → vs' = vs) := by
  have hfound : ∀ k, 0 < k % 3 + 1 := fun k => Nat.succ_pos _
  exact ⟨hfound, library_asks_iff _ _ hfound .t825 (some 1) {} (fun _ _ => 0xAA) (fun _ _ => 0x55) _⟩

/-- 5 A need eight bits of a T825. -/
example : ¬ Method.FitAll .t825 [.setCurrentLimit 5000] := by
  rintro ⟨h, -⟩
  exact absurd h (by decide : ¬ TicBase.codeOfCurrent .t825 5000 < 128)

/-! ## What the methods return -/

/-- A Tic with these variables and settings after what it was asked for. -/
def firmwareOf (vars : List TicOp → Variables) (settings : List TicOp → Nat → UInt8) : Firmware := fun ops cmd a =>
  if cmd = .getSetting then settings ops a else (vars ops).byte a

/-- What a method is to return. Of the settings come as many bytes as the length that is
    carried says; the rest of the buffer stays. -/
def Method.told (w : Wire) (vars : Variables) (settings : Nat → UInt8) (product : TicProduct) (buffer : Nat → UInt8) :
    Method → Option Value
  | get getter => some (getter.readout.told product vars)
  | getSetting offset length =>
    some (.bytes (((List.range (length.toNat % w.length)).map fun k => settings (offset.toNat + k)) ++
      ((List.range length.toNat).map buffer).drop (length.toNat % w.length)))
  | _ => none

/-- So it is for every method, of the Tic at its turn. -/
def toldAll (w : Wire) (vars : List TicOp → Variables) (settings : List TicOp → Nat → UInt8)
    (buffers : Nat → Nat → UInt8) :
    (k : Nat) → (product : TicProduct) → (ops : List TicOp) → List Method → List (Option Value)
  | _, _, _, [] => []
  | k, product, ops, m :: ms =>
    m.told w (vars ops) (settings ops) product (buffers k) ::
      toldAll w vars settings buffers (k + 1) (m.product product) (ops ++ m.asked w product) ms

theorem Readout.call_eq (r : Readout) :
    ∃ cmd offset length hcmd, r.call = .segment cmd offset length hcmd ∧ cmd ≠ .getSetting ∧ length.toNat < 64 := by
  cases r <;> exact ⟨_, _, _, rfl, rfl, by decide, by decide⟩

variable (vars : List TicOp → Variables) (settings : List TicOp → Nat → UInt8)

theorem result_get {w : Wire} (hw : 64 ≤ w.length) (product : TicProduct) (ops : List TicOp) (buffer : Nat → UInt8)
    (g : Getter) :
    Method.result (firmwareOf vars settings) w product ops buffer (.get g) =
      some (g.readout.told product (vars ops)) := by
  obtain ⟨cmd, offset, length, hkind, hcall, hcmd, hlength⟩ := g.readout.call_eq
  have hanswer : (g.readout.call.op w).answer (firmwareOf vars settings) ops =
      (vars ops).bytes offset.toNat length.toNat := by
    have hlen : length.toNat % w.length = length.toNat := Nat.mod_eq_of_lt (Nat.lt_of_lt_of_le hlength hw)
    simp only [hcall, Call.op, hlen, TicOp.answer, Firmware.reply, firmwareOf, if_neg hcmd, Variables.bytes]
  have hbuffer : ((List.range g.readout.call.length).map buffer).length = length.toNat := by
    rw [List.length_map, List.length_range, hcall]
    rfl
  have hfull : poke ((List.range g.readout.call.length).map buffer) 0 ((vars ops).bytes offset.toNat length.toNat) =
      (vars ops).bytes offset.toNat length.toNat := by
    apply poke_zero
    rw [hbuffer, Variables.bytes, List.length_map, List.length_range]
  show some (g.readout.value product (poke _ 0 _)) = _
  rw [hanswer, hfull, Readout.value_told product (vars ops) g.sized hcall]

theorem result_told {w : Wire} (hw : 64 ≤ w.length) (product : TicProduct) (ops : List TicOp) (buffer : Nat → UInt8)
    (m : Method) :
    m.result (firmwareOf vars settings) w product ops buffer = m.told w (vars ops) (settings ops) product buffer := by
  cases m with
  | get g => exact result_get vars settings hw product ops buffer g
  | getSetting offset length =>
    show some (Value.bytes (poke ((List.range length.toNat).map buffer) 0 _)) = _
    simp only [Call.op, TicOp.answer, Firmware.reply, firmwareOf, if_true, Method.told, poke, List.take_zero,
      List.nil_append, Nat.zero_add, List.length_map, List.length_range]
  | _ => rfl

theorem results_told {w : Wire} (hw : 64 ≤ w.length) (buffers : Nat → Nat → UInt8) (ms : List Method) (k : Nat)
    (product : TicProduct) (ops : List TicOp) :
    Method.results (firmwareOf vars settings) w buffers k product ops ms =
      toldAll w vars settings buffers k product ops ms := by
  induction ms generalizing k product ops with
  | nil => rfl
  | cons m ms ih => rw [Method.results, toldAll, result_told vars settings hw, ih]

/-- **Every getter gives what it is named for**, over either transport, among any methods
    of `TicBase`: the variable as it is at that time. -/
theorem getters_tell (found : Nat → Nat) (hfound : ∀ k, 0 < found k) (product : TicProduct) (handle : Option Nat)
    (b : StreamBT) (buffers buffers' : Nat → Nat → UInt8) (ms : List Method) :
    (∃ t, Method.performAll (TicUsb.base (usbTic (firmwareOf vars settings))) buffers 0 ms (overUsb product handle) =
        some (toldAll .usb vars settings buffers 0 product [] ms, t)) ∧
      ∃ t', Method.performAll (TicSerial.base (StreamBT.stream (serialTic (firmwareOf vars settings) found)) 255) buffers'
          0 ms (overBluetooth product b) = some (toldAll .serial vars settings buffers' 0 product [] ms, t') := by
  obtain ⟨⟨t, hrun, -⟩, t', hrun', -⟩ :=
    performAll_both (firmwareOf vars settings) hfound product handle b buffers buffers' ms
  rw [results_told vars settings (show 64 ≤ Wire.usb.length by decide)] at hrun
  rw [results_told vars settings (show 64 ≤ Wire.serial.length by decide)] at hrun'
  exact ⟨⟨t, hrun⟩, t', hrun'⟩

/-- Variables that hold their offsets. -/
def offsets : Variables where
  value v := v.code.toNat
  fits v := by cases v <;> decide

/-- The position, and the analog reading of RC, with a halt in between; one byte a read. -/
theorem getters_tell_offsets :
    (∀ k : Nat, 0 < (fun _ : Nat => 1) k) ∧
      (∃ t, Method.performAll (TicUsb.base (usbTic (firmwareOf (fun _ => offsets) fun _ _ => 0))) (fun _ _ => 0xAA) 0
          [.get .getCurrentPosition, .haltAndHold, .get (.getAnalogReading .rc)] (overUsb .t825 (some 1)) =
        some ([some (.i32 0x22), none, some (.u16 0x4847)], t)) ∧
      ∃ t', Method.performAll (TicSerial.base (StreamBT.stream
          (serialTic (firmwareOf (fun _ => offsets) fun _ _ => 0) fun _ => 1)) 255) (fun _ _ => 0x55) 0
          [.get .getCurrentPosition, .haltAndHold, .get (.getAnalogReading .rc)] (overBluetooth .t825 {}) =
        some ([some (.i32 0x22), none, some (.u16 0x4847)], t') := by
  have hfound : ∀ k : Nat, 0 < (fun _ : Nat => 1) k := fun _ => Nat.one_pos
  exact ⟨hfound, getters_tell (fun _ => offsets) (fun _ _ => 0) (fun _ => 1) hfound .t825 (some 1) {}
    (fun _ _ => 0xAA) (fun _ _ => 0x55) [.get .getCurrentPosition, .haltAndHold, .get (.getAnalogReading .rc)]⟩

end Ticlib

end TicFocuserNG
