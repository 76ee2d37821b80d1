import TicFocuserNG.Deployment
import TicFocuserNG.DisplayedDevice
import TicFocuserNG.Parking

/- Whole sessions over Bluetooth: the driver connects through its plugin, serves
   requests, parks and disconnects, and connects again.

   `BluetoothDriver` is the driver with the `BluetoothConnection` plugin, whose
   `TicSerial` and that of the interface are one object. As `INDI::DefaultDevice`
   does, it connects a driver that is not connected, and asks for the rest only one
   that is.

     1. `connect_spec`: a connection to a board is made exactly when there is an address
        and the up time is not 0; it leaves no reply on the line.
     2. `sessions_follow_system`: one run of the system explains any sessions. -/
namespace TicFocuserNG

open TiclibInterface (Command)

/-! ## The driver with its plugin -/

inductive SessionEvent where
  /-- `buffer` is what the variable of the up time holds before. -/
  | connect (buffer : Nat → UInt8)
  | disconnect
  | request (r : Request)

structure BluetoothDriver (σ : Type) where
  focuser : TicFocuser
  setting : Setting
  /-- `none` once a call does not return. -/
  interface : Option (TiclibInterface (StreamBT × σ))

namespace BluetoothDriver
variable {σ : Type} (os : Posix σ) (u : TiclibInterface (StreamBT × σ) → Uninit)

def driver : TicDriverInterface (Option (TiclibInterface (StreamBT × σ))) :=
  TiclibInterface.driver (TicSerial.base (StreamBT.stream os) 255) u

def plugin (d : BluetoothDriver σ) (i : TiclibInterface (StreamBT × σ)) : BluetoothConnection σ :=
  ⟨d.setting.required, d.setting.property, i.ticBase⟩

/-- `Focuser::Connect` connects the plugin, and `TicFocuser::Connect` energizes the
    motor then. -/
def connect (buffer : Nat → UInt8) (d : BluetoothDriver σ) : BluetoothDriver σ :=
  match d.interface with
  | none => d
  | some i =>
    match BluetoothConnection.connect os ((List.range 4).map buffer) (d.plugin i) with
    | none => { d with interface := none }
    | some (res, c) =>
      { focuser := { d.focuser with connected := res }
        setting := c.setting
        interface := (TicFocuser.connect (driver os u) res (some { i with ticBase := c.ticSerial })).2 }

/-- `TicFocuser::Disconnect` parks the focuser, and `Focuser::Disconnect` disconnects
    the plugin then. -/
def disconnect (d : BluetoothDriver σ) : BluetoothDriver σ :=
  let (f, o) := d.focuser.disconnect (driver os u) d.interface
  match o with
  | none => { d with focuser := { f with connected := false }, interface := none }
  | some i =>
    let c := BluetoothConnection.disconnect os (d.plugin i)
    { focuser := { f with connected := false }
      setting := c.setting
      interface := some { i with ticBase := c.ticSerial } }

def step (d : BluetoothDriver σ) : SessionEvent → BluetoothDriver σ
  | .connect buffer => if d.focuser.connected then d else d.connect os u buffer
  | .disconnect => if d.focuser.connected then d.disconnect os u else d
  | .request r =>
    if d.focuser.connected then
      let (f, o) := Deployment.step (driver os u) (d.focuser, d.interface) r
      { d with focuser := f, interface := o }
    else d

def answers (d : BluetoothDriver σ) : SessionEvent → List IPState
  | .request r => if d.focuser.connected then Deployment.answers (driver os u) (d.focuser, d.interface) r else []
  | _ => []

end BluetoothDriver

/-! ## The system -/

/-- Beside its events, a driver of the system is connected or not. -/
inductive SystemEvent where
  | event (e : Event)
  /-- An attempt to connect. -/
  | connected (res : Bool)
  | disconnected
  deriving DecidableEq, Repr

namespace World

def sessionStep (w : World) : SystemEvent → World
  | .event e => w.step e
  | .connected res => { w with focuser := { w.focuser with connected := res } }
  | .disconnected => { w.disconnect with focuser := { w.disconnect.focuser with connected := false } }

def sessionAnswers (w : World) : SystemEvent → List IPState
  | .event e => Deployment.systemAnswers w e
  | _ => []

end World

def SystemEvent.visible : SystemEvent → Bool
  | .event e => Deployment.visible e
  | _ => true

/-- The up time that the board has in its registers. -/
def Board.upTime (b : Board) : UInt32 := TicBase.value32 ((List.range 4).map fun k => b.registers (0x35 + k))

/-! ## Connecting -/

/-- The stream and the object over it do not matter. -/
theorem onLine_of_tic {ops : List TicOp} {t t' : Tic (StreamBT × SerialTic)} (h : OnLine ops t)
    (heq : t'.io.2 = t.io.2) : OnLine ops t' where
  asked := by rw [heq]; exact h.asked
  frames := by rw [heq]; exact h.frames
  drained := by rw [heq]; exact h.drained

namespace BluetoothConnection
variable {b : Board} {found : Nat → Nat}

/-- The request for the up time. -/
def askUpTime : TicOp := .segment .getVariable 0x35 4

theorem getUpTime_board (hfound : ∀ k, 0 < found k) {buffer : List UInt8} (hbuf : buffer.length = 4) {ops : List TicOp}
    {t : Tic (StreamBT × SerialTic)} (h : OnLine ops t) :
    ∃ t', getUpTime (serialTic b.firmware found) buffer t = some (b.upTime, t') ∧ t'.lastError = 0 ∧
      t'.product = t.product ∧ OnLine (ops ++ [askUpTime]) t' := by
  obtain ⟨t', hget, hok, hproduct, hI⟩ :=
    serial_carries b.firmware hfound (.segment .getVariable 0x35 4) buffer hbuf h
  have hwhole : poke buffer 0 (b.firmware.reply ops .getVariable 0x35 4) = b.firmware.reply ops .getVariable 0x35 4 :=
    poke_zero (by rw [Firmware.length_reply, hbuf])
  refine ⟨t', ?_, hok, hproduct, hI⟩
  have hread : TicSerial.getSegment (StreamBT.stream (serialTic b.firmware found)) 255 .getVariable 0x35 4 buffer t =
      some (b.firmware.reply ops .getVariable 0x35 4, t') := by
    rw [← hwhole]
    exact hget
  exact congrArg (Option.map _) hread

theorem streamBT_connect {required : String} (h : required ≠ "") (stream : StreamBT) (t : SerialTic) :
    StreamBT.connect (serialTic b.firmware found) required stream t =
      (true, { btSocket := 3, btMacAddress := required }, t) := by
  have hempty : required.isEmpty = false := by
    rw [Bool.eq_false_iff]
    exact fun he => h (String.isEmpty_iff.mp he)
  simp [StreamBT.connect, StreamBT.reconnect, StreamBT.dial, serialTic, hempty]

theorem disconnect_tic (stream : StreamBT) (t : SerialTic) :
    (StreamBT.disconnect (serialTic b.firmware found) stream t).2 = t :=
  ite_self t

/-- A connection to a board is made exactly when there is an address and the up time is
    not 0; at most the up time is asked for, and no reply is left on the line. -/
theorem connect_board (hfound : ∀ k, 0 < found k) {buffer : List UInt8} (hbuf : buffer.length = 4) {ops : List TicOp}
    {c : BluetoothConnection SerialTic} (h : OnLine ops c.ticSerial) :
    ∃ c' quiet, connect (serialTic b.firmware found) buffer c =
        some (decide (c.requiredBtMacAddress ≠ "" ∧ 0 < b.upTime), c') ∧
      c'.requiredBtMacAddress = c.requiredBtMacAddress ∧ c'.ticSerial.product = c.ticSerial.product ∧
      (∀ op ∈ quiet, op.motion = none) ∧ OnLine (ops ++ quiet) c'.ticSerial := by
  by_cases haddr : c.requiredBtMacAddress = ""
  · have hrefused : connect (serialTic b.firmware found) buffer c =
        some (false, { c with ticSerial := { c.ticSerial with
          io := ({ c.ticSerial.io.1 with btMacAddress := "" }, c.ticSerial.io.2) } }) := by
      simp [connect, StreamBT.connect, StreamBT.reconnect, haddr]
    have hdec : decide (c.requiredBtMacAddress ≠ "" ∧ 0 < b.upTime) = false := decide_eq_false fun hc => hc.1 haddr
    rw [hdec]
    refine ⟨_, [], hrefused, rfl, rfl, by simp, ?_⟩
    rw [List.append_nil]
    exact onLine_of_tic h rfl
  · have hline : OnLine ops { c.ticSerial with
        io := ({ btSocket := 3, btMacAddress := c.requiredBtMacAddress }, c.ticSerial.io.2) } := onLine_of_tic h rfl
    obtain ⟨t', hup, hlast, hproduct, hI⟩ := getUpTime_board (b := b) hfound hbuf hline
    have hquiet : ∀ op ∈ [askUpTime], op.motion = none := by simp [askUpTime, TicOp.motion]
    rw [connect, streamBT_connect haddr]
    simp only [Bool.true_eq_false, if_false, callHandshake, hup, Option.map_some, hlast, true_and]
    by_cases hpos : 0 < b.upTime
    · have hdec : decide (c.requiredBtMacAddress ≠ "" ∧ 0 < b.upTime) = true := decide_eq_true ⟨haddr, hpos⟩
      rw [hdec, decide_eq_true hpos]
      exact ⟨_, [askUpTime], rfl, rfl, hproduct, hquiet, hI⟩
    · have hdec : decide (c.requiredBtMacAddress ≠ "" ∧ 0 < b.upTime) = false := decide_eq_false fun hc => hpos hc.2
      rw [hdec, decide_eq_false hpos]
      refine ⟨_, [askUpTime], rfl, rfl, hproduct, hquiet, ?_⟩
      -- the stream is closed again, which leaves the Tic
      exact onLine_of_tic hI (disconnect_tic t'.io.1 t'.io.2)

end BluetoothConnection

/-! ## Sessions are runs of the system -/

namespace BluetoothDriver
variable {b : Board} {found : Nat → Nat} {u : TiclibInterface (StreamBT × SerialTic) → Uninit}

/-- What an event of the session is to the system. -/
def label (b : Board) (d : BluetoothDriver SerialTic) : SessionEvent → List SystemEvent
  | .connect _ =>
    if d.focuser.connected then [] else [.connected (decide (d.setting.required ≠ "" ∧ 0 < b.upTime))]
  | .disconnect => if d.focuser.connected then [.disconnected] else []
  | .request r => if d.focuser.connected then (Deployment.event r).map .event else []

/-- The driver of the system, and a board that was asked for operations which leave its
    controller. -/
def Stands (b : Board) (d : BluetoothDriver SerialTic) (w : World) : Prop :=
  ∃ ops, Deployment.Stands b OnLine d.interface ops ∧ w = Deployment.system b (d.focuser, ops)

/-- What an event of the session comes to. -/
def Matched (b : Board) (found : Nat → Nat) (u : TiclibInterface (StreamBT × SerialTic) → Uninit)
    (d : BluetoothDriver SerialTic) (w : World) (e : SessionEvent) : Prop :=
  ∃ ds, ds.filter SystemEvent.visible = label b d e ∧
    Run.outputs World.sessionStep World.sessionAnswers w ds = answers (serialTic b.firmware found) u d e ∧
    Stands b (d.step (serialTic b.firmware found) u e) (ds.foldl World.sessionStep w)

theorem foldl_event (w : World) (es : List Event) :
    (es.map SystemEvent.event).foldl World.sessionStep w = es.foldl World.step w := List.foldl_map

theorem filter_event (es : List Event) :
    (es.map SystemEvent.event).filter SystemEvent.visible = (es.filter Deployment.visible).map .event := List.filter_map

theorem outputs_event (w : World) (es : List Event) :
    Run.outputs World.sessionStep World.sessionAnswers w (es.map .event) =
      Run.outputs World.step Deployment.systemAnswers w es := by
  induction es generalizing w with
  | nil => rfl
  | cons e es ih =>
    rw [List.map_cons, Run.outputs, Run.outputs, ih]
    rfl

/-- The motor goes on. -/
def idle (b : Board) (k n : Nat) : List SystemEvent := (b.idle k n).map .event

theorem filter_idle (k n : Nat) : (idle b k n).filter SystemEvent.visible = [] := by
  rw [idle, filter_event, Deployment.filter_idle]
  rfl

theorem outputs_idle (k n : Nat) (w : World) :
    Run.outputs World.sessionStep World.sessionAnswers w (idle b k n) = [] := by
  rw [idle, outputs_event, Deployment.outputs_idle]

theorem idle_run (f : TicFocuser) (ops quiet : List TicOp) (h : ∀ op ∈ quiet, op.motion = none) :
    (idle b ops.length quiet.length).foldl World.sessionStep (Deployment.system b (f, ops)) =
      Deployment.system b (f, ops ++ quiet) := by
  rw [idle, foldl_event, Deployment.system_idle f ops quiet h]

/-- What shows is one event of the system, the motor going on around it. -/
theorem Matched.shown {d : BluetoothDriver SerialTic} {w : World} {e : SessionEvent} {x : SystemEvent}
    (k n k' n' : Nat) (hlabel : label b d e = [x]) (hvis : x.visible = true) (hout : ∀ w, World.sessionAnswers w x = [])
    (hans : answers (serialTic b.firmware found) u d e = [])
    (hstep : Stands b (d.step (serialTic b.firmware found) u e)
      ((idle b k' n').foldl World.sessionStep (World.sessionStep ((idle b k n).foldl World.sessionStep w) x))) :
    Matched b found u d w e := by
  refine ⟨idle b k n ++ x :: idle b k' n', ?_, ?_, ?_⟩
  · rw [List.filter_append, filter_idle, List.filter_cons_of_pos hvis, filter_idle, hlabel]
    rfl
  · rw [Run.outputs_append, outputs_idle, Run.outputs, outputs_idle, hout, hans]
    rfl
  · rw [List.foldl_append, List.foldl_cons]
    exact hstep

/-- Nothing happens. -/
theorem Matched.ignored {d : BluetoothDriver SerialTic} {w : World} {e : SessionEvent} (hlabel : label b d e = [])
    (hans : answers (serialTic b.firmware found) u d e = [])
    (hsame : d.step (serialTic b.firmware found) u e = d) (h : Stands b d w) : Matched b found u d w e := by
  refine ⟨[], hlabel.symm, hans.symm, ?_⟩
  rw [hsame]
  exact h

variable {d : BluetoothDriver SerialTic} {w : World}

theorem matched_connect (hfound : ∀ k, 0 < found k) (h : Stands b d w) (buffer : Nat → UInt8) :
    Matched b found u d w (.connect buffer) := by
  cases hconn : d.focuser.connected with
  | true => exact .ignored (if_pos hconn) rfl (if_pos hconn) h
  | false =>
    obtain ⟨ops, ⟨i, hi, hline, hproduct⟩, rfl⟩ := h
    obtain ⟨c', quiet, hplugin, -, hsame, hquiet, hline'⟩ :=
      BluetoothConnection.connect_board (b := b) hfound (show ((List.range 4).map buffer).length = 4 from rfl)
        (c := d.plugin i) hline
    have hstands : Deployment.Stands b OnLine (some { i with ticBase := c'.ticSerial }) (ops ++ quiet) :=
      ⟨_, rfl, hline', hsame.trans hproduct⟩
    have hnot : ¬ d.focuser.connected = true := by rw [hconn]; exact Bool.false_ne_true
    have hlabel : label b d (.connect buffer) = [.connected (decide (d.setting.required ≠ "" ∧ 0 < b.upTime))] :=
      if_neg hnot
    have hrequired : (d.plugin i).requiredBtMacAddress = d.setting.required := rfl
    rw [hrequired] at hplugin
    generalize decide (d.setting.required ≠ "" ∧ 0 < b.upTime) = res at hplugin hlabel
    have hstep : d.step (serialTic b.firmware found) u (.connect buffer) =
        { focuser := { d.focuser with connected := res }
          setting := c'.setting
          interface := (TicFocuser.connect (driver (serialTic b.firmware found) u) res
            (some { i with ticBase := c'.ticSerial })).2 } := by
      rw [step, if_neg hnot, connect, hi]
      simp only [hplugin]
    cases res with
    | false =>
      apply Matched.shown ops.length quiet.length 0 0 hlabel rfl (fun _ => rfl) rfl
      rw [hstep, idle_run _ ops quiet hquiet]
      exact ⟨_, hstands, rfl⟩
    | true =>
      apply Matched.shown ops.length quiet.length (ops ++ quiet).length 2 hlabel rfl (fun _ => rfl) rfl
      have henergized := ((Deployment.driver_related (u := u) (serial_serves b.firmware hfound)).serve hstands
        d.focuser .energize).2.2
      rw [hstep, idle_run _ ops quiet hquiet]
      refine ⟨_, henergized, ?_⟩
      have hidle := idle_run (b := b) { d.focuser with connected := true } (ops ++ quiet)
        [Command.energize.op, Command.exitSafeStart.op] (by decide)
      rw [List.append_cons (ops ++ quiet)] at hidle
      exact hidle

/-- Parking, if it is on: nothing is sent, or one target, the motor going on before. -/
theorem parked (hfound : ∀ k, 0 < found k) {o : Option (TiclibInterface (StreamBT × SerialTic))} {ops : List TicOp}
    (h : Deployment.Stands b OnLine o ops) (f : TicFocuser) :
    ∃ n ops', Deployment.Stands b OnLine (f.disconnect (driver (serialTic b.firmware found) u) o).2 ops' ∧
      ((b.idle ops.length n).foldl World.step (Deployment.system b (f, ops))).disconnect =
        Deployment.system b ((f.disconnect (driver (serialTic b.firmware found) u) o).1, ops') := by
  have hrel := Deployment.driver_related (u := u) (serial_serves b.firmware hfound)
  by_cases hpark : f.focusParkingModeSP = true
  · obtain ⟨n, ops', w, hidle, hf, hmove, hctl⟩ := Deployment.sent (b := b) f ops 0
    obtain ⟨-, hturn, hstands⟩ := hrel.moveAbsFocuser h 0 f
    rw [hmove] at hturn hstands
    have hdisc : f.disconnect (driver (serialTic b.firmware found) u) o =
        (f.moveAbsFocuser (driver (serialTic b.firmware found) u) 0 o).2 := if_pos hpark
    refine ⟨n, ops', ?_, ?_⟩
    · rw [hdisc]
      exact hstands
    · have hworld : w.disconnect = ⟨w.focuser.turn 0, w.afterRequest 0 true⟩ := by
        have hpark' : w.focuser.focusParkingModeSP = true := by rw [hf]; exact hpark
        rw [World.disconnect, TicFocuser.disconnect, if_pos hpark', TicFocuser.moveAbsFocuser_eq]
        rfl
      rw [hidle, hworld, hctl, hf, hdisc]
      exact congrArg (fun f' => World.mk f' (b.after ops')) hturn.symm
  · have hdisc : f.disconnect (driver (serialTic b.firmware found) u) o = (f, o) := if_neg hpark
    refine ⟨0, ops, ?_, ?_⟩
    · rw [hdisc]
      exact h
    · have hworld : (Deployment.system b (f, ops)).focuser.disconnect (Controller.interface true) (b.after ops) =
          (f, b.after ops) := if_neg hpark
      rw [hdisc]
      show (Deployment.system b (f, ops)).disconnect = _
      rw [World.disconnect]
      exact congrArg (fun s => World.mk s.1 s.2) hworld

theorem matched_disconnect (hfound : ∀ k, 0 < found k) (h : Stands b d w) : Matched b found u d w .disconnect := by
  cases hconn : d.focuser.connected with
  | false =>
    have hnot : ¬ d.focuser.connected = true := by rw [hconn]; exact Bool.false_ne_true
    exact .ignored (if_neg hnot) rfl (if_neg hnot) h
  | true =>
    obtain ⟨ops, hstands, rfl⟩ := h
    obtain ⟨n, ops', ⟨i, hi, hline, hproduct⟩, hworld⟩ := parked (u := u) hfound hstands d.focuser
    have hlabel : label b d .disconnect = [.disconnected] := if_pos hconn
    apply Matched.shown ops.length n 0 0 hlabel rfl (fun _ => rfl) rfl
    have hstep : d.step (serialTic b.firmware found) u .disconnect = d.disconnect (serialTic b.firmware found) u :=
      if_pos hconn
    rw [hstep, disconnect, idle, foldl_event]
    simp only [hi]
    refine ⟨ops', ⟨_, rfl, onLine_of_tic hline (BluetoothConnection.disconnect_tic _ _), hproduct⟩, ?_⟩
    show World.sessionStep _ .disconnected = _
    rw [World.sessionStep, hworld]
    rfl

theorem matched_request (hfound : ∀ k, 0 < found k) (h : Stands b d w) (r : Request) :
    Matched b found u d w (.request r) := by
  cases hconn : d.focuser.connected with
  | false =>
    have hnot : ¬ d.focuser.connected = true := by rw [hconn]; exact Bool.false_ne_true
    exact .ignored (if_neg hnot) (if_neg hnot) (if_neg hnot) h
  | true =>
    obtain ⟨ops, hstands, rfl⟩ := h
    obtain ⟨hret, hf, hstands'⟩ :=
      (Deployment.driver_related (u := u) (serial_serves b.firmware hfound)).serve hstands d.focuser r
    obtain ⟨es, hshown, houts, hrun⟩ := Deployment.matched (b := b) (d.focuser, ops) r
    refine ⟨es.map .event, ?_, ?_, ?_⟩
    · rw [filter_event, hshown, label, if_pos hconn]
    · rw [outputs_event, houts, answers, if_pos hconn]
      exact congrArg Option.toList hret.symm
    · rw [foldl_event, hrun, step, if_pos hconn]
      refine ⟨_, hstands', ?_⟩
      exact congrArg (fun f => World.mk f (b.after _)) hf.symm

/-- **Sessions follow the system**, whatever the motor does in between: for any
    connects, requests and disconnects there is one run of the system with the same
    requests and answers, in which every attempt to connect has the same outcome and
    every disconnect parks the focuser in the same way. -/
theorem sessions_follow_system (b : Board) (found : Nat → Nat) (hfound : ∀ k, 0 < found k)
    (u : TiclibInterface (StreamBT × SerialTic) → Uninit) (d : BluetoothDriver SerialTic)
    (hstart : Deployment.Stands b OnLine d.interface []) (evs : List SessionEvent) :
    ∃ ds, ds.filter SystemEvent.visible = Run.outputs (step (serialTic b.firmware found) u) (label b) d evs ∧
      Run.outputs World.sessionStep World.sessionAnswers ⟨d.focuser, b.controller⟩ ds =
        Run.outputs (step (serialTic b.firmware found) u) (answers (serialTic b.firmware found) u) d evs ∧
      Stands b (evs.foldl (step (serialTic b.firmware found) u) d)
        (ds.foldl World.sessionStep ⟨d.focuser, b.controller⟩) := by
  have hsimulates : Run.Simulates (step (serialTic b.firmware found) u) (answers (serialTic b.firmware found) u)
      World.sessionStep World.sessionAnswers SystemEvent.visible (label b) (Stands b) := by
    intro d w e h
    cases e with
    | connect buffer => exact matched_connect hfound h buffer
    | disconnect => exact matched_disconnect hfound h
    | request r => exact matched_request hfound h r
  have hstands : Stands b d ⟨d.focuser, b.controller⟩ := ⟨[], hstart, rfl⟩
  exact hsimulates.run hstands evs

/-- At rest at 0, and up. -/
def upAtZero : Board := { Board.atZero with registers := fun _ => 1 }

def unconnected : BluetoothDriver SerialTic where
  focuser := { World.atZero.focuser with connected := false }
  setting := ⟨"00:11:22:33:44:55", ⟨"00:11:22:33:44:55", .idle⟩⟩
  interface := some (Deployment.overBluetooth upAtZero {})

/-- A move and a poll between two connections. -/
def twice : List SessionEvent :=
  [.connect fun _ => 0xAA, .request (.moveAbs 100), .request .poll, .disconnect, .request (.moveAbs 50),
    .connect fun _ => 0x55]

theorem sessions_follow_system_twice :
    (∀ k : Nat, 0 < (fun _ : Nat => 1) k) ∧ Deployment.Stands upAtZero OnLine unconnected.interface [] ∧
      ∃ ds, ds.filter SystemEvent.visible =
          [.connected true, .event (.moveAbs 100 true), .event (.poll true), .disconnected, .connected true] ∧
        Run.outputs World.sessionStep World.sessionAnswers ⟨unconnected.focuser, upAtZero.controller⟩ ds = [.busy] := by
  have hfound : ∀ k : Nat, 0 < (fun _ : Nat => 1) k := fun _ => Nat.one_pos
  have hstart : Deployment.Stands upAtZero OnLine unconnected.interface [] :=
    ⟨_, rfl, Deployment.onLine_overBluetooth upAtZero {}, rfl⟩
  obtain ⟨ds, hshown, houts, -⟩ := sessions_follow_system upAtZero (fun _ => 1) hfound (fun _ _ _ => 0xAA) unconnected
    hstart twice
  exact ⟨hfound, hstart, ds, hshown.trans rfl, houts.trans rfl⟩

end BluetoothDriver

end TicFocuserNG
