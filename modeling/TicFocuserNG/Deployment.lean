import TicFocuserNG.Lib.Simulation
import TicFocuserNG.Board
import TicFocuserNG.Requests

/- The driver over a whole stack: `TicFocuser` on `TiclibInterface` on a transport,
   with a board at its other end.

     1. `driver_related`: over a transport that serves its firmware, the interface
        answers as the operations it asks the board for do.
     2. `simulates`: these operations are a run of the system, the controller moving
        on in between.
     3. `stacks_follow_system`: so one run of the system explains both stacks. -/
namespace TicFocuserNG

open TiclibInterface (Command)

/-! ## The driver on a transport -/

namespace TiclibInterface
variable {τ : Type} (T : TicBase τ)

def called (c : Command) : Option (TiclibInterface τ) → Bool × Option (TiclibInterface τ)
  | none => (false, none)
  | some i => ((i.command T c).1, some (i.command T c).2)

/-- `none` once a call does not return. The variables of a getter hold `u i`
    before, in the state `i`. -/
def driver (u : TiclibInterface τ → Uninit) : TicDriverInterface (Option (TiclibInterface τ)) where
  energize := called T .energize
  deenergize := called T .deenergize
  exitSafeStart := called T .exitSafeStart
  haltAndHold := called T .haltAndHold
  setTargetPosition p := called T (.setTargetPosition p)
  haltAndSetPosition p := called T (.haltAndSetPosition p)
  getVariables
    | none => (none, none)
    | some i =>
      match i.getVariables T (u i) with
      | none => (none, none)
      | some (vars, i) => (vars, some i)

end TiclibInterface

namespace Deployment

/-! ## The operations a board is asked for -/

/-- The interface that the operations themselves are the state of: each succeeds,
    and a poll delivers what the registers hold. -/
def firmwareInterface (b : Board) : TicDriverInterface (List TicOp) where
  energize ops := (true, ops ++ [Command.energize.op])
  deenergize ops := (true, ops ++ [Command.deenergize.op])
  exitSafeStart ops := (true, ops ++ [Command.exitSafeStart.op])
  haltAndHold ops := (true, ops ++ [Command.haltAndHold.op])
  setTargetPosition p ops := (true, ops ++ [(Command.setTargetPosition p).op])
  haltAndSetPosition p ops := (true, ops ++ [(Command.haltAndSetPosition p).op])
  getVariables ops := (some (b.firmware.variables b.product ops), ops ++ registerReads)

/-- The interface of a board that was asked for `ops`. -/
def Stands {τ : Type} (b : Board) (I : List TicOp → Tic τ → Prop) (o : Option (TiclibInterface τ)) (ops : List TicOp) :
    Prop :=
  ∃ i, o = some i ∧ I ops i.ticBase ∧ i.ticBase.product = b.product

section
variable {τ : Type} {T : TicBase τ} {u : TiclibInterface τ → Uninit} {b : Board} {I : List TicOp → Tic τ → Prop}

theorem called_stands (hT : Serves b.firmware T I) (c : Command) {o : Option (TiclibInterface τ)} {ops : List TicOp}
    (h : Stands b I o ops) :
    (TiclibInterface.called T c o).1 = true ∧ Stands b I (TiclibInterface.called T c o).2 (ops ++ [c.op]) := by
  obtain ⟨i, rfl, hI, hproduct⟩ := h
  obtain ⟨hok, hsame, hI'⟩ := hT.command c hI
  have hres : i.command T c = (true, ⟨c.base T i.ticBase, "OK"⟩) := by
    rw [TiclibInterface.command_eq, TiclibInterface.report, hok]
    rfl
  rw [TiclibInterface.called, hres]
  exact ⟨rfl, _, rfl, hI', hsame.trans hproduct⟩

/-- **The stack is the board.** Over a transport that serves its firmware, the
    interface answers as the operations it asks the board for do. -/
theorem driver_related (hT : Serves b.firmware T I) :
    (TiclibInterface.driver T u).Related (firmwareInterface b) (Stands b I) where
  energize := called_stands hT .energize
  deenergize := called_stands hT .deenergize
  exitSafeStart := called_stands hT .exitSafeStart
  haltAndHold := called_stands hT .haltAndHold
  setTargetPosition p := called_stands hT (.setTargetPosition p)
  haltAndSetPosition p := called_stands hT (.haltAndSetPosition p)
  getVariables := by
    intro o ops h
    obtain ⟨i, rfl, hI, hproduct⟩ := h
    obtain ⟨i', hget, hsame, hI'⟩ := hT.getVariables hI (u i)
    rw [hproduct] at hget
    simp only [TiclibInterface.driver, hget]
    exact ⟨rfl, i', rfl, hI', hsame.trans hproduct⟩

end

/-! ## The operations as a run of the system -/

/-- A motion of the controller is not seen. -/
def visible : Event → Bool
  | .advance _ => false
  | _ => true

def event (r : Request) : List Event := r.event.toList

def systemAnswers (w : World) (e : Event) : List IPState := (w.respond e).1.toList

/-- The driver, and the controller of the board after the operations. -/
def system (b : Board) (s : TicFocuser × List TicOp) : World := ⟨s.1, b.after s.2⟩

theorem perform_setTargetPosition (c : Controller) (p : Int32) :
    c.perform (Command.setTargetPosition p).op = c.accept (.setTargetPosition p) := by
  rw [Controller.perform, motion_setTargetPosition]

theorem perform_haltAndSetPosition (c : Controller) (p : Int32) :
    c.perform (Command.haltAndSetPosition p).op = c.accept (.haltAndSetPosition p) := by
  rw [Controller.perform, motion_haltAndSetPosition]

/-- The answer is that of the system, with the outcome the interface has for the
    target; it is asked where the target is neither out of range nor the position. -/
theorem moveAbsFocuser_outcome {σ : Type} (drv : TicDriverInterface σ) (t : UInt32) (f : TicFocuser) (c : σ) :
    f.moveAbsFocuser drv t c = (f.answer t (drv.setTargetPosition (f.compensate t).1.toInt32 c).1, f.turn t,
      if f.answer t true = .busy then (drv.setTargetPosition (f.compensate t).1.toInt32 c).2 else c) := by
  by_cases hhere : (t.toNat : Int) = f.focusAbsPosNP.value
  · simp [TicFocuser.moveAbsFocuser_here drv c hhere, TicFocuser.answer_here hhere, TicFocuser.turn,
      TicFocuser.compensate_here hhere]
  · rcases TicFocuser.moveAbsFocuser_cases drv c hhere with ⟨hr, heq⟩ | ⟨hr, heq⟩
    · have hans : ∀ ok, f.answer t ok = .alert := by
        intro ok
        rw [TicFocuser.answer, if_neg hhere, if_neg (by omega)]
      simp [heq, hans, TicFocuser.turn]
    · have hans : ∀ ok, f.answer t ok = if ok then .busy else .alert := by
        intro ok
        cases ok <;> simp [TicFocuser.answer, hhere, hr]
      simp [heq, hans, TicFocuser.turn]

theorem moveAbsFocuser_accepted {σ : Type} (drv : TicDriverInterface σ) {t : UInt32} {f : TicFocuser} {c c' : σ}
    (h : drv.setTargetPosition (f.compensate t).1.toInt32 c = (true, c')) :
    f.moveAbsFocuser drv t c = (f.answer t true, f.turn t, if f.answer t true = .busy then c' else c) := by
  rw [moveAbsFocuser_outcome, h]

variable (b : Board)

theorem filter_idle (k n : Nat) : (b.idle k n).filter visible = [] := by
  induction n generalizing k with
  | zero => rfl
  | succ n ih => rw [Board.idle, List.filter_cons_of_neg (by simp [visible]), ih]

theorem outputs_idle (k n : Nat) (w : World) : Run.outputs World.step systemAnswers w (b.idle k n) = [] := by
  induction n generalizing k w with
  | zero => rfl
  | succ n ih =>
    rw [Board.idle, Run.outputs, ih]
    rfl

/-- What a request comes to: what it stands for, with the motor going on. -/
def Matched (s : TicFocuser × List TicOp) (r : Request) : Prop :=
  ∃ es, es.filter visible = event r ∧
    Run.outputs World.step systemAnswers (system b s) es = answers (firmwareInterface b) s r ∧
    es.foldl World.step (system b s) = system b (step (firmwareInterface b) s r)

variable {b}

/-- A request that is the event `e`, with the operations `before` it and `after` it
    that do not command the motor. -/
theorem Matched.event {s : TicFocuser × List TicOp} {r : Request} {e : Event} (k n k' n' : Nat) {w w' : World}
    (hr : r.event = some e) (hvis : visible e = true) (hbefore : (b.idle k n).foldl World.step (system b s) = w)
    (hafter : (b.idle k' n').foldl World.step (w.step e) = w')
    (hout : systemAnswers w e = answers (firmwareInterface b) s r)
    (hstep : w' = system b (step (firmwareInterface b) s r)) : Matched b s r := by
  refine ⟨b.idle k n ++ e :: b.idle k' n', ?_, ?_, ?_⟩
  · rw [List.filter_append, filter_idle, List.filter_cons_of_pos hvis, filter_idle, Deployment.event, hr]
    rfl
  · rw [Run.outputs_append, outputs_idle, hbefore, Run.outputs, outputs_idle, hout, List.nil_append, List.append_nil]
  · rw [List.foldl_append, hbefore, List.foldl_cons, hafter, hstep]

/-- A request that does not concern the motor. -/
theorem Matched.quiet {s : TicFocuser × List TicOp} {r : Request} {k n : Nat} (hr : r.event = none)
    (hout : answers (firmwareInterface b) s r = [])
    (hstep : (b.idle k n).foldl World.step (system b s) = system b (step (firmwareInterface b) s r)) :
    Matched b s r := by
  refine ⟨b.idle k n, ?_, ?_, hstep⟩
  · rw [filter_idle, Deployment.event, hr]
    rfl
  · rw [outputs_idle, hout]

/-- A command to the motor, which goes on before it. -/
theorem system_command (f : TicFocuser) (ops : List TicOp) (op : TicOp) :
    (b.idle ops.length 1).foldl World.step (system b (f, ops)) = ⟨f, b.now ops⟩ ∧
      b.after (ops ++ [op]) = (b.now ops).perform op :=
  ⟨rfl, b.after_snoc ops op⟩

theorem system_idle (f : TicFocuser) (ops quiet : List TicOp) (h : ∀ op ∈ quiet, op.motion = none) :
    (b.idle ops.length quiet.length).foldl World.step (system b (f, ops)) = system b (f, ops ++ quiet) :=
  b.idle_run f ops quiet h

/-- A request for `t` that sends a target, the motor going on before. -/
theorem sent_busy {f : TicFocuser} {t : UInt32} (h : f.answer t true = .busy) (ops : List TicOp) :
    f.moveAbsFocuser (firmwareInterface b) t ops =
        (.busy, f.turn t, ops ++ [(Command.setTargetPosition (f.compensate t).1.toInt32).op]) ∧
      (World.mk f (b.now ops)).afterRequest t true =
        b.after (ops ++ [(Command.setTargetPosition (f.compensate t).1.toInt32).op]) := by
  have hmove := moveAbsFocuser_accepted (firmwareInterface b) (t := t) (f := f) (c := ops) rfl
  rw [h, if_pos rfl] at hmove
  refine ⟨hmove, ?_⟩
  rw [World.afterRequest, if_pos h, b.after_snoc, perform_setTargetPosition]

/-- A request for `t`: nothing is sent, or one target, the motor going on before. -/
theorem sent (f : TicFocuser) (ops : List TicOp) (t : UInt32) :
    ∃ n ops' w, (b.idle ops.length n).foldl World.step (system b (f, ops)) = w ∧ w.focuser = f ∧
      f.moveAbsFocuser (firmwareInterface b) t ops = (f.answer t true, f.turn t, ops') ∧
      w.afterRequest t true = b.after ops' := by
  by_cases hbusy : f.answer t true = .busy
  · obtain ⟨hmove, hctl⟩ := sent_busy (b := b) hbusy ops
    exact ⟨1, _, ⟨f, b.now ops⟩, rfl, rfl, by rw [hmove, hbusy], hctl⟩
  · have hmove := moveAbsFocuser_accepted (firmwareInterface b) (t := t) (f := f) (c := ops) rfl
    rw [if_neg hbusy] at hmove
    refine ⟨0, ops, ⟨f, b.after ops⟩, rfl, rfl, hmove, ?_⟩
    rw [World.afterRequest, if_neg hbusy]

/-- A poll: two registers are read, the driver takes what the controller reports then,
    and the other registers are read. -/
theorem poll_run {f : TicFocuser} (hconn : f.connected = true) (ops : List TicOp) :
    (b.idle ops.length 2).foldl World.step (system b (f, ops)) = system b (f, ops ++ registerReads.take 2) ∧
      World.step (system b (f, ops ++ registerReads.take 2)) (.poll true) =
        system b (f.received (b.after (ops ++ registerReads.take 2)).report, ops ++ registerReads.take 2) ∧
      (b.idle (ops.length + 2) 6).foldl World.step
          (system b (f.received (b.after (ops ++ registerReads.take 2)).report, ops ++ registerReads.take 2)) =
        system b (step (firmwareInterface b) (f, ops) .poll) := by
  have hrest := system_idle (b := b) (f.received (b.after (ops ++ registerReads.take 2)).report)
    (ops ++ registerReads.take 2) (registerReads.drop 2) (by decide)
  rw [List.append_assoc, List.take_append_drop, List.length_append] at hrest
  refine ⟨system_idle f ops (registerReads.take 2) (by decide), ?_, ?_⟩
  · rw [World.step, World.respond_poll]
    simp only [system, hconn, if_true]
  · rw [step, TicFocuser.serve, TicFocuser.timerHit, if_pos hconn, firmwareInterface]
    simp only [b.variables_eq]
    exact hrest

theorem matched (s : TicFocuser × List TicOp) (r : Request) : Matched b s r := by
  obtain ⟨f, ops⟩ := s
  cases r with
  | moveAbs t =>
    obtain ⟨n, ops', w, hidle, hf, hmove, hctl⟩ := sent (b := b) f ops t
    apply Matched.event _ _ 0 0 rfl rfl hidle rfl
    · rw [systemAnswers, World.respond_moveAbs, hf, answers, TicFocuser.serve, hmove]
    · rw [World.step, World.respond_moveAbs, hf, hctl, step, TicFocuser.serve, hmove]
      rfl
  | moveRel dir t =>
    obtain ⟨n, ops', w, hidle, hf, hmove, hctl⟩ := sent (b := b) f ops (f.targetTicks dir t)
    apply Matched.event _ _ 0 0 rfl rfl hidle rfl
    · rw [systemAnswers, World.respond_moveRel, hf, answers, TicFocuser.serve, TicFocuser.moveRelFocuser, hmove]
    · rw [World.step, World.respond_moveRel, hf, hctl, step, TicFocuser.serve, TicFocuser.moveRelFocuser, hmove]
      rfl
  | abort =>
    obtain ⟨hidle, hafter⟩ := system_command (b := b) f ops Command.haltAndHold.op
    apply Matched.event _ _ 0 0 rfl rfl hidle rfl rfl
    show World.mk _ _ = World.mk _ (b.after (ops ++ [Command.haltAndHold.op]))
    rw [hafter]
    rfl
  | sync t =>
    obtain ⟨hidle, hafter⟩ := system_command (b := b) f ops (Command.haltAndSetPosition t.toInt32).op
    rw [perform_haltAndSetPosition] at hafter
    apply Matched.event _ _ 0 0 rfl rfl hidle rfl rfl
    show World.mk _ _ = World.mk _ (b.after (ops ++ [(Command.haltAndSetPosition t.toInt32).op]))
    rw [hafter]
    rfl
  | poll =>
    by_cases hconn : f.connected = true
    · obtain ⟨hbefore, hpoll, hrest⟩ := poll_run (b := b) hconn ops
      apply Matched.event _ _ _ _ rfl rfl hbefore (hpoll ▸ hrest)
      · rw [systemAnswers, World.respond_poll, answers, TicFocuser.serve]
      · rfl
    · have hpoll : World.step (system b (f, ops)) (.poll true) = system b (f, ops) := by
        rw [World.step, World.respond_poll]
        simp only [system, hconn]
        rfl
      have hserve : step (firmwareInterface b) (f, ops) .poll = (f, ops) := by
        rw [step, TicFocuser.serve, TicFocuser.timerHit, if_neg hconn]
      apply Matched.event 0 0 0 0 rfl rfl rfl hpoll
      · rw [systemAnswers, World.respond_poll, answers, TicFocuser.serve]
      · rw [hserve]
  | setBacklash enabled steps => exact Matched.event 0 0 0 0 rfl rfl rfl rfl rfl rfl
  | energize =>
    have hidle := system_idle (b := b) f ops [Command.energize.op, Command.exitSafeStart.op] (by decide)
    apply Matched.quiet rfl rfl
    show _ = system b (f, ops ++ [Command.energize.op] ++ [Command.exitSafeStart.op])
    rw [List.append_assoc]
    exact hidle
  | deenergize =>
    apply Matched.quiet rfl rfl
    exact system_idle (b := b) f ops [Command.deenergize.op] (by decide)

/-- The system follows the operations, its controller moving in between. -/
theorem simulates (b : Board) :
    Run.Simulates (step (firmwareInterface b)) (answers (firmwareInterface b)) World.step systemAnswers visible
      (fun _ => event) (fun s w => w = system b s) := by
  intro s w r h
  subst h
  exact matched s r

/-! ## The two stacks -/

/-- A run of the driver on a transport, followed by the system over `es`: the same
    requests and answers, the same driver, and a board that was asked for operations
    which leave the controller of the system. -/
structure Followed {τ : Type} (b : Board) (I : List TicOp → Tic τ → Prop)
    (drv : TicDriverInterface (Option (TiclibInterface τ))) (f : TicFocuser) (i : TiclibInterface τ)
    (rs : List Request) (es : List Event) : Prop where
  requests : es.filter visible = rs.flatMap event
  answers : Run.outputs (step drv) (answers drv) (f, some i) rs =
    Run.outputs World.step systemAnswers ⟨f, b.controller⟩ es
  driver : (rs.foldl (step drv) (f, some i)).1 = (es.foldl World.step ⟨f, b.controller⟩).focuser
  board : ∃ ops, Stands b I (rs.foldl (step drv) (f, some i)).2 ops ∧
    (es.foldl World.step ⟨f, b.controller⟩).controller = b.after ops

theorem Followed.of_serves {τ : Type} {b : Board} {T : TicBase τ} {I : List TicOp → Tic τ → Prop}
    (hT : Serves b.firmware T I) (u : TiclibInterface τ → Uninit) (f : TicFocuser) {i : TiclibInterface τ}
    (hI : I [] i.ticBase) (hproduct : i.ticBase.product = b.product) {rs : List Request} {es : List Event}
    (hreq : es.filter visible = rs.flatMap event)
    (hans : Run.outputs World.step systemAnswers ⟨f, b.controller⟩ es =
      Run.outputs (step (firmwareInterface b)) (Deployment.answers (firmwareInterface b)) (f, []) rs)
    (hsys : es.foldl World.step ⟨f, b.controller⟩ = system b (rs.foldl (step (firmwareInterface b)) (f, []))) :
    Followed b I (TiclibInterface.driver T u) f i rs es := by
  have hstands : Stands b I (some i) [] := ⟨i, rfl, hI, hproduct⟩
  obtain ⟨houts, hf, hR⟩ := run_related (driver_related (u := u) hT) f hstands rs
  refine ⟨hreq, houts.trans hans.symm, ?_, _, hR, ?_⟩
  · rw [hf, hsys]
    rfl
  · rw [hsys]
    rfl

def overUsb (b : Board) (handle : Option Nat) : TiclibInterface (TicUsb (List TicOp)) :=
  ⟨{ product := b.product, io := { handle, usb := [] } }, ""⟩

def overBluetooth (b : Board) (bt : StreamBT) : TiclibInterface (StreamBT × SerialTic) :=
  ⟨{ product := b.product, io := (bt, {}) }, ""⟩

theorem onBus_overUsb (b : Board) (handle : Option Nat) : OnBus [] (overUsb b handle).ticBase := rfl

theorem onLine_overBluetooth (b : Board) (bt : StreamBT) : OnLine [] (overBluetooth b bt).ticBase :=
  ⟨rfl, ⟨[], rfl, .nil⟩, rfl⟩

/-- **The whole stack refines the system.** Any requests, over either transport,
    whatever the motor does between two operations and however the replies are split
    into reads: there is one run of the system, with the same requests and motions of
    the controller in between, that both stacks follow. -/
theorem stacks_follow_system (b : Board) (found : Nat → Nat) (hfound : ∀ k, 0 < found k) (handle : Option Nat)
    (bt : StreamBT) (u : TiclibInterface (TicUsb (List TicOp)) → Uninit)
    (u' : TiclibInterface (StreamBT × SerialTic) → Uninit) (f : TicFocuser) (rs : List Request) :
    ∃ es, Followed b OnBus (TiclibInterface.driver (TicUsb.base (usbTic b.firmware)) u) f (overUsb b handle) rs es ∧
      Followed b OnLine
        (TiclibInterface.driver (TicSerial.base (StreamBT.stream (serialTic b.firmware found)) 255) u') f
        (overBluetooth b bt) rs es := by
  have hstart : World.mk f b.controller = system b (f, []) := rfl
  obtain ⟨es, hreq, hans, hsys⟩ := (simulates b).run hstart rs
  rw [Run.outputs_const] at hreq
  refine ⟨es, ?_, ?_⟩
  · exact .of_serves (usb_serves b.firmware) u f (onBus_overUsb b handle) rfl hreq hans hsys
  · exact .of_serves (serial_serves b.firmware hfound) u' f (onLine_overBluetooth b bt) rfl hreq hans hsys

/-- Energized, sent to 100, and polled on the way and again; one byte a read. -/
theorem stacks_follow_system_to100 :
    (∀ k : Nat, 0 < (fun _ : Nat => 1) k) ∧
      ∃ es, Followed Board.atZero OnBus (TiclibInterface.driver (TicUsb.base (usbTic Board.atZero.firmware))
          (fun _ _ _ => 0xAA)) World.atZero.focuser (overUsb Board.atZero (some 1))
          [.energize, .moveAbs 100, .poll, .poll] es ∧
        Followed Board.atZero OnLine (TiclibInterface.driver
          (TicSerial.base (StreamBT.stream (serialTic Board.atZero.firmware (fun _ => 1))) 255) (fun _ _ _ => 0x55))
          World.atZero.focuser (overBluetooth Board.atZero {}) [.energize, .moveAbs 100, .poll, .poll] es := by
  have hfound : ∀ k : Nat, 0 < (fun _ : Nat => 1) k := fun _ => Nat.one_pos
  exact ⟨hfound, stacks_follow_system _ _ hfound _ _ _ _ _ _⟩

end Deployment

end TicFocuserNG
