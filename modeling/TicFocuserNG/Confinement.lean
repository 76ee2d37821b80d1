import TicFocuserNG.Deployment
import TicFocuserNG.OutOfRange

/- The motor stays within the limits.

     1. `confined_iff`: in every run of the system, the motor is where the limits
        allow, and bound for such a place, exactly when every sync that is accepted
        sets a position within them. No move leads out, whatever the client asks for.
     2. `boards_kept_within`: so a Tic at the other end of either stack is never asked
        for a target or a position out of the limits, and its motor is within them
        after each of its operations and on the way to the next. -/
namespace TicFocuserNG

namespace Controller

/-- The motor is within the limits, and on its way only to a place within them. -/
def Within (l : Limits) (c : Controller) : Prop :=
  l.Contains c.position.toInt ∧ (c.driving = true → l.Contains c.target.toInt)

theorem contains_approach {l : Limits} {x y : Int} (hx : l.Contains x) (hy : l.Contains y) (n : Nat) :
    l.Contains (approach x y n) := by
  obtain ⟨hx₁, hx₂⟩ := hx
  obtain ⟨hy₁, hy₂⟩ := hy
  unfold approach Limits.Contains
  split <;> omega

theorem Within.advance {l : Limits} {c : Controller} (h : c.Within l) (n : Nat) : (c.advance n).Within l := by
  rw [Within, advance_driving, advance_target]
  refine ⟨?_, h.2⟩
  cases hd : c.driving with
  | false =>
    rw [advance_halted hd]
    exact h.1
  | true =>
    rw [toInt_advance hd]
    exact contains_approach h.1 (h.2 hd) n

end Controller

namespace World

def Confined (w : World) : Prop := w.controller.Within w.focuser.limits

/-- No position out of the limits is set. -/
def SetsWithin (w : World) : Event → Prop
  | .sync ticks true => w.focuser.limits.Contains ticks.toInt32.toInt
  | .relocate position target =>
    w.focuser.limits.Contains position.toInt ∧
      (w.controller.driving = true → w.focuser.limits.Contains target.toInt)
  | _ => True

theorem limits_step (w : World) (e : Event) : (w.step e).focuser.limits = w.focuser.limits := by
  cases e with
  | moveAbs t ok => simp only [step, respond_moveAbs]; rfl
  | moveRel dir t ok => simp only [step, respond_moveRel]; rfl
  | abort ok => cases ok <;> rfl
  | sync t ok => cases ok <;> rfl
  | poll ok =>
    rw [step, respond_poll]
    cases w.focuser.connected with
    | false => rfl
    | true =>
      cases ok with
      | false => rfl
      | true => exact (received_keeps w.controller.report w.focuser).2.1
  | _ => rfl

theorem confined_request {w : World} {e : Event} {t : UInt32} (ht : w.requested e = some t) (h : w.Confined) :
    (w.step e).Confined := by
  obtain ⟨ok, hans, hctl⟩ := respond_request ht
  rw [Confined, limits_step, hctl, afterRequest]
  split
  · next hbusy =>
    rw [hbusy] at hans
    obtain ⟨hin, hint⟩ := sent_within ht hans
    refine ⟨h.1, fun _ => ?_⟩
    show w.focuser.limits.Contains (w.focuser.compensate t).1.toInt32.toInt
    rw [hint]
    exact hin
  · exact h

/-- A step from a confined state ends in one exactly when it sets no position out of
    the limits. -/
theorem confined_step (w : World) (e : Event) (h : w.Confined) : (w.step e).Confined ↔ w.SetsWithin e := by
  cases e with
  | moveAbs t ok => exact iff_of_true (confined_request rfl h) trivial
  | moveRel dir t ok => exact iff_of_true (confined_request rfl h) trivial
  | abort ok =>
    apply iff_of_true _ trivial
    cases ok with
    | false => exact h
    | true => exact ⟨h.1, fun hd => absurd hd Bool.false_ne_true⟩
  | sync t ok =>
    cases ok with
    | false => exact iff_of_true h trivial
    | true => exact and_iff_left (fun hd => absurd hd Bool.false_ne_true)
  | poll ok =>
    apply iff_of_true _ trivial
    have hctl : (w.step (.poll ok)).controller = w.controller := by rw [step, respond_poll]
    rw [Confined, limits_step, hctl]
    exact h
  | advance n => exact iff_of_true (Controller.Within.advance h n) trivial
  | setBacklash enabled steps => exact iff_of_true h trivial
  | relocate position target => exact Iff.rfl

/-- **The motor stays within the limits**, in every run, exactly when no sync that is
    accepted sets a position out of them. -/
theorem confined_iff (w : World) (es : List Event) (h : w.Confined) :
    Run.Always step Confined w es ↔ Run.Each step SetsWithin w es :=
  Run.always_iff_each confined_step es h

/-- Sent to 100, past it and below 0, and synced to 20 on the way. -/
theorem confined_iff_synced :
    atZero.Confined ∧ Run.Always step Confined atZero
      [.moveAbs 100 true, .advance 50, .sync 20 true, .moveAbs 1001 true, .moveRel .inward 30 true, .advance 50] := by
  have hstart : atZero.Confined := ⟨by decide, fun _ => by decide⟩
  refine ⟨hstart, (confined_iff atZero _ hstart).mpr ?_⟩
  refine ⟨trivial, trivial, ?_, trivial, trivial, trivial, trivial⟩
  rw [SetsWithin, limits_step, limits_step]
  decide

end World

/-! ## At the end of the line -/

/-- It names no place out of the limits. -/
def MotionCommand.Within (l : Limits) : MotionCommand → Prop
  | .setTargetPosition p => l.Contains p.toInt
  | .haltAndHold => True
  | .haltAndSetPosition p => l.Contains p.toInt

/-- If it commands the motor, then to a place within the limits. -/
def TicOp.Within (l : Limits) (op : TicOp) : Prop := ∀ m, op.motion = some m → m.Within l

theorem within_setTargetPosition {l : Limits} {p : Int32} (h : l.Contains p.toInt) :
    (TiclibInterface.Command.setTargetPosition p).op.Within l := by
  intro m hm
  rw [motion_setTargetPosition, Option.some.injEq] at hm
  exact hm ▸ h

theorem within_haltAndSetPosition {l : Limits} {p : Int32} (h : l.Contains p.toInt) :
    (TiclibInterface.Command.haltAndSetPosition p).op.Within l := by
  intro m hm
  rw [motion_haltAndSetPosition, Option.some.injEq] at hm
  exact hm ▸ h

namespace Deployment

/-- Asked for no target and no position out of the limits; and after each operation, the
    motor is within them and stays there, however far it goes on. -/
structure KeptWithin (l : Limits) (b : Board) (ops : List TicOp) : Prop where
  asked : ∀ op ∈ ops, op.Within l
  motor : ∀ ops', ops' <+: ops → ∀ n, l.Contains ((b.after ops').advance n).position.toInt

variable {b : Board} {l : Limits}

theorem within_perform {c : Controller} {op : TicOp} (h : c.Within l) (hop : op.Within l) :
    (c.perform op).Within l := by
  rw [Controller.perform]
  cases hm : op.motion with
  | none => exact h
  | some m =>
    have hplace : m.Within l := hop m hm
    cases m with
    | setTargetPosition p => exact ⟨h.1, fun _ => hplace⟩
    | haltAndHold => exact ⟨h.1, fun hd => absurd hd Bool.false_ne_true⟩
    | haltAndSetPosition p => exact ⟨hplace, fun hd => absurd hd Bool.false_ne_true⟩

/-- A Tic asked for places within the limits. -/
theorem within_after (hstart : b.controller.Within l) (ops : List TicOp) (hops : ∀ op ∈ ops, op.Within l) :
    (b.after ops).Within l := by
  induction ops using List.reverseRecOn with
  | nil => exact hstart
  | append_singleton ops op ih =>
    have hbefore : (b.after ops).Within l := ih fun op' h => hops op' (List.mem_append_left _ h)
    rw [b.after_snoc]
    exact within_perform (hbefore.advance _) (hops op (by simp))

/-- What a request asks the board for. -/
theorem asked_step (f : TicFocuser) (ops : List TicOp) (r : Request)
    (hsync : ∀ t, r = .sync t → f.limits.Contains t.toInt32.toInt) :
    (step (firmwareInterface b) (f, ops) r).1.limits = f.limits ∧
      ∀ op ∈ (step (firmwareInterface b) (f, ops) r).2, op ∈ ops ∨ op.Within f.limits := by
  have hmore : ∀ more : List TicOp, (∀ op ∈ more, op.Within f.limits) →
      ∀ op ∈ ops ++ more, op ∈ ops ∨ op.Within f.limits :=
    fun more hwithin op hop => (List.mem_append.mp hop).imp_right (hwithin op)
  have hsent : ∀ t, (f.moveAbsFocuser (firmwareInterface b) t ops).2.1.limits = f.limits ∧
      ∀ op ∈ (f.moveAbsFocuser (firmwareInterface b) t ops).2.2, op ∈ ops ∨ op.Within f.limits := by
    intro t
    rw [moveAbsFocuser_accepted (firmwareInterface b) (t := t) (f := f) (c := ops) rfl]
    refine ⟨rfl, ?_⟩
    by_cases hbusy : f.answer t true = .busy
    · obtain ⟨-, hmin, hmax, -⟩ := TicFocuser.answer_busy_iff.mp hbusy
      have hfits := f.limits.fits
      rw [if_pos hbusy]
      apply hmore
      intro op hop
      rw [List.mem_singleton.mp hop]
      apply within_setTargetPosition
      rw [TicFocuser.toInt_toInt32 (by omega)]
      exact ⟨hmin, hmax⟩
    · rw [if_neg hbusy]
      exact fun op hop => .inl hop
  cases r with
  | moveAbs t => exact hsent t
  | moveRel dir t => exact hsent (f.targetTicks dir t)
  | abort =>
    exact ⟨rfl, hmore [_] (by simp [TiclibInterface.Command.op, TicOp.Within, TicOp.motion, MotionCommand.Within])⟩
  | sync t => exact ⟨rfl, hmore [_] (by simpa using within_haltAndSetPosition (hsync t rfl))⟩
  | poll =>
    have hreads := hmore registerReads (by simp [registerReads, VarOffset.read, TicOp.Within, TicOp.motion])
    rw [step, TicFocuser.serve, TicFocuser.timerHit]
    split
    · exact ⟨(World.received_keeps _ f).2.1, hreads⟩
    · exact ⟨rfl, fun op hop => .inl hop⟩
  | setBacklash enabled steps => exact ⟨rfl, fun op hop => .inl hop⟩
  | energize =>
    refine ⟨rfl, ?_⟩
    show ∀ op ∈ ops ++ [_] ++ [_], _
    rw [List.append_assoc]
    exact hmore _ (by simp [TiclibInterface.Command.op, TicOp.Within, TicOp.motion])
  | deenergize => exact ⟨rfl, hmore [_] (by simp [TiclibInterface.Command.op, TicOp.Within, TicOp.motion])⟩

theorem asked_run (f : TicFocuser) (rs : List Request) (ops : List TicOp)
    (hsyncs : ∀ t, Request.sync t ∈ rs → f.limits.Contains t.toInt32.toInt) (h : ∀ op ∈ ops, op.Within f.limits) :
    ∀ op ∈ (rs.foldl (step (firmwareInterface b)) (f, ops)).2, op.Within f.limits := by
  induction rs generalizing f ops with
  | nil => exact h
  | cons r rs ih =>
    obtain ⟨hlimits, hasked⟩ := asked_step (b := b) f ops r fun t ht => hsyncs t (by simp [ht])
    have hnext := ih (step (firmwareInterface b) (f, ops) r).1 (step (firmwareInterface b) (f, ops) r).2
    rw [hlimits] at hnext
    apply hnext
    · exact fun t ht => hsyncs t (List.mem_cons_of_mem r ht)
    · exact fun op hop => (hasked op hop).elim (h op) id

/-- **A Tic is kept within the limits**, over either transport and for any requests
    that set no position out of them: it is asked for no target and no position out of the
    limits, and at no time its motor is out of them. -/
theorem boards_kept_within (b : Board) (found : Nat → Nat) (hfound : ∀ k, 0 < found k) (handle : Option Nat)
    (bt : StreamBT) (u : TiclibInterface (TicUsb (List TicOp)) → Uninit)
    (u' : TiclibInterface (StreamBT × SerialTic) → Uninit) (f : TicFocuser) (rs : List Request)
    (hsyncs : ∀ t, Request.sync t ∈ rs → f.limits.Contains t.toInt32.toInt)
    (hstart : (World.mk f b.controller).Confined) :
    ∃ ops, KeptWithin f.limits b ops ∧
      Stands b OnBus (rs.foldl (step (TiclibInterface.driver (TicUsb.base (usbTic b.firmware)) u))
        (f, some (overUsb b handle))).2 ops ∧
      Stands b OnLine (rs.foldl
        (step (TiclibInterface.driver (TicSerial.base (StreamBT.stream (serialTic b.firmware found)) 255) u'))
        (f, some (overBluetooth b bt))).2 ops := by
  have hbus : Stands b OnBus (some (overUsb b handle)) [] := ⟨_, rfl, onBus_overUsb b handle, rfl⟩
  have hline : Stands b OnLine (some (overBluetooth b bt)) [] := ⟨_, rfl, onLine_overBluetooth b bt, rfl⟩
  obtain ⟨-, -, hbus'⟩ := run_related (driver_related (u := u) (usb_serves b.firmware)) f hbus rs
  obtain ⟨-, -, hline'⟩ := run_related (driver_related (u := u') (serial_serves b.firmware hfound)) f hline rs
  have hasked := asked_run (b := b) f rs [] hsyncs (by simp)
  refine ⟨_, ⟨hasked, ?_⟩, hbus', hline'⟩
  intro ops' hpart n
  exact ((within_after hstart ops' fun op hop => hasked op (hpart.subset hop)).advance n).1

/-- Sent to 100, synced to 20 on the way, sent past the limit, and polled; one byte a
    read. -/
theorem boards_kept_within_to100 :
    (∀ k : Nat, 0 < (fun _ : Nat => 1) k) ∧
      (∀ t, Request.sync t ∈ [Request.moveAbs 100, .sync 20, .moveAbs 1001, .poll] →
        World.atZero.focuser.limits.Contains t.toInt32.toInt) ∧
      (World.mk World.atZero.focuser Board.atZero.controller).Confined ∧
      ∃ ops, KeptWithin World.atZero.focuser.limits Board.atZero ops ∧
        Stands Board.atZero OnBus ([Request.moveAbs 100, .sync 20, .moveAbs 1001, .poll].foldl
          (step (TiclibInterface.driver (TicUsb.base (usbTic Board.atZero.firmware)) fun _ _ _ => 0xAA))
          (World.atZero.focuser, some (overUsb Board.atZero (some 1)))).2 ops ∧
        Stands Board.atZero OnLine ([Request.moveAbs 100, .sync 20, .moveAbs 1001, .poll].foldl
          (step (TiclibInterface.driver
            (TicSerial.base (StreamBT.stream (serialTic Board.atZero.firmware fun _ => 1)) 255) fun _ _ _ => 0x55))
          (World.atZero.focuser, some (overBluetooth Board.atZero {}))).2 ops := by
  have hfound : ∀ k : Nat, 0 < (fun _ : Nat => 1) k := fun _ => Nat.one_pos
  have hsyncs : ∀ t, Request.sync t ∈ [Request.moveAbs 100, .sync 20, .moveAbs 1001, .poll] →
      World.atZero.focuser.limits.Contains t.toInt32.toInt := by
    intro t ht
    simp only [List.mem_cons, reduceCtorEq, Request.sync.injEq, List.not_mem_nil, or_false, false_or] at ht
    subst ht
    decide
  have hstart : (World.mk World.atZero.focuser Board.atZero.controller).Confined := ⟨by decide, fun _ => by decide⟩
  exact ⟨hfound, hsyncs, hstart, boards_kept_within Board.atZero (fun _ => 1) hfound (some 1) {} (fun _ _ _ => 0xAA)
    (fun _ _ _ => 0x55) World.atZero.focuser _ hsyncs hstart⟩

end Deployment

end TicFocuserNG
