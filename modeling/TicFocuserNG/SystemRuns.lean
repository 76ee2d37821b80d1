import TicFocuserNG.Deployment

/- Interfaces that drive a controller, and may fail.

   `Drives` is what the driver needs of an interface to be the driver of the system:
   a command that succeeds reaches the controller, one that fails does not, a poll
   delivers what the controller reports at some moment of it, and the motor may go on
   before and after. `simulates_drives`: over such an interface every request is an
   event of the system with the outcome the interface has for it. -/
namespace TicFocuserNG

namespace Deployment

section
variable {σ : Type} (drv : TicDriverInterface σ)

/-- The event of the system that a request is, with the outcome of its operation. -/
def happened (s : TicFocuser × σ) : Request → List Event
  | .moveAbs t => [.moveAbs t (drv.setTargetPosition (s.1.compensate t).1.toInt32 s.2).1]
  | .moveRel dir t =>
    [.moveRel dir t (drv.setTargetPosition (s.1.compensate (s.1.targetTicks dir t)).1.toInt32 s.2).1]
  | .abort => [.abort (drv.haltAndHold s.2).1]
  | .sync t => [.sync t (drv.haltAndSetPosition t.toInt32 s.2).1]
  | .poll => [.poll (drv.getVariables s.2).1.isSome]
  | .setBacklash enabled steps => [.setBacklash enabled steps]
  | .energize => []
  | .deenergize => []

end

/-- The controller after a command to the motor, which goes on before and after. -/
def Commanded {σ : Type} (R : σ → Controller → Prop) (m : MotionCommand) (k : Controller) (out : Bool × σ) : Prop :=
  ∃ n n', R out.2 (((k.advance n).command out.1 m).2.advance n')

/-- The operations of `drv` are those of the controller that `R` relates its state to. -/
structure Drives {σ : Type} (drv : TicDriverInterface σ) (R : σ → Controller → Prop) : Prop where
  energize : ∀ {c k}, R c k → ∃ n, R (drv.energize c).2 (k.advance n)
  deenergize : ∀ {c k}, R c k → ∃ n, R (drv.deenergize c).2 (k.advance n)
  exitSafeStart : ∀ {c k}, R c k → ∃ n, R (drv.exitSafeStart c).2 (k.advance n)
  haltAndHold : ∀ {c k}, R c k → Commanded R .haltAndHold k (drv.haltAndHold c)
  setTargetPosition : ∀ {c k} (p : Int32), R c k → Commanded R (.setTargetPosition p) k (drv.setTargetPosition p c)
  haltAndSetPosition : ∀ {c k} (p : Int32), R c k → Commanded R (.haltAndSetPosition p) k (drv.haltAndSetPosition p c)
  getVariables : ∀ {c k}, R c k → ∃ n n', (∀ vars, (drv.getVariables c).1 = some vars → vars = (k.advance n).report) ∧
    R (drv.getVariables c).2 ((k.advance n).advance n')

section
variable {σ : Type} {drv : TicDriverInterface σ} {R : σ → Controller → Prop}

/-- The driver of the system, and its controller behind the interface. -/
def Mirrors (R : σ → Controller → Prop) (s : TicFocuser × σ) (w : World) : Prop := w.focuser = s.1 ∧ R s.2 w.controller

/-- What a request comes to: the event it is, the motor going on around it. -/
def Explained (drv : TicDriverInterface σ) (R : σ → Controller → Prop) (s : TicFocuser × σ) (w : World) (r : Request) :
    Prop :=
  ∃ es, es.filter visible = happened drv s r ∧ Run.outputs World.step systemAnswers w es = answers drv s r ∧
    Mirrors R (step drv s r) (es.foldl World.step w)

/-- A request that is the event `e`, the motor going on around it. -/
theorem Explained.event {s : TicFocuser × σ} {r : Request} {e : Event} {f : TicFocuser} {k : Controller}
    (n n' : Nat) (hhap : happened drv s r = [e]) (hvis : visible e = true) {out : Option IPState} {w : World}
    (hres : World.respond ⟨f, k.advance n⟩ e = (out, w)) (hans : out.toList = answers drv s r)
    (hfoc : w.focuser = (step drv s r).1) (hR : R (step drv s r).2 (w.controller.advance n')) :
    Explained drv R s ⟨f, k⟩ r := by
  refine ⟨[.advance n, e, .advance n'], ?_, ?_, ?_⟩
  · rw [hhap, List.filter_cons_of_neg (by simp [visible]), List.filter_cons_of_pos hvis,
      List.filter_cons_of_neg (by simp [visible])]
    rfl
  · show [] ++ ((World.respond ⟨f, k.advance n⟩ e).1.toList ++ ([] ++ [])) = answers drv s r
    rw [hres, List.append_nil, List.append_nil, List.nil_append]
    exact hans
  · show Mirrors R (step drv s r) (World.step (World.respond ⟨f, k.advance n⟩ e).2 (.advance n'))
    rw [hres]
    exact ⟨hfoc, hR⟩

/-- A request that does not concern the motor. -/
theorem Explained.quiet {s : TicFocuser × σ} {r : Request} {k : Controller} (n n' : Nat)
    (hhap : happened drv s r = []) (hans : answers drv s r = []) (hfoc : (step drv s r).1 = s.1)
    (hR : R (step drv s r).2 ((k.advance n).advance n')) : Explained drv R s ⟨s.1, k⟩ r := by
  refine ⟨[.advance n, .advance n'], ?_, ?_, hfoc.symm, hR⟩
  · rw [hhap]
    rfl
  · rw [hans]
    rfl

/-- A request for `t`: the target is sent, or the interface is left alone. -/
theorem moved (hD : Drives drv R) {f : TicFocuser} {c : σ} {k : Controller} (hR : R c k) (t : UInt32) :
    ∃ n n', R (f.moveAbsFocuser drv t c).2.2
      ((World.afterRequest ⟨f, k.advance n⟩ t (drv.setTargetPosition (f.compensate t).1.toInt32 c).1).advance n') := by
  rw [moveAbsFocuser_outcome]
  by_cases hbusy : f.answer t true = .busy
  · obtain ⟨n, n', hR'⟩ := hD.setTargetPosition (f.compensate t).1.toInt32 hR
    refine ⟨n, n', ?_⟩
    rw [if_pos hbusy]
    rw [TicFocuser.answer_busy_iff] at hbusy
    have hafter : World.afterRequest ⟨f, k.advance n⟩ t (drv.setTargetPosition (f.compensate t).1.toInt32 c).1 =
        ((k.advance n).command (drv.setTargetPosition (f.compensate t).1.toInt32 c).1
          (.setTargetPosition (f.compensate t).1.toInt32)).2 := by
      rw [World.afterRequest]
      cases (drv.setTargetPosition (f.compensate t).1.toInt32 c).1 with
      | false => rw [if_neg (fun h => Bool.false_ne_true (TicFocuser.answer_busy_iff.mp h).2.2.2)]; rfl
      | true => rw [if_pos (TicFocuser.answer_busy_iff.mpr hbusy)]; rfl
    rw [hafter]
    exact hR'
  · have hnot : ∀ ok, f.answer t ok ≠ .busy := by
      intro ok h
      obtain ⟨hne, hmin, hmax, -⟩ := TicFocuser.answer_busy_iff.mp h
      exact hbusy (TicFocuser.answer_busy_iff.mpr ⟨hne, hmin, hmax, rfl⟩)
    have hstill : k.advance 0 = k := Controller.advance_zero k
    refine ⟨0, 0, ?_⟩
    rw [if_neg hbusy, hstill, World.afterRequest, if_neg (hnot _), hstill]
    exact hR

theorem explained (hD : Drives drv R) {s : TicFocuser × σ} {k : Controller} (hR : R s.2 k) (r : Request) :
    Explained drv R s ⟨s.1, k⟩ r := by
  obtain ⟨f, c⟩ := s
  cases r with
  | moveAbs t =>
    obtain ⟨n, n', hR'⟩ := moved hD (f := f) hR t
    apply Explained.event n n' rfl rfl (World.respond_moveAbs _ t _)
    · rw [answers, TicFocuser.serve, moveAbsFocuser_outcome]
    · rw [step, TicFocuser.serve, moveAbsFocuser_outcome]
    · exact hR'
  | moveRel dir t =>
    obtain ⟨n, n', hR'⟩ := moved hD (f := f) hR (f.targetTicks dir t)
    apply Explained.event n n' rfl rfl (World.respond_moveRel _ dir t _)
    · rw [answers, TicFocuser.serve, TicFocuser.moveRelFocuser, moveAbsFocuser_outcome]
    · rw [step, TicFocuser.serve, TicFocuser.moveRelFocuser, moveAbsFocuser_outcome]
    · exact hR'
  | abort =>
    obtain ⟨n, n', hR'⟩ := hD.haltAndHold hR
    refine Explained.event (e := .abort (drv.haltAndHold c).1) n n' rfl rfl rfl rfl ?_ ?_
    · show (if (Controller.command _ _ _).1 then _ else _) = if (drv.haltAndHold c).1 then f.setAbsState .idle else f
      cases (drv.haltAndHold c).1 <;> rfl
    · exact hR'
  | sync t =>
    obtain ⟨n, n', hR'⟩ := hD.haltAndSetPosition t.toInt32 hR
    refine Explained.event (e := .sync t (drv.haltAndSetPosition t.toInt32 c).1) n n' rfl rfl rfl rfl ?_ ?_
    · show (if (Controller.command _ _ _).1 then _ else _) = if (drv.haltAndSetPosition t.toInt32 c).1 then
          { f with focusAbsPosNP := { f.focusAbsPosNP with value := t.toNat } } else f
      cases (drv.haltAndSetPosition t.toInt32 c).1 <;> rfl
    · exact hR'
  | poll =>
    obtain ⟨n, n', hvars, hR'⟩ := hD.getVariables hR
    by_cases hconn : f.connected = true
    · refine Explained.event (e := .poll (drv.getVariables c).1.isSome) n n' rfl rfl (World.respond_poll _ _) rfl ?_ ?_
      · rw [step, TicFocuser.serve, TicFocuser.timerHit, if_pos hconn, if_pos hconn]
        rcases hget : drv.getVariables c with ⟨_ | vars, c'⟩
        · rfl
        · obtain rfl : vars = (k.advance n).report := hvars vars (by rw [hget])
          rfl
      · have hstate : (step drv (f, c) .poll).2 = (drv.getVariables c).2 := by
          rw [step, TicFocuser.serve, TicFocuser.timerHit, if_pos hconn]
          rcases drv.getVariables c with ⟨_ | vars, c'⟩ <;> rfl
        rw [hstate]
        exact hR'
    · have hstep : step drv (f, c) .poll = (f, c) := by
        rw [step, TicFocuser.serve, TicFocuser.timerHit, if_neg hconn]
      refine Explained.event (e := .poll (drv.getVariables c).1.isSome) 0 0 rfl rfl (World.respond_poll _ _) rfl ?_ ?_
      · rw [hstep]
        exact if_neg hconn
      · rw [hstep, Controller.advance_zero, Controller.advance_zero]
        exact hR
  | setBacklash enabled steps =>
    refine Explained.event (e := .setBacklash enabled steps) 0 0 rfl rfl rfl rfl rfl ?_
    show R c ((k.advance 0).advance 0)
    rw [Controller.advance_zero, Controller.advance_zero]
    exact hR
  | energize =>
    obtain ⟨n, hR'⟩ := hD.energize hR
    rcases hres : drv.energize c with ⟨_ | _, c'⟩
    · have hstate : (step drv (f, c) .energize).2 = c' := by
        rw [step, TicFocuser.serve, TicFocuser.energizeFocuser, hres]
      apply Explained.quiet n 0 rfl rfl rfl
      rw [hstate, Controller.advance_zero]
      rwa [hres] at hR'
    · have hstate : (step drv (f, c) .energize).2 = (drv.exitSafeStart c').2 := by
        rw [step, TicFocuser.serve, TicFocuser.energizeFocuser, hres]
      rw [hres] at hR'
      obtain ⟨n', hR''⟩ := hD.exitSafeStart hR'
      apply Explained.quiet n n' rfl rfl rfl
      rw [hstate]
      exact hR''
  | deenergize =>
    obtain ⟨n, hR'⟩ := hD.deenergize hR
    apply Explained.quiet n 0 rfl rfl rfl
    rw [Controller.advance_zero]
    exact hR'

/-- **Every run over such an interface is a run of the system**, the operations of
    the one failing where the events of the other do. -/
theorem simulates_drives (hD : Drives drv R) :
    Run.Simulates (step drv) (answers drv) World.step systemAnswers visible (happened drv) (Mirrors R) := by
  intro s w r h
  obtain ⟨f, k⟩ := w
  obtain ⟨hf, hR⟩ := h
  obtain rfl : f = s.1 := hf
  exact explained hD hR r

end

end Deployment

end TicFocuserNG
