import TicFocuserNG.Agreement
import TicFocuserNG.Drift
import TicFocuserNG.OutOfRange

/- The motor of the controller, and how a move comes to its end.

   While the client waits, the motor moves on and polls succeed or fail, in any
   order. `busy_request_completes`: from a request answered busy on, the absolute
   position is busy until the first successful poll after the motor has made all its
   way, and ok from then on, with the target as its value. -/
namespace TicFocuserNG

/-! ## The motor -/

namespace Controller

@[simp] theorem advance_target (c : Controller) (n : Nat) : (c.advance n).target = c.target := by
  unfold advance
  split <;> rfl

@[simp] theorem advance_info (c : Controller) (n : Nat) : (c.advance n).info = c.info := by
  unfold advance
  split <;> rfl

@[simp] theorem advance_driving (c : Controller) (n : Nat) : (c.advance n).driving = c.driving := by
  unfold advance
  split <;> rfl

@[simp] theorem advance_commands (c : Controller) (n : Nat) : (c.advance n).commands = c.commands := by
  unfold advance
  split <;> rfl

theorem advance_halted {c : Controller} (h : c.driving = false) (n : Nat) : c.advance n = c := by
  simp [advance, h]

@[simp] theorem advance_zero (c : Controller) : c.advance 0 = c := by
  have happ : approach c.position.toInt c.target.toInt 0 = c.position.toInt := by
    unfold approach
    split <;> omega
  rw [advance, happ, Int32.ofInt_toInt]
  split <;> rfl

/-- Between the position and the target nothing wraps. -/
theorem toInt_advance {c : Controller} (h : c.driving = true) (n : Nat) :
    (c.advance n).position.toInt = approach c.position.toInt c.target.toInt n := by
  have hp := c.position.le_toInt
  have hp' := c.position.toInt_lt
  have ht := c.target.le_toInt
  have ht' := c.target.toInt_lt
  have hpos : (c.advance n).position = Int32.ofInt (approach c.position.toInt c.target.toInt n) := by
    simp [advance, h]
  rw [hpos, Int32.toInt_ofInt_of_le]
  · unfold approach
    split <;> omega
  · unfold approach
    split <;> omega

/-- The steps left to the target. -/
def way (c : Controller) : Nat := (c.target.toInt - c.position.toInt).natAbs

theorem way_advance {c : Controller} (h : c.driving = true) (n : Nat) : (c.advance n).way = c.way - n := by
  rw [way, advance_target, toInt_advance h, way, approach]
  split <;> omega

theorem way_eq_zero {c : Controller} : c.way = 0 ↔ c.position = c.target := by
  rw [way, ← Int32.toInt_inj]
  omega

end Controller

/-! ## Waiting for a move -/

namespace World

/-- The motor moves on, or a poll. -/
def Waits : Event → Prop
  | .advance _ => True
  | .poll _ => True
  | _ => False

/-- The steps the motor may make in the course of the events. -/
def steps : List Event → Nat
  | [] => 0
  | .advance n :: es => n + steps es
  | _ :: es => steps es

/-- A poll succeeds after `n` steps at least. -/
def Reported (n : Nat) (es : List Event) : Prop := ∃ es₁ es₂, es = es₁ ++ .poll true :: es₂ ∧ n ≤ steps es₁

theorem not_reported_nil (n : Nat) : ¬ Reported n [] := by
  intro h
  obtain ⟨es₁, es₂, heq, -⟩ := h
  exact absurd heq.symm (by simp)

/-- An event that is no successful poll is before the one that reports. -/
theorem reported_cons {n : Nat} {e : Event} {es : List Event} (he : e ≠ .poll true) :
    Reported n (e :: es) ↔ Reported (n - steps [e]) es := by
  have hsteps : ∀ es₁, steps (e :: es₁) = steps [e] + steps es₁ := by
    intro es₁
    cases e <;> simp [steps]
  apply Iff.intro
  · intro h
    obtain ⟨es₁, es₂, heq, hn⟩ := h
    cases es₁ with
    | nil =>
      rw [List.nil_append, List.cons.injEq] at heq
      exact absurd heq.1 he
    | cons e' es₁ =>
      rw [List.cons_append, List.cons.injEq] at heq
      obtain ⟨rfl, rfl⟩ := heq
      rw [hsteps] at hn
      exact ⟨es₁, es₂, rfl, by omega⟩
  · intro h
    obtain ⟨es₁, es₂, rfl, hn⟩ := h
    refine ⟨e :: es₁, es₂, rfl, ?_⟩
    rw [hsteps]
    omega

theorem reported_poll {n : Nat} {es : List Event} : Reported n (.poll true :: es) ↔ n = 0 ∨ Reported n es := by
  apply Iff.intro
  · intro h
    obtain ⟨es₁, es₂, heq, hn⟩ := h
    cases es₁ with
    | nil => exact .inl (Nat.le_zero.mp hn)
    | cons e' es₁ =>
      rw [List.cons_append, List.cons.injEq] at heq
      obtain ⟨rfl, rfl⟩ := heq
      exact .inr ⟨es₁, es₂, rfl, hn⟩
  · intro h
    rcases h with rfl | h
    · exact ⟨[], es, rfl, Nat.zero_le _⟩
    · obtain ⟨es₁, es₂, rfl, hn⟩ := h
      exact ⟨.poll true :: es₁, es₂, rfl, hn⟩

/-- Under way to `p`, with the property busy and `n` steps to go. -/
structure OnTheWay (p : Int32) (n : Nat) (w : World) : Prop where
  connected : w.focuser.connected = true
  busy : w.focuser.focusAbsPosNP.state = .busy
  driving : w.controller.driving = true
  target : w.controller.target = p
  way : w.controller.way = n

/-- Arrived at `p`, and reported. -/
structure Completed (p : Int32) (w : World) : Prop where
  connected : w.focuser.connected = true
  ok : w.focuser.focusAbsPosNP.state = .ok
  relTracking : w.focuser.moveRelInitialValue = -1
  value : w.focuser.focusAbsPosNP.value = p.toInt
  target : w.controller.target = p
  position : w.controller.position = p

theorem step_poll_true {w : World} (h : w.focuser.connected = true) :
    w.step (.poll true) = ⟨w.focuser.received w.controller.report, w.controller⟩ := by
  rw [step, respond_poll, if_pos h, if_pos rfl]

theorem step_poll_false {w : World} (h : w.focuser.connected = true) :
    w.step (.poll false) = ⟨{ w.focuser with lastTimerHitError := true }, w.controller⟩ := by
  rw [step, respond_poll, if_pos h]
  rfl

theorem OnTheWay.waits {p : Int32} {n : Nat} {w : World} (h : OnTheWay p n w) {e : Event} (hw : Waits e)
    (he : e ≠ .poll true) : OnTheWay p (n - steps [e]) (w.step e) := by
  cases e with
  | advance m =>
    have hway : (w.controller.advance m).way = n - m := by
      rw [Controller.way_advance h.driving, h.way]
    exact ⟨h.connected, h.busy, (Controller.advance_driving _ m).trans h.driving,
      (Controller.advance_target _ m).trans h.target, hway⟩
  | poll ok =>
    cases ok with
    | true => exact absurd rfl he
    | false =>
      rw [step_poll_false h.connected]
      exact ⟨h.connected, h.busy, h.driving, h.target, h.way⟩
  | _ => exact hw.elim

/-- A successful poll on the way. -/
theorem OnTheWay.polled {p : Int32} {n : Nat} {w : World} (h : OnTheWay p n w) (hn : n ≠ 0) :
    OnTheWay p n (w.step (.poll true)) := by
  have hne : w.controller.position ≠ w.controller.target := by
    intro heq
    apply hn
    rw [← h.way, Controller.way_eq_zero]
    exact heq
  rw [step_poll_true h.connected]
  refine ⟨(received_keeps _ _).1.trans h.connected, ?_, h.driving, h.target, h.way⟩
  show (w.focuser.received w.controller.report).focusAbsPosNP.state = .busy
  unfold TicFocuser.received
  simp only [h.busy, if_true, Controller.report, if_neg hne]
  split <;> rfl

/-- A successful poll at the end of the way. -/
theorem OnTheWay.reported {p : Int32} {w : World} (h : OnTheWay p 0 w) : Completed p (w.step (.poll true)) := by
  have heq : w.controller.position = w.controller.target := Controller.way_eq_zero.mp h.way
  have hrec : (w.focuser.received w.controller.report).focusAbsPosNP.state = .ok ∧
      (w.focuser.received w.controller.report).moveRelInitialValue = -1 := by
    unfold TicFocuser.received
    simp only [h.busy, if_true, Controller.report, heq]
    exact ⟨trivial, trivial⟩
  have hkeep := received_keeps w.controller.report w.focuser
  rw [step_poll_true h.connected]
  refine ⟨hkeep.1.trans h.connected, hrec.1, hrec.2, ?_, h.target, heq.trans h.target⟩
  rw [hkeep.2.2.2.2.2, ← h.target, ← heq]
  rfl

theorem Completed.waits {p : Int32} {w : World} (h : Completed p w) {e : Event} (hw : Waits e) :
    Completed p (w.step e) := by
  cases e with
  | advance m =>
    have hpos : (w.controller.advance m).position = p := by
      cases hd : w.controller.driving with
      | false => rw [Controller.advance_halted hd, h.position]
      | true =>
        have hway : w.controller.way = 0 := Controller.way_eq_zero.mpr (h.position.trans h.target.symm)
        have hway' : (w.controller.advance m).way = 0 := by rw [Controller.way_advance hd, hway, Nat.zero_sub]
        rw [Controller.way_eq_zero.mp hway', Controller.advance_target, h.target]
    exact ⟨h.connected, h.ok, h.relTracking, h.value, (Controller.advance_target _ m).trans h.target, hpos⟩
  | poll ok =>
    cases ok with
    | false =>
      rw [step_poll_false h.connected]
      exact ⟨h.connected, h.ok, h.relTracking, h.value, h.target, h.position⟩
    | true =>
      have hkeep := received_keeps w.controller.report w.focuser
      have hrec : (w.focuser.received w.controller.report).focusAbsPosNP.state = .ok ∧
          (w.focuser.received w.controller.report).moveRelInitialValue = -1 := by
        simp [TicFocuser.received, h.ok, h.relTracking]
      rw [step_poll_true h.connected]
      refine ⟨hkeep.1.trans h.connected, hrec.1, hrec.2, ?_, h.target, h.position⟩
      rw [hkeep.2.2.2.2.2, ← h.position]
      rfl
  | _ => exact hw.elim

theorem Completed.run {p : Int32} {es : List Event} {w : World} (h : Completed p w) (hes : ∀ e ∈ es, Waits e) :
    Completed p (es.foldl step w) := by
  apply List.foldlRecOn es step h
  intro w' h' e he
  exact h'.waits (hes e he)

/-- The run of a move: completed where it was reported, under way where not. -/
theorem OnTheWay.run {p : Int32} {n : Nat} {w : World} (h : OnTheWay p n w) {es : List Event} (hes : ∀ e ∈ es, Waits e) :
    (Reported n es → Completed p (es.foldl step w)) ∧
      (¬ Reported n es → OnTheWay p (n - steps es) (es.foldl step w)) := by
  induction es generalizing n w with
  | nil => exact ⟨fun hr => absurd hr (not_reported_nil n), fun _ => h⟩
  | cons e es ih =>
    have hes' : ∀ e' ∈ es, Waits e' := fun e' he' => hes e' (List.mem_cons_of_mem e he')
    have hw : Waits e := hes e List.mem_cons_self
    rw [List.foldl_cons]
    by_cases he : e = .poll true
    · subst he
      rw [reported_poll]
      by_cases hn : n = 0
      · subst hn
        exact ⟨fun _ => h.reported.run hes', fun hr => absurd (.inl rfl) hr⟩
      · obtain ⟨hyes, hno⟩ := ih (h.polled hn) hes'
        exact ⟨fun hr => hyes (hr.resolve_left hn), fun hr => hno (fun hr' => hr (.inr hr'))⟩
    · rw [reported_cons he]
      obtain ⟨hyes, hno⟩ := ih (h.waits hw he) hes'
      refine ⟨hyes, ?_⟩
      intro hr
      have hleft : n - steps [e] - steps es = n - steps (e :: es) := by
        cases e <;> simp [steps, Nat.sub_sub]
      rw [← hleft]
      exact hno hr

/-- What is sent is within the limits. -/
theorem sent_within {w : World} {e : Event} {t : UInt32} (ht : w.requested e = some t)
    (hans : (w.respond e).1 = some .busy) :
    w.focuser.limits.Contains (w.focuser.compensate t).1.toNat ∧
      (w.focuser.compensate t).1.toInt32.toInt = (w.focuser.compensate t).1.toNat := by
  obtain ⟨ok, hres, -⟩ := respond_request ht
  rw [hres, Option.some.injEq, TicFocuser.answer_busy_iff] at hans
  obtain ⟨-, hmin, hmax, -⟩ := hans
  have hfits := w.focuser.limits.fits
  exact ⟨⟨hmin, hmax⟩, TicFocuser.toInt_toInt32 (by omega)⟩

theorem onTheWay_request {w : World} (hconn : w.focuser.connected = true) {e : Event} {t : UInt32}
    (ht : w.requested e = some t) (hans : (w.respond e).1 = some .busy) :
    OnTheWay (w.focuser.compensate t).1.toInt32 (w.step e).controller.way (w.step e) := by
  cases e with
  | moveAbs ticks ok =>
    obtain rfl : ticks = t := by simpa [requested] using ht
    rw [respond_moveAbs, Option.some.injEq] at hans
    simp only [step, respond_moveAbs, afterRequest, hans, if_true]
    exact ⟨hconn, rfl, rfl, rfl, rfl⟩
  | moveRel dir ticks ok =>
    obtain rfl : w.focuser.targetTicks dir ticks = t := by simpa [requested] using ht
    rw [respond_moveRel, Option.some.injEq] at hans
    simp only [step, respond_moveRel, afterRequest, hans, if_true]
    exact ⟨hconn, rfl, rfl, rfl, rfl⟩
  | _ => simp [requested] at ht

/-- The course of the request `e` for `t`, over the events `es`: the position is ok if
    and only if some poll succeeded after the motor had made all its way, and busy
    otherwise; when it is ok, its value is the target sent, and the motor stands
    there. -/
def Completes (w : World) (e : Event) (t : UInt32) (es : List Event) : Prop :=
  ((es.foldl step (w.step e)).focuser.focusAbsPosNP.state = .ok ↔ Reported (w.step e).controller.way es) ∧
    ((es.foldl step (w.step e)).focuser.focusAbsPosNP.state ≠ .ok →
      (es.foldl step (w.step e)).focuser.focusAbsPosNP.state = .busy) ∧
    ((es.foldl step (w.step e)).focuser.focusAbsPosNP.state = .ok →
      (es.foldl step (w.step e)).focuser.focusAbsPosNP.value = (w.focuser.compensate t).1.toNat ∧
        (es.foldl step (w.step e)).controller.position = (w.focuser.compensate t).1.toInt32)

/-- **A move is reported complete exactly when it is over.** After a request answered
    busy, while the motor moves on and polls succeed or fail in any order. -/
theorem busy_request_completes (w : World) (hconn : w.focuser.connected = true) (e : Event) (t : UInt32)
    (ht : w.requested e = some t) (hans : (w.respond e).1 = some .busy) (es : List Event) (hes : ∀ e ∈ es, Waits e) :
    w.Completes e t es := by
  obtain ⟨hyes, hno⟩ := (onTheWay_request hconn ht hans).run hes
  by_cases hr : Reported (w.step e).controller.way es
  · have hdone := hyes hr
    refine ⟨iff_of_true hdone.ok hr, fun h => absurd hdone.ok h, fun _ => ⟨?_, hdone.position⟩⟩
    rw [hdone.value, (sent_within ht hans).2]
  · have hgoing := hno hr
    have hbusy : (es.foldl step (w.step e)).focuser.focusAbsPosNP.state ≠ .ok := by
      rw [hgoing.busy]
      decide
    exact ⟨iff_of_false hbusy hr, fun _ => hgoing.busy, fun h => absurd h hbusy⟩

/-- To 100, with a poll on the way and one that fails at its end. -/
theorem busy_request_completes_to100 :
    (atZero.respond (.moveAbs 100 true)).1 = some .busy ∧
      atZero.Completes (.moveAbs 100 true) 100 [.advance 60, .poll true, .advance 60, .poll false, .poll true] := by
  have hans : (atZero.respond (.moveAbs 100 true)).1 = some .busy := by decide
  refine ⟨hans, busy_request_completes atZero rfl _ 100 rfl hans _ ?_⟩
  simp [Waits]

end World

end TicFocuserNG
