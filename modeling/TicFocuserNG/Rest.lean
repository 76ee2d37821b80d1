import TicFocuserNG.Motion

/- What a position that is not busy tells of the motor.

   A poll takes busy off the absolute position only where the motor has arrived, and an
   abort only where it was halted. A request takes it off too, and looks at neither: one
   that is refused leaves alert, one for the position last polled leaves ok, and the
   motor goes on to where it was sent before. `rests_iff`: throughout a run the motor
   stands whenever the position is not busy, exactly when every request that sends
   nothing finds it standing. -/
namespace TicFocuserNG

namespace Controller

/-- Nowhere to go. -/
def Stands (c : Controller) : Prop := c.AtRest c.position

instance (c : Controller) : Decidable c.Stands := inferInstanceAs (Decidable (c.AtRest c.position))

theorem stands_iff {c : Controller} : c.Stands ↔ (c.driving = true → c.target = c.position) :=
  and_iff_right rfl

theorem stands_halted {c : Controller} (h : c.driving = false) : c.Stands := by
  rw [stands_iff, h]
  exact fun hd => absurd hd Bool.false_ne_true

/-- A motor that stands makes no step. -/
theorem Stands.advance {c : Controller} (h : c.Stands) (n : Nat) : c.advance n = c := by
  cases hd : c.driving with
  | false => exact advance_halted hd n
  | true =>
    have hhere : approach c.position.toInt c.target.toInt n = c.position.toInt := by
      rw [stands_iff.mp h hd, approach, if_pos (Int.le_refl _)]
      omega
    rw [Controller.advance, if_pos hd, hhere, Int32.ofInt_toInt]

end Controller

namespace World

/-- The absolute position is busy, or the motor stands. -/
def Rests (w : World) : Prop := w.focuser.focusAbsPosNP.state ≠ .busy → w.controller.Stands

/-- A request that sends nothing finds the motor standing; and so does a change of the
    registers, unless the position is busy. -/
def FindsStanding (w : World) : Event → Prop
  | .relocate position target =>
    w.focuser.focusAbsPosNP.state ≠ .busy → w.controller.driving = true → target = position
  | e => (w.requested e).isSome = true → (w.respond e).1 ≠ some .busy → w.controller.Stands

/-- The state a request leaves is its answer. -/
theorem state_request {w : World} {e : Event} {t : UInt32} (ht : w.requested e = some t) :
    (w.respond e).1 = some (w.step e).focuser.focusAbsPosNP.state := by
  cases e with
  | moveAbs ticks ok =>
    rw [step, respond_moveAbs]
    rfl
  | moveRel dir ticks ok =>
    rw [step, respond_moveRel]
    rfl
  | _ => simp [requested] at ht

/-- No hypothesis on the state before: a request settles both sides anew. -/
theorem rests_request {w : World} {e : Event} {t : UInt32} (ht : w.requested e = some t) :
    (w.step e).Rests ↔ ((w.respond e).1 ≠ some .busy → w.controller.Stands) := by
  obtain ⟨ok, hans, hctl⟩ := respond_request ht
  have hstate := state_request ht
  rw [Rests, hstate, ne_eq, ne_eq, Option.some.injEq]
  apply imp_congr_right
  intro hnot
  have hsame : (w.step e).controller = w.controller := by
    rw [hans, Option.some.injEq] at hstate
    rw [hctl, afterRequest, if_neg (hstate ▸ hnot)]
  rw [hsame]

theorem rests_poll {w : World} (h : w.Rests) (ok : Bool) : (w.step (.poll ok)).Rests := by
  rw [step, respond_poll]
  cases hc : w.focuser.connected with
  | false => exact h
  | true =>
    cases ok with
    | false => exact h
    | true =>
      intro hnot
      by_cases hb : w.focuser.focusAbsPosNP.state = .busy
      · -- only an arrival takes busy off
        by_cases heq : w.controller.position = w.controller.target
        · exact Controller.stands_iff.mpr fun _ => heq.symm
        · refine absurd ?_ hnot
          show (w.focuser.received w.controller.report).focusAbsPosNP.state = .busy
          unfold TicFocuser.received
          simp only [hb, if_true, Controller.report, if_neg heq]
          split <;> rfl
      · exact h hb

theorem rests_step (w : World) (e : Event) (h : w.Rests) : (w.step e).Rests ↔ w.FindsStanding e := by
  cases e with
  | moveAbs t ok =>
    rw [rests_request (t := t) rfl]
    exact ⟨fun hs _ => hs, fun hs => hs rfl⟩
  | moveRel dir t ok =>
    rw [rests_request (t := w.focuser.targetTicks dir t) rfl]
    exact ⟨fun hs _ => hs, fun hs => hs rfl⟩
  | abort ok =>
    apply iff_of_true _ (fun hreq => absurd hreq Bool.false_ne_true)
    cases ok with
    | false => exact h
    | true => exact fun _ => Controller.stands_halted rfl
  | sync t ok =>
    apply iff_of_true _ (fun hreq => absurd hreq Bool.false_ne_true)
    cases ok with
    | false => exact h
    | true => exact fun _ => Controller.stands_halted rfl
  | poll ok => exact iff_of_true (rests_poll h ok) (fun hreq => absurd hreq Bool.false_ne_true)
  | setBacklash enabled steps => exact iff_of_true h (fun hreq => absurd hreq Bool.false_ne_true)
  | advance n =>
    apply iff_of_true _ (fun hreq => absurd hreq Bool.false_ne_true)
    intro hnot
    have hsame : w.controller.advance n = w.controller := (h hnot).advance n
    show (w.controller.advance n).Stands
    rw [hsame]
    exact h hnot
  | relocate position target => exact imp_congr_right fun _ => Controller.stands_iff

/-- **Where the position is not busy, the motor stands**, throughout a run, exactly when
    every request that sends nothing finds it standing. -/
theorem rests_iff (w : World) (es : List Event) (h : w.Rests) :
    Run.Always step Rests w es ↔ Run.Each step FindsStanding w es :=
  Run.always_iff_each rests_step es h

/-- Sent to 100, halted on the way, and asked for what is out of range then. -/
theorem rests_iff_halted :
    atZero.Rests ∧ Run.Always step Rests atZero
      [.moveAbs 100 true, .advance 40, .poll true, .abort true, .moveAbs 1001 true, .advance 40] := by
  have hstart : atZero.Rests := fun _ => by decide
  refine ⟨hstart, (rests_iff atZero _ hstart).mpr ⟨?_, ?_, ?_, ?_, ?_, ?_, trivial⟩⟩
  · exact fun _ hnot => absurd rfl hnot
  · exact fun hreq => absurd hreq Bool.false_ne_true
  · exact fun hreq => absurd hreq Bool.false_ne_true
  · exact fun hreq => absurd hreq Bool.false_ne_true
  · exact fun _ _ => Controller.stands_halted rfl
  · exact fun hreq => absurd hreq Bool.false_ne_true

/-- Asked for what is out of range on the way: refused, and the motor goes on. -/
example : ¬ Run.Each step FindsStanding atZero [.moveAbs 100 true, .advance 40, .moveAbs 1001 true] := by
  intro h
  exact absurd (h.2.2.1 rfl (by decide)) (by decide)

end World

end TicFocuserNG
