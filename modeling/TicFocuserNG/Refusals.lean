import TicFocuserNG.OutOfRange

/- Requests that are refused, and what the driver remembers of them.

   `refused_intact_iff`: a request answered with alert leaves the remembered
   direction alone (and a relative one `moveRelInitialValue`), and all later
   requests send what they would have sent without it, exactly when the driver
   remembered the direction of the request already. `MoveAbsFocuser` turns the
   direction before it tests the range and before it sends. -/
namespace TicFocuserNG

namespace TicFocuser

/-- What the targets of later requests depend on. -/
def core (f : TicFocuser) : TicFocuser :=
  { f with
    lastTimerHitError := false
    moveRelInitialValue := -1
    focusAbsPosNP := { f.focusAbsPosNP with state := .idle }
    focusRelPosNP := ⟨0, .idle⟩
    focusSyncNP := { f.focusSyncNP with state := .idle } }

theorem core_received (vars : TicVariables) (f : TicFocuser) :
    (f.received vars).core = (f.core.received vars).core := by
  simp only [received, core]
  repeat' split
  all_goals rfl

end TicFocuser

namespace World

/-- The targets an event makes the driver send, accepted or not. -/
def sends (w : World) : Event → List Int32
  | .moveAbs ticks ok => (w.focuser.moveAbsFocuser (recorder ok) ticks []).2.2
  | .moveRel dir ticks ok => (w.focuser.moveRelFocuser (recorder ok) dir ticks []).2.2
  | _ => []

/-- The system up to what no target depends on. -/
def core (w : World) : World := ⟨w.focuser.core, w.controller⟩

theorem sends_core (w : World) (e : Event) : w.core.sends e = w.sends e := by
  cases e with
  | moveAbs t ok => simp only [sends, TicFocuser.moveAbsFocuser_recorder]; rfl
  | moveRel dir t ok => simp only [sends, TicFocuser.moveRelFocuser, TicFocuser.moveAbsFocuser_recorder]; rfl
  | _ => rfl

theorem core_step (w : World) (e : Event) : (w.step e).core = (w.core.step e).core := by
  cases e with
  | moveAbs t ok => simp only [step, respond_moveAbs]; rfl
  | moveRel dir t ok => simp only [step, respond_moveRel]; rfl
  | abort ok => cases ok <;> rfl
  | sync t ok => cases ok <;> rfl
  | poll ok =>
    -- a poll writes what it received, whatever stood there
    have hcon : w.focuser.core.connected = w.focuser.connected := rfl
    simp only [step, respond_poll, core, hcon]
    split
    · split
      · rw [TicFocuser.core_received]
      · rfl
    · rfl
  | setBacklash enabled steps => rfl
  | advance n => rfl
  | relocate position target => rfl

/-- Systems that agree up to their core send the same targets from then on. -/
theorem sends_congr {w w' : World} (h : w.core = w'.core) (es : List Event) :
    Run.outputs step sends w es = Run.outputs step sends w' es := by
  refine Run.outputs_congr (R := fun w w' => w.core = w'.core) ?_ ?_ es h
  · intro w w' e h
    rw [← sends_core w, h, sends_core w']
  · intro w w' e h
    rw [core_step w, h, ← core_step w']

/-! ## Refused requests -/

/-- A request answered with alert leaves the remembered direction alone, a
    relative one also `moveRelInitialValue`; and whatever comes later, the
    targets sent are those that would have been sent without it. -/
def RefusedIntact (w : World) (e : Event) : Prop :=
  (w.respond e).1 = some .alert →
    (w.step e).focuser.lastFocusDir = w.focuser.lastFocusDir ∧
    (∀ dir ticks ok, e = .moveRel dir ticks ok →
      (w.step e).focuser.moveRelInitialValue = w.focuser.moveRelInitialValue) ∧
    ∀ es, Run.outputs step sends (w.step e) es = Run.outputs step sends w es

end World

namespace TicFocuser

/-- The driver remembers the direction of a request already, or would not
    remember it: inward, with compensation off. -/
def Remembers (f : TicFocuser) (t : UInt32) : Prop :=
  (f.focusAbsPosNP.value < t.toNat → f.lastFocusDir = .outward) ∧
    (t.toNat < f.focusAbsPosNP.value → f.focusBacklashSP = true → f.lastFocusDir = .inward)

/-- A request aims out of range, or the interface refuses it. -/
def Refuses (f : TicFocuser) (t : UInt32) (ok : Bool) : Prop :=
  (t.toNat : Int) ≠ f.focusAbsPosNP.value ∧ (ok = false ∨ ¬ f.limits.Contains (f.aim t))

theorem turned_iff (f : TicFocuser) (t : UInt32) : (f.compensate t).2 = f.lastFocusDir ↔ f.Remembers t := by
  unfold Remembers
  rcases lt_trichotomy f.focusAbsPosNP.value (t.toNat : Int) with hlt | heq | hgt
  · have hnot : ¬ (t.toNat : Int) < f.focusAbsPosNP.value := by omega
    rw [(compensate_outward hlt).2, eq_comm]
    simp only [hlt, hnot, true_imp_iff, false_imp_iff, and_true]
  · simp [compensate_here heq.symm, heq]
  · have hnot : ¬ f.focusAbsPosNP.value < t.toNat := by omega
    cases hon : f.focusBacklashSP with
    | false => simp [compensate_inward_off hgt hon, hnot]
    | true =>
      rw [(compensate_inward hgt hon).2, eq_comm]
      simp only [hgt, hnot, true_imp_iff, false_imp_iff, true_and]

end TicFocuser

namespace World

/-- Requests that are refused find their direction remembered, and relative ones
    no relative move in progress. -/
def RefusedRemembered (w : World) : Event → Prop
  | .moveAbs t ok => w.focuser.Refuses t ok → w.focuser.Remembers t
  | .moveRel dir ticks ok => w.focuser.Refuses (w.focuser.targetTicks dir ticks) ok →
    w.focuser.Remembers (w.focuser.targetTicks dir ticks) ∧ w.focuser.moveRelInitialValue = -1
  | _ => True

/-- The part of both kinds of requests. -/
theorem refused_step {w : World} {e : Event} {t : UInt32} {ok : Bool} (href : w.focuser.Refuses t ok)
    (hcore : (w.step e).core = ⟨(w.focuser.turn t).core, w.afterRequest t ok⟩) :
    ((w.step e).focuser.lastFocusDir = w.focuser.lastFocusDir ↔ w.focuser.Remembers t) ∧
      (w.focuser.Remembers t → ∀ es, Run.outputs step sends (w.step e) es = Run.outputs step sends w es) := by
  have hctl : w.afterRequest t ok = w.controller := by
    rw [afterRequest, TicFocuser.answer_alert_iff.mpr href]
    rfl
  have hdir : (w.step e).focuser.lastFocusDir = (w.focuser.compensate t).2 :=
    congrArg (fun w => w.focuser.lastFocusDir) hcore
  refine ⟨by rw [hdir]; exact TicFocuser.turned_iff _ _, ?_⟩
  intro hrem
  apply sends_congr
  have hturn : w.focuser.turn t = w.focuser := by
    rw [TicFocuser.turn, (TicFocuser.turned_iff _ _).mpr hrem]
  rw [hcore, hctl, hturn]
  rfl

/-- **Refusals.** A refused request leaves the memory of the driver intact, over
    every continuation, if and only if its direction was remembered already. -/
theorem refused_intact_iff (w : World) (e : Event) : w.RefusedIntact e ↔ w.RefusedRemembered e := by
  cases e with
  | moveAbs t ok =>
    have hans : (w.respond (.moveAbs t ok)).1 = some .alert ↔ w.focuser.Refuses t ok := by
      rw [respond_moveAbs, Option.some.injEq]
      exact TicFocuser.answer_alert_iff
    rw [RefusedIntact, hans]
    apply imp_congr_right
    intro href
    obtain ⟨hdir, hsends⟩ := refused_step (e := .moveAbs t ok) href (by rw [step, respond_moveAbs]; rfl)
    rw [hdir]
    apply Iff.intro
    · intro ⟨hrem, _, _⟩
      exact hrem
    · intro hrem
      refine ⟨hrem, ?_, hsends hrem⟩
      intro dir ticks ok' he
      cases he
  | moveRel dir ticks ok =>
    have hans : (w.respond (.moveRel dir ticks ok)).1 = some .alert ↔
        w.focuser.Refuses (w.focuser.targetTicks dir ticks) ok := by
      rw [respond_moveRel, Option.some.injEq]
      exact TicFocuser.answer_alert_iff
    rw [RefusedIntact, hans]
    apply imp_congr_right
    intro href
    obtain ⟨hdir, hsends⟩ := refused_step (e := .moveRel dir ticks ok) href (by rw [step, respond_moveRel]; rfl)
    have hreset : (w.step (.moveRel dir ticks ok)).focuser.moveRelInitialValue = -1 := by
      rw [step, respond_moveRel, TicFocuser.answer_alert_iff.mpr href]
      rfl
    rw [hdir]
    apply Iff.intro
    · intro ⟨hrem, hval, _⟩
      have hkept := hval dir ticks ok rfl
      rw [hreset] at hkept
      exact ⟨hrem, hkept.symm⟩
    · intro ⟨hrem, hval⟩
      refine ⟨hrem, ?_, hsends hrem⟩
      intro _ _ _ _
      rw [hval]
      exact hreset
  | _ => exact iff_of_true (fun h => by cases h) trivial

/-- Asked for 2000 with limits 0 and 1000 and compensation off, at 0: refused, and
    the driver remembers outward. -/
theorem refused_turns :
    ¬ RefusedIntact atZero (.moveAbs 2000 true) := by
  intro h
  obtain ⟨hdir, -, -⟩ := h (by decide)
  exact absurd hdir (by decide)

end World

end TicFocuserNG
