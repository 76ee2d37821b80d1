import TicFocuserNG.System

/- `moveRelInitialValue` and the relative move it stands for.

   A run is followed by a record of its own: the position the relative move in
   progress started from, kept from the request that sent its target until a
   poll reports the controller at its target, an absolute request sends another
   target, or an abort or a sync is accepted (`Tracked`). The driver writes its
   member in two places only, so the member follows the record in exactly the
   runs whose steps never end a relative move in another way
   (`rel_tracking_iff`); there `TimerHit` rewrites the relative position only
   under a relative move. `abort_leaves_rel_value` is the shortest run where
   they part. -/
namespace TicFocuserNG

/-- The system, and where the relative move in progress started. -/
structure Tracked where
  world : World
  relMove : Option Int

namespace Tracked

def track (s : Tracked) (e : Event) : Tracked where
  world := s.world.step e
  relMove := match e with
    | .moveAbs t ok => if s.world.focuser.answer t ok = .busy then none else s.relMove
    | .moveRel dir t ok =>
      if s.world.focuser.answer (s.world.focuser.targetTicks dir t) ok = .busy then
        some s.world.focuser.focusAbsPosNP.value
      else s.relMove
    | .abort ok => if ok then none else s.relMove
    | .sync _ ok => if ok then none else s.relMove
    | .poll ok =>
      if s.world.focuser.connected ∧ ok ∧ s.world.controller.position = s.world.controller.target then none
      else s.relMove
    | _ => s.relMove

/-- The member is non-negative exactly under a relative move, and is then the
    position the move started from. -/
def Follows (s : Tracked) : Prop :=
  (0 ≤ s.world.focuser.moveRelInitialValue ↔ s.relMove.isSome) ∧
    ∀ p, s.relMove = some p → s.world.focuser.moveRelInitialValue.toInt = p

/-- How a step may treat a relative move: it starts at a position that is an
    `int32_t` and not negative; and while it is in progress no absolute request
    sends a target, no relative request goes without sending one, no abort and
    no sync is accepted, and the poll that reports it complete finds the
    property busy. -/
def Spares (s : Tracked) : Event → Prop
  | .moveAbs t ok => s.world.focuser.answer t ok = .busy → s.relMove = none
  | .moveRel dir t ok =>
    if s.world.focuser.answer (s.world.focuser.targetTicks dir t) ok = .busy then
      0 ≤ s.world.focuser.focusAbsPosNP.value ∧ s.world.focuser.focusAbsPosNP.value < 2 ^ 31
    else s.relMove = none
  | .abort ok => ok = true → s.relMove = none
  | .sync _ ok => ok = true → s.relMove = none
  | .poll ok =>
    s.world.focuser.connected ∧ ok = true ∧ s.world.controller.position = s.world.controller.target →
      s.relMove = none ∨ s.world.focuser.focusAbsPosNP.state = .busy
  | _ => True

/-- Without a relative move, a poll leaves the relative position alone. -/
def RelKept (s : Tracked) (e : Event) : Prop :=
  ∀ ok, e = .poll ok → s.relMove = none →
    (s.track e).world.focuser.focusRelPosNP.value = s.world.focuser.focusRelPosNP.value

/-! What a poll does to the two members. -/

theorem received_moveRelInitialValue (vars : TicVariables) (f : TicFocuser) :
    (f.received vars).moveRelInitialValue =
      if f.focusAbsPosNP.state = .busy ∧ vars.currentPosition = vars.targetPosition then -1
      else f.moveRelInitialValue := by
  unfold TicFocuser.received
  by_cases hb : f.focusAbsPosNP.state = .busy
  · by_cases ht : vars.currentPosition = vars.targetPosition
    · simp [hb, ht]
    · simp only [hb, ht, if_true, if_false, and_false]
      split <;> rfl
  · simp [hb]

theorem received_relPos (vars : TicVariables) (f : TicFocuser) (h : ¬ 0 ≤ f.moveRelInitialValue) :
    (f.received vars).focusRelPosNP.value = f.focusRelPosNP.value := by
  unfold TicFocuser.received
  simp only [h, if_false]
  split
  · split <;> rfl
  · rfl

/-! One step. -/

theorem neg_one_lt : ¬ (0 : Int32) ≤ -1 := by decide

theorem follows_none {w : World} : Follows ⟨w, none⟩ ↔ ¬ 0 ≤ w.focuser.moveRelInitialValue := by
  simp [Follows]

theorem follows_some {w : World} {p : Int} :
    Follows ⟨w, some p⟩ ↔ 0 ≤ p ∧ w.focuser.moveRelInitialValue.toInt = p := by
  simp only [Follows, Option.isSome_some, iff_true, Option.some.injEq, forall_eq',
    Int32.le_iff_toInt_le, Int32.toInt_zero]
  apply Iff.intro
  · intro ⟨h0, hp⟩
    rw [hp] at h0
    exact ⟨h0, hp⟩
  · intro ⟨h0, hp⟩
    rw [hp]
    exact ⟨h0, rfl⟩

/-- A step that keeps the member and ends the move keeps `Follows` exactly when
    there was no move. -/
theorem follows_ended {s : Tracked} {w : World} (h : s.Follows)
    (hm : w.focuser.moveRelInitialValue = s.world.focuser.moveRelInitialValue) :
    Follows ⟨w, none⟩ ↔ s.relMove = none := by
  rw [follows_none, hm, h.1]
  cases s.relMove <;> simp

/-- A step that changes neither keeps `Follows`. -/
theorem follows_same {s : Tracked} {w : World} (h : s.Follows)
    (hm : w.focuser.moveRelInitialValue = s.world.focuser.moveRelInitialValue) :
    Follows ⟨w, s.relMove⟩ := by
  unfold Follows at h ⊢
  simpa only [hm] using h

theorem follows_moveAbs {s : Tracked} (h : s.Follows) (t : UInt32) (ok : Bool) :
    (s.track (.moveAbs t ok)).Follows ↔ s.Spares (.moveAbs t ok) := by
  have hm : (s.world.step (.moveAbs t ok)).focuser.moveRelInitialValue =
      s.world.focuser.moveRelInitialValue := by
    simp [World.step, World.respond_moveAbs, TicFocuser.turn]
  simp only [track, Spares]
  by_cases hb : s.world.focuser.answer t ok = .busy
  · simp only [hb, if_true, forall_const]
    exact follows_ended h hm
  · simp only [hb, if_false, false_imp_iff, iff_true]
    exact follows_same h hm

theorem follows_moveRel (s : Tracked) (dir : FocusDirection) (t : UInt32) (ok : Bool) :
    (s.track (.moveRel dir t ok)).Follows ↔ s.Spares (.moveRel dir t ok) := by
  simp only [track, Spares]
  by_cases hb : s.world.focuser.answer (s.world.focuser.targetTicks dir t) ok = .busy
  · simp only [hb, if_true]
    rw [follows_some]
    simp only [World.step, World.respond_moveRel, hb, if_true, TicFocuser.setAbsState_moveRelInitialValue]
    apply Iff.intro
    · intro ⟨h0, hp⟩
      -- what the member holds is an `int32_t`
      have hlt := (Int32.ofInt s.world.focuser.focusAbsPosNP.value).toInt_lt
      rw [hp] at hlt
      exact ⟨h0, hlt⟩
    · intro ⟨h0, hlt⟩
      exact ⟨h0, Int32.toInt_ofInt_of_le (by omega) hlt⟩
  · -- not sent: the member is reset all the same
    simp only [hb, if_false]
    cases hr : s.relMove with
    | none =>
      rw [follows_none]
      simp [World.step, World.respond_moveRel, hb, neg_one_lt]
    | some p =>
      rw [follows_some]
      simp [World.step, World.respond_moveRel, hb]
      omega

theorem follows_poll {s : Tracked} (h : s.Follows) (ok : Bool) :
    (s.track (.poll ok)).Follows ↔ s.Spares (.poll ok) := by
  simp only [track, Spares]
  by_cases hd : s.world.focuser.connected ∧ ok = true ∧ s.world.controller.position = s.world.controller.target
  · obtain ⟨hc, rfl, hp⟩ := hd
    have hm : (s.world.step (.poll true)).focuser.moveRelInitialValue =
        if s.world.focuser.focusAbsPosNP.state = .busy then -1
        else s.world.focuser.moveRelInitialValue := by
      simp [World.step, World.respond_poll, hc, received_moveRelInitialValue, Controller.report, hp]
    simp only [hc, hp, and_self, if_true, forall_const]
    -- complete: the member is reset in the busy branch of `TimerHit` only
    by_cases hb : s.world.focuser.focusAbsPosNP.state = .busy
    · simp only [hb, or_true, iff_true]
      rw [follows_none, hm, if_pos hb]
      exact neg_one_lt
    · simp only [hb, or_false]
      exact follows_ended h (by rw [hm, if_neg hb])
  · simp only [hd, if_false, false_imp_iff, iff_true]
    apply follows_same h
    simp only [World.step, World.respond_poll]
    split
    · split
      · rw [received_moveRelInitialValue, if_neg]
        intro ⟨_, hp⟩
        exact hd ⟨‹_›, ‹_›, hp⟩
      · rfl
    · rfl

theorem follows_step (s : Tracked) (e : Event) (h : s.Follows) : (s.track e).Follows ↔ s.Spares e := by
  cases e with
  | moveAbs t ok => exact follows_moveAbs h t ok
  | moveRel dir t ok => exact follows_moveRel s dir t ok
  | abort ok =>
    cases ok
    · simp only [track, Spares]
      exact iff_of_true (follows_same h rfl) (by simp)
    · simp only [track, Spares, if_true, forall_const]
      exact follows_ended h rfl
  | sync t ok =>
    cases ok
    · simp only [track, Spares]
      exact iff_of_true (follows_same h rfl) (by simp)
    · simp only [track, Spares, if_true, forall_const]
      exact follows_ended h rfl
  | poll ok => exact follows_poll h ok
  | setBacklash enabled steps => exact iff_of_true (follows_same h rfl) trivial
  | advance n => exact iff_of_true (follows_same h rfl) trivial
  | relocate position target => exact iff_of_true (follows_same h rfl) trivial

theorem relKept_of_follows {s : Tracked} {e : Event} (h : s.Follows) : s.RelKept e := by
  intro ok he hnone
  subst he
  have hneg : ¬ 0 ≤ s.world.focuser.moveRelInitialValue := by
    rw [h.1, hnone]
    simp
  simp only [track, World.step, World.respond_poll]
  split
  · split
    · exact received_relPos _ _ hneg
    · rfl
  · rfl

/-! Whole runs. -/

/-- The driver from its constructor on, no move in progress. -/
def start (w : World) : Tracked := ⟨w.start, none⟩

theorem follows_start (w : World) : (start w).Follows := by
  rw [start, follows_none]; exact neg_one_lt

/-- In every run, `moveRelInitialValue` follows the relative move in progress
    exactly when every step spares it; and then polls rewrite the relative
    position only while a relative move is in progress. -/
theorem rel_tracking_iff (w : World) (es : List Event) :
    (Run.Always track Follows (start w) es ↔ Run.Each track Spares (start w) es) ∧
      (Run.Each track Spares (start w) es → Run.Each track RelKept (start w) es) := by
  have hiff := Run.always_iff_each follows_step es (follows_start w)
  refine ⟨hiff, ?_⟩
  intro h
  have hrun : Run.Always track Follows (start w) es := hiff.mpr h
  exact Run.Always.each (fun _ _ => relKept_of_follows) hrun

/-- A relative move aborted on its way: the member keeps its value. -/
theorem abort_leaves_rel_value :
    ¬ Run.Always track Follows (start World.atZero) [.moveRel .outward 100 true, .abort true] := by
  intro h
  exact absurd (h.last.1.mp (by decide)) (by decide)

end Tracked
end TicFocuserNG
