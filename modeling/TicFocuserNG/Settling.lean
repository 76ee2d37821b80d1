import TicFocuserNG.Agreement
import TicFocuserNG.Drift
import TicFocuserNG.Refusals

/- An absolute request made again once it is complete.

   `positioning_settles_iff`: the position polled at the end of a request for `t`
   is the target that was sent for it, so that asking for `t` again is answered
   ok, sends nothing and changes nothing, any number of times, exactly when that
   target was `t` itself. Where compensation made it another one, the request
   made again is a reversal in turn, compensated the other way. -/
namespace TicFocuserNG
namespace World

/-- What follows an absolute request for `t`: motions and polls, until the
    controller is at its target. -/
structure Trip (w : World) (t : UInt32) where
  underway : List Event
  quiet : ∀ e ∈ underway, (∃ n, e = .advance n) ∨ ∃ ok, e = .poll ok
  arrives : (underway.foldl step (w.step (.moveAbs t true))).controller.position =
    (underway.foldl step (w.step (.moveAbs t true))).controller.target

/-- The system at the end of the trip: a poll has seen the controller there. -/
def Trip.ends {w : World} {t : UInt32} (trip : w.Trip t) : World :=
  (trip.underway.foldl step (w.step (.moveAbs t true))).step (.poll true)

/-- Requests for `t`, one after the other, are answered ok, send nothing and
    change nothing. -/
def Settled (w : World) (t : UInt32) : Prop :=
  ∀ oks : List Bool,
    Run.Each step (fun w e => (w.respond e).1 = some .ok) w (oks.map (.moveAbs t)) ∧
    Run.outputs step sends w (oks.map (.moveAbs t)) = [] ∧
    (oks.map (.moveAbs t)).foldl step w = w

/-! ## The end of a trip -/

/-- Under way or complete. -/
def Underway (w : World) : Prop := w.focuser.focusAbsPosNP.state = .busy ∨ w.focuser.focusAbsPosNP.state = .ok

theorem underway_step {w : World} (h : w.Underway) {e : Event} (he : (∃ n, e = .advance n) ∨ ∃ ok, e = .poll ok) :
    (w.step e).Underway := by
  rcases he with ⟨n, rfl⟩ | ⟨ok, rfl⟩
  · exact h
  · rw [Underway, step, respond_poll]
    split
    · cases ok with
      | false => exact h
      | true =>
        rcases received_state w.controller.report w.focuser with hs | hs
        · simp only [if_true, hs]
          exact h
        · exact .inr hs
    · exact h

theorem received_complete {vars : TicVariables} {f : TicFocuser} (hvars : vars.currentPosition = vars.targetPosition)
    (h : f.focusAbsPosNP.state = .busy ∨ f.focusAbsPosNP.state = .ok) :
    (f.received vars).focusAbsPosNP.state = .ok := by
  rcases h with hb | ho
  · simp [TicFocuser.received, hb, hvars]
  · simp [TicFocuser.received, ho]

theorem bound_moveAbs {w : World} {t : UInt32} (hbusy : w.focuser.answer t true = .busy) :
    (w.step (.moveAbs t true)).Bound (w.focuser.turn t) (w.focuser.compensate t).1.toInt32 := by
  rw [step, respond_moveAbs, afterRequest, if_pos hbusy]
  exact ⟨rfl, rfl, rfl, rfl, rfl, .inl ⟨rfl, rfl⟩⟩

/-- The settings are those of the request, the property is ok, and the position
    polled is the target sent. -/
theorem trip_ends {w : World} {t : UInt32} (hcon : w.focuser.connected = true)
    (hbusy : w.focuser.answer t true = .busy) (trip : w.Trip t) :
    trip.ends.Bound (w.focuser.turn t) (w.focuser.compensate t).1.toInt32 ∧
      trip.ends.focuser.focusAbsPosNP.state = .ok ∧
      trip.ends.focuser.focusAbsPosNP.value = (w.focuser.compensate t).1.toInt32.toInt := by
  have hb := bound_run (bound_moveAbs hbusy) trip.quiet
  have hu : (trip.underway.foldl step (w.step (.moveAbs t true))).Underway := by
    apply List.foldlRecOn trip.underway step
    · rw [Underway, step, respond_moveAbs, hbusy]
      exact .inl rfl
    · intro w' hw' e he
      exact underway_step hw' (trip.quiet e he)
  have hpos : (trip.underway.foldl step (w.step (.moveAbs t true))).controller.position =
      (w.focuser.compensate t).1.toInt32 := by
    rcases hb.going with hgo | hrest
    · rw [trip.arrives]
      exact hgo.2
    · exact hrest.1
  have hcon' : (trip.underway.foldl step (w.step (.moveAbs t true))).focuser.connected = true :=
    hb.connected.trans hcon
  refine ⟨bound_step hb (.inr ⟨true, rfl⟩), ?_, ?_⟩
  · rw [Trip.ends, step, respond_poll, hcon']
    exact received_complete trip.arrives hu
  · rw [Trip.ends, step, respond_poll, hcon']
    simp only [if_true]
    rw [(received_keeps _ _).2.2.2.2.2]
    exact congrArg Int32.toInt hpos

/-! ## The request again -/

theorem settled_of_here {w : World} {t : UInt32} (hstate : w.focuser.focusAbsPosNP.state = .ok)
    (hpos : (t.toNat : Int) = w.focuser.focusAbsPosNP.value) : w.Settled t := by
  have hans : ∀ ok, w.focuser.answer t ok = .ok := TicFocuser.answer_here hpos
  have hstep : ∀ ok, w.step (.moveAbs t ok) = w := by
    intro ok
    have hturn : w.focuser.turn t = w.focuser := by rw [TicFocuser.turn, TicFocuser.compensate_here hpos]
    have hset : w.focuser.setAbsState .ok = w.focuser := by
      rw [← hstate]
      rfl
    rw [step, respond_moveAbs, hans, hturn, hset, afterRequest, hans]
    rfl
  intro oks
  induction oks with
  | nil => exact ⟨trivial, rfl, rfl⟩
  | cons ok oks ih =>
    obtain ⟨heach, hout, hend⟩ := ih
    simp only [List.map_cons, Run.Each, Run.outputs, List.foldl_cons, hstep]
    refine ⟨⟨by rw [respond_moveAbs, hans], heach⟩, ?_, hend⟩
    rw [hout, sends, TicFocuser.moveAbsFocuser_recorder]
    simp [hpos]

theorem here_of_settled {w : World} {t : UInt32} (h : w.Settled t) :
    (t.toNat : Int) = w.focuser.focusAbsPosNP.value := by
  have hok : (w.respond (.moveAbs t true)).1 = some .ok := (h [true]).1.1
  rw [respond_moveAbs, Option.some.injEq] at hok
  exact TicFocuser.answer_ok_iff.mp hok

/-- From the overshoot of a reversal for `t`, `t` lies the other way again. -/
theorem reverses_back {f f' : TicFocuser} {t : UInt32} (hin : f.limits.Contains t.toNat)
    (hne : (t.toNat : Int) ≠ f.focusAbsPosNP.value) (hrev : f.Reverses t) (hover : f.aim t ≠ t.toNat)
    (hon : f'.focusBacklashSP = f.focusBacklashSP) (hdir : f'.lastFocusDir = (f.compensate t).2)
    (hpos : f'.focusAbsPosNP.value = f.aim t) : f'.Reverses t := by
  refine ⟨hon.trans hrev.1, ?_⟩
  rw [hdir, TicFocuser.direction, hpos]
  by_cases hlt : f.focusAbsPosNP.value < t.toNat
  · have hfar := TicFocuser.le_aim hlt hin.2
    rw [(TicFocuser.compensate_outward hlt).2, if_neg (by omega)]
    decide
  · have hgt : (t.toNat : Int) < f.focusAbsPosNP.value := by omega
    have hfar := TicFocuser.aim_le hgt hin.1
    rw [(TicFocuser.compensate_inward hgt hrev.1).2, if_pos (by omega)]
    decide

/-- A reversal to a target in range goes to the compensated one, within the limits. -/
theorem sends_reversal {s : World} {t : UInt32} (hin : s.focuser.limits.Contains t.toNat)
    (hne : (t.toNat : Int) ≠ s.focuser.focusAbsPosNP.value) (hrev : s.focuser.Reverses t) (ok : Bool) :
    ∃ v, s.sends (.moveAbs t ok) = [v] ∧ v.toInt = s.focuser.compensated t ∧ s.focuser.limits.Contains v.toInt := by
  have haim : s.focuser.aim t = s.focuser.compensated t := if_pos hrev
  have hin' : s.focuser.limits.Contains (s.focuser.aim t) := (TicFocuser.contains_aim _ _).mpr (.inl hin)
  have hto := TicFocuser.toInt_sent hne hin'
  refine ⟨(s.focuser.compensate t).1.toInt32, ?_, by rw [hto, haim], by rw [hto]; exact hin'⟩
  rw [sends, TicFocuser.moveAbsFocuser_recorder]
  exact if_pos ⟨hne, hin'⟩

/-- **Settling.** At the end of a request for `t` in range, asking for `t` again
    does nothing, however often, if and only if the request was not compensated
    to another target; if it was, asking again is a reversal, compensated to the
    other side within the limits. -/
theorem positioning_settles_iff (w : World) (hcon : w.focuser.connected = true) (t : UInt32)
    (hin : w.focuser.limits.Contains t.toNat) (hsent : (w.respond (.moveAbs t true)).1 = some .busy) (trip : w.Trip t) :
    trip.ends.focuser.focusAbsPosNP.value = w.focuser.aim t ∧
    (trip.ends.Settled t ↔ w.focuser.Reverses t → w.focuser.compensated t = t.toNat) ∧
    (¬ trip.ends.Settled t → ∀ ok, trip.ends.focuser.Reverses t ∧
      ∃ v, trip.ends.sends (.moveAbs t ok) = [v] ∧ v.toInt = trip.ends.focuser.compensated t ∧
        w.focuser.limits.Contains v.toInt) := by
  have hbusy : w.focuser.answer t true = .busy := by
    rw [respond_moveAbs] at hsent
    exact Option.some.inj hsent
  have hne := (TicFocuser.answer_busy_iff.mp hbusy).1
  obtain ⟨hbound, hstate, hvalue⟩ := trip_ends hcon hbusy trip
  have haim : w.focuser.limits.Contains (w.focuser.aim t) := (TicFocuser.contains_aim _ _).mpr (.inl hin)
  rw [TicFocuser.toInt_sent hne haim] at hvalue
  have hiff : trip.ends.Settled t ↔ w.focuser.aim t = t.toNat := by
    rw [eq_comm, ← hvalue]
    exact ⟨here_of_settled, settled_of_here hstate⟩
  refine ⟨hvalue, ?_, ?_⟩
  · rw [hiff, TicFocuser.aim]
    split
    · next hrev => simp [hrev]
    · next hrev => simp [hrev]
  · intro hnot ok
    rw [hiff] at hnot
    have hrev : w.focuser.Reverses t := by
      by_contra hrev
      exact hnot (if_neg hrev)
    have hmoved : w.focuser.aim t = w.focuser.compensated t := if_pos hrev
    have hlimits : trip.ends.focuser.limits = w.focuser.limits := hbound.limits
    have hturned : trip.ends.focuser.lastFocusDir = (w.focuser.compensate t).2 := hbound.lastFocusDir
    have hne' : (t.toNat : Int) ≠ trip.ends.focuser.focusAbsPosNP.value := by
      rw [hvalue]
      exact fun h => hnot h.symm
    have hback : trip.ends.focuser.Reverses t :=
      reverses_back hin hne hrev hnot hbound.compensating hturned hvalue
    have hin' : trip.ends.focuser.limits.Contains t.toNat := by
      rw [hlimits]
      exact hin
    rw [← hlimits]
    exact ⟨hback, sends_reversal hin' hne' hback ok⟩

/-- To 100 from 0 with a backlash of 10, in one go. -/
def outTo100 : compensatingAtZero.Trip 100 where
  underway := [.advance 200]
  quiet := by simp
  arrives := by decide

theorem positioning_settles_outTo100 :
    compensatingAtZero.focuser.connected = true ∧ compensatingAtZero.focuser.limits.Contains (100 : UInt32).toNat ∧
      (compensatingAtZero.respond (.moveAbs 100 true)).1 = some .busy ∧
      outTo100.ends.focuser.focusAbsPosNP.value = compensatingAtZero.focuser.aim 100 ∧
      (outTo100.ends.Settled 100 ↔
        compensatingAtZero.focuser.Reverses 100 →
          compensatingAtZero.focuser.compensated 100 = (100 : UInt32).toNat) ∧
      (¬ outTo100.ends.Settled 100 → ∀ ok, outTo100.ends.focuser.Reverses 100 ∧
        ∃ v, outTo100.ends.sends (.moveAbs 100 ok) = [v] ∧
          v.toInt = outTo100.ends.focuser.compensated 100 ∧
          compensatingAtZero.focuser.limits.Contains v.toInt) := by
  have hcon : compensatingAtZero.focuser.connected = true := rfl
  have hin : compensatingAtZero.focuser.limits.Contains (100 : UInt32).toNat := by decide
  have hsent : (compensatingAtZero.respond (.moveAbs 100 true)).1 = some .busy := by decide
  exact ⟨hcon, hin, hsent, positioning_settles_iff compensatingAtZero hcon 100 hin hsent outTo100⟩

/-- It ends at 110, and asked for 100 again does not stay there. -/
theorem outTo100_unsettled :
    compensatingAtZero.focuser.limits.Contains (100 : UInt32).toNat ∧
      (compensatingAtZero.respond (.moveAbs 100 true)).1 = some .busy ∧ ¬ outTo100.ends.Settled 100 := by
  refine ⟨by decide, by decide, ?_⟩
  intro h
  exact absurd (here_of_settled h) (by decide)

end World

end TicFocuserNG
