import TicFocuserNG.System

/- What the client is told and what the controller does.

   1. `requests_agree_iff`: a request answered ok or busy leaves the controller
      headed for that request's target, or at rest at it, exactly when the
      request does not name the position last polled while the controller is on
      its way elsewhere. `MoveAbsFocuser` returns ok for that position without
      looking at what was last sent (`passing_request`).
   2. `busy_commanded_iff`: the absolute position is busy only under a move the
      controller accepted last, exactly when no sync is accepted while it is
      busy. `SyncFocuser` halts the controller and leaves the state
      (`sync_stays_busy`).

   Both are about all runs: requests, aborts, syncs, polls, changes of the
   backlash setting and motions of the controller, in any order, each command
   and poll succeeding or failing. -/
namespace TicFocuserNG
namespace World

/-! Requests and the controller's goal. -/

/-- A request not answered with alert leaves the controller headed for the
    target computed for it (the requested position, or the one the backlash beyond
    it), or at rest at the requested position. -/
def Agrees (w : World) (e : Event) : Prop :=
  ∀ t, w.requested e = some t → (w.respond e).1 ≠ some .alert →
    (w.step e).controller.HeadedFor (Int32.ofInt (w.focuser.goal t)) ∨
      (w.step e).controller.AtRest t.toInt32

/-- A request for the position last polled finds the controller headed for it,
    or at rest at it. -/
def NotPassing (w : World) (e : Event) : Prop :=
  ∀ t, w.requested e = some t → (t.toNat : Int) = w.focuser.focusAbsPosNP.value →
    w.controller.HeadedFor t.toInt32 ∨ w.controller.AtRest t.toInt32

theorem respond_request {w : World} {e : Event} {t : UInt32} (h : w.requested e = some t) :
    ∃ ok, (w.respond e).1 = some (w.focuser.answer t ok) ∧
      (w.step e).controller = w.afterRequest t ok := by
  cases e with
  | moveAbs ticks ok =>
    obtain rfl : ticks = t := by simpa [requested] using h
    exact ⟨ok, by simp [respond_moveAbs], by simp [step, respond_moveAbs]⟩
  | moveRel dir ticks ok =>
    obtain rfl : w.focuser.targetTicks dir ticks = t := by simpa [requested] using h
    exact ⟨ok, by simp [respond_moveRel], by simp [step, respond_moveRel]⟩
  | _ => simp [requested] at h

theorem agrees_iff (w : World) (e : Event) : w.Agrees e ↔ w.NotPassing e := by
  apply Iff.intro
  · intro h t ht hpos
    obtain ⟨ok, hans, hctl⟩ := respond_request ht
    have hok : w.focuser.answer t ok = .ok := TicFocuser.answer_here hpos ok
    have hgoal : w.focuser.goal t = t.toNat := if_pos hpos
    have := h t ht (by simp [hans, hok])
    simpa [hctl, afterRequest, hok, hgoal, ← TicFocuser.toInt32_ofInt] using this
  · intro h t ht hans'
    obtain ⟨ok, hans, hctl⟩ := respond_request ht
    rw [hctl, afterRequest]
    cases hres : w.focuser.answer t ok with
    | ok =>
      -- nothing is sent: the controller keeps what it was doing
      have hpos := TicFocuser.answer_ok_iff.mp hres
      have hgoal : w.focuser.goal t = t.toNat := if_pos hpos
      simpa [hgoal, ← TicFocuser.toInt32_ofInt] using h t ht hpos
    | busy =>
      have hsent : (w.focuser.compensate t).1.toInt32 = Int32.ofInt (w.focuser.goal t) := by
        rw [TicFocuser.toInt32_ofInt, TicFocuser.compensate_goal]
      exact .inl (by simp [Controller.HeadedFor, Controller.accept, hsent])
    | alert =>
      have hrefused : (w.respond e).1 = some .alert := by rw [hans, hres]
      exact absurd hrefused hans'
    | idle => unfold TicFocuser.answer at hres; split at hres <;> (try split at hres) <;> cases hres

/-- In every run, all requests agree with the controller exactly when none
    names a position the controller is passing. -/
theorem requests_agree_iff (w : World) (es : List Event) :
    Run.Each step Agrees w es ↔ Run.Each step NotPassing w es :=
  Run.each_congr agrees_iff

/-- Sent to 100, polled at 50 on the way, asked for 50: ok, and on to 100. -/
theorem passing_request :
    ¬ Run.Each step Agrees atZero [.moveAbs 100 true, .advance 50, .poll true, .moveAbs 50 true] := by
  rintro ⟨-, -, -, h50, -⟩
  exact absurd (h50 50 rfl (by decide)) (by decide)

/-! Busy and the last command. -/

/-- Busy only if the motion command accepted last is a SetTargetPosition. -/
def Commanded (w : World) : Prop :=
  w.focuser.focusAbsPosNP.state = .busy → ∃ p, w.controller.commands.head? = some (.setTargetPosition p)

/-- No sync is accepted while the absolute position is busy. -/
def SyncsNotBusy (w : World) (e : Event) : Prop :=
  ∀ ticks, e = .sync ticks true → w.focuser.focusAbsPosNP.state ≠ .busy

theorem received_state (vars : TicVariables) (f : TicFocuser) :
    (f.received vars).focusAbsPosNP.state = f.focusAbsPosNP.state ∨
      (f.received vars).focusAbsPosNP.state = .ok := by
  unfold TicFocuser.received
  simp only
  split
  · split
    · exact .inr rfl
    · split <;> exact .inl rfl
  · exact .inl rfl

theorem afterRequest_busy {w : World} {t : UInt32} {ok : Bool} (h : w.focuser.answer t ok = .busy) :
    ∃ p, (w.afterRequest t ok).commands.head? = some (.setTargetPosition p) := by
  simp [afterRequest, h, Controller.accept]

theorem commanded_sync (w : World) (t : UInt32) :
    (w.step (.sync t true)).Commanded ↔ w.focuser.focusAbsPosNP.state ≠ .busy := by
  simp [Commanded, step, respond_sync, Controller.accept]

theorem commanded_other {w : World} {e : Event} (h : w.Commanded) (he : ∀ t, e ≠ .sync t true) :
    (w.step e).Commanded := by
  intro hb
  cases e with
  | moveAbs t ok =>
    simp only [step, respond_moveAbs] at hb ⊢
    exact afterRequest_busy hb
  | moveRel dir t ok =>
    simp only [step, respond_moveRel] at hb ⊢
    exact afterRequest_busy hb
  | abort ok =>
    cases ok
    · exact h hb
    · cases hb
  | sync t ok =>
    cases ok
    · exact h hb
    · exact absurd rfl (he t)
  | poll ok =>
    simp only [step, respond_poll] at hb ⊢
    refine h ?_
    split at hb
    · split at hb
      · rcases received_state w.controller.report w.focuser with hs | hs
        · rwa [hs] at hb
        · rw [hs] at hb; cases hb
      · exact hb
    · exact hb
  | advance n =>
    obtain ⟨p, hp⟩ := h hb
    refine ⟨p, ?_⟩
    -- a motion is no command
    show (w.controller.advance n).commands.head? = _
    unfold Controller.advance
    split <;> exact hp
  | setBacklash enabled steps => exact h hb
  | relocate position target => exact h hb

/-- A step keeps `Commanded` exactly when it is no sync accepted while busy. -/
theorem commanded_step (w : World) (e : Event) (h : w.Commanded) :
    (w.step e).Commanded ↔ w.SyncsNotBusy e := by
  by_cases he : ∃ t, e = .sync t true
  · obtain ⟨t, rfl⟩ := he
    rw [commanded_sync]
    apply Iff.intro
    · intro hs _ _
      exact hs
    · intro hs
      exact hs t rfl
  · have hne : ∀ t, e ≠ .sync t true := by
      intro t ht
      exact he ⟨t, ht⟩
    apply iff_of_true (commanded_other h hne)
    intro t ht
    exact absurd ht (hne t)

/-- In every run, busy always means commanded to move exactly when no sync is
    accepted while busy. -/
theorem busy_commanded_iff (w : World) (es : List Event) :
    Run.Always step Commanded w.start es ↔ Run.Each step SyncsNotBusy w.start es :=
  Run.always_iff_each commanded_step es (fun h => by cases h)

/-- Sent to 100 and synced on the way: still busy, and the halt came last. -/
theorem sync_stays_busy :
    ¬ Run.Always step Commanded atZero.start [.moveAbs 100 true, .advance 50, .sync 0 true] := by
  intro h
  obtain ⟨p, hp⟩ := h.last (by decide)
  exact absurd hp (by simp [atZero, start, step, respond, TicFocuser.syncFocuser, Controller.interface,
    Controller.command, Controller.accept])

end World
end TicFocuserNG
