import TicFocuserNG.InfoTab

/- What the driver logs.

   `DriverCall` is what is asked of a `TicFocuser`: the requests, timed moves, which it
   does not support, the parking mode, and to connect and disconnect. What fails is logged with the message
   of the interface, every time. A poll that fails is logged when the one before did not
   (`lastTimerHitError`). `failures_logged_once`: over any run there is an error line for
   each call that was refused and for each outage of the polls, and no others. -/
namespace TicFocuserNG

/-- `res` is what `Focuser::Connect` and `Focuser::Disconnect` return. -/
inductive DriverCall where
  | request (r : Request)
  | moveFocuser (dir : FocusDirection) (speed : Int32) (duration : UInt16)
  | setParkingMode (enabled : Bool)
  | connect (res : Bool)
  | disconnect (res : Bool)
  deriving DecidableEq, Repr

/-- `LOG_INFO` and `LOG_ERROR`. -/
inductive LogLine where
  | info (text : String)
  | error (text : String)
  deriving DecidableEq, Repr

def LogLine.isError : LogLine → Bool
  | .info _ => false
  | .error _ => true

namespace TicFocuser
variable {σ : Type} (drv : TicDriverInterface σ) (getLastErrorMsg : σ → String)

/-- The difference is printed as an `int`. -/
def backlashLog (ticks : UInt32) (f : TicFocuser) : List LogLine :=
  let difference := String.ofList (decimal ((f.compensate ticks).1 - ticks).toInt32)
  if f.focusAbsPosNP.value < ticks.toNat then
    if f.lastFocusDir = .inward ∧ f.focusBacklashSP then [.info ("Apply backlash (in->out): +" ++ difference)] else []
  else if ticks.toNat < f.focusAbsPosNP.value ∧ f.focusBacklashSP then
    if f.lastFocusDir = .outward then [.info ("Apply backlash (out->in): " ++ difference)] else []
  else []

def moveAbsLog (ticks : UInt32) (f : TicFocuser) (c : σ) : List LogLine :=
  if (ticks.toNat : Int) = f.focusAbsPosNP.value then []
  else
    let sent := (f.compensate ticks).1
    f.backlashLog ticks ++
      if (sent.toNat : Int) < f.limits.min ∨ f.limits.max < (sent.toNat : Int) then
        [.error ("Requested position is out of range: " ++ String.ofList (decimal sent.toInt32))]
      else
        match drv.setTargetPosition sent.toInt32 c with
        | (false, c) => [.error ("Cannot set target position. Error: " ++ getLastErrorMsg c)]
        | (true, _) => []

def energizeLog (c : σ) : List LogLine :=
  match drv.energize c with
  | (false, c) => [.error ("Cannot energize motor. Error: " ++ getLastErrorMsg c)]
  | (true, c) =>
    match drv.exitSafeStart c with
    | (false, c) => [.error ("Cannot exit safe start. Error: " ++ getLastErrorMsg c)]
    | (true, _) => []

def deenergizeLog (c : σ) : List LogLine :=
  match drv.deenergize c with
  | (false, c) => [.error ("Cannot de-energize motor. Error: " ++ getLastErrorMsg c)]
  | (true, _) => [.info "Focuser de-energized. You must energize it to resume normal operation."]

def timerHitLog (f : TicFocuser) (c : σ) : List LogLine :=
  if f.connected then
    match drv.getVariables c with
    | (some _, _) => []
    | (none, c) => if f.lastTimerHitError then [] else [.error ("Cannot receive variables: " ++ getLastErrorMsg c)]
  else []

/-- What a request logs. -/
def requestLog (s : TicFocuser × σ) : Request → List LogLine
  | .moveAbs ticks => moveAbsLog drv getLastErrorMsg ticks s.1 s.2
  | .moveRel dir ticks => moveAbsLog drv getLastErrorMsg (s.1.targetTicks dir ticks) s.1 s.2
  | .abort =>
    match drv.haltAndHold s.2 with
    | (false, c) => [.error ("Cannot abort TIC. Error: " ++ getLastErrorMsg c)]
    | (true, _) => []
  | .sync ticks =>
    match drv.haltAndSetPosition ticks.toInt32 s.2 with
    | (false, c) => [.error ("Cannot sync focuser. Error: " ++ getLastErrorMsg c)]
    | (true, _) => []
  | .poll => timerHitLog drv getLastErrorMsg s.1 s.2
  | .setBacklash _ _ => []
  | .energize => energizeLog drv getLastErrorMsg s.2
  | .deenergize => deenergizeLog drv getLastErrorMsg s.2

/-- The object after a call. As `INDI::DefaultDevice` does, it is connected when `Connect`
    succeeded, and not connected when `Disconnect` did. -/
def called (s : TicFocuser × σ) : DriverCall → TicFocuser × σ
  | .request r => Deployment.step drv s r
  | .moveFocuser _ _ _ => s
  | .setParkingMode enabled => ({ s.1 with focusParkingModeSP := enabled }, s.2)
  | .connect res => ({ s.1 with connected := (connect drv res s.2).1 }, (connect drv res s.2).2)
  | .disconnect res => ({ (s.1.disconnect drv s.2).1 with connected := !res }, (s.1.disconnect drv s.2).2)

def logged (s : TicFocuser × σ) : DriverCall → List LogLine
  | .request r => requestLog drv getLastErrorMsg s r
  | .moveFocuser _ _ _ => [.error "Focuser does not support timer based motion."]
  | .setParkingMode _ => []
  | .connect res => if res then energizeLog drv getLastErrorMsg s.2 else []
  | .disconnect _ =>
    if s.1.focusParkingModeSP then moveAbsLog drv getLastErrorMsg 0 s.1 s.2
    else [.info "Parking mode disabled, parking not performed."]

/-- The driver tells the client that it failed. -/
def requestRefused (s : TicFocuser × σ) : Request → Bool
  | .moveAbs ticks => (s.1.moveAbsFocuser drv ticks s.2).1 = .alert
  | .moveRel dir ticks => (s.1.moveRelFocuser drv dir ticks s.2).1 = .alert
  | .abort => !(abortFocuser drv s.2).1
  | .sync ticks => !(syncFocuser drv ticks s.2).1
  | .poll => false
  | .setBacklash _ _ => false
  | .energize => !(energizeFocuser drv s.2).1
  | .deenergize => !(deenergizeFocuser drv s.2).1

/-- A call that fails in part: the motor of a focuser that is connected not energized, or
    one that is disconnected not sent to its parking position. -/
def refused (s : TicFocuser × σ) : DriverCall → Bool
  | .request r => requestRefused drv s r
  | .moveFocuser dir speed duration => moveFocuser dir speed duration = .alert
  | .setParkingMode _ => false
  | .connect res => res && !(energizeFocuser drv s.2).1
  | .disconnect _ => s.1.focusParkingModeSP && (s.1.moveAbsFocuser drv 0 s.2).1 = .alert

/-- Whether a poll received variables. -/
def polled (s : TicFocuser × σ) : DriverCall → List Bool
  | .request .poll => if s.1.connected then [(drv.getVariables s.2).1.isSome] else []
  | _ => []

/-! ## One call -/

theorem backlashLog_quiet (ticks : UInt32) (f : TicFocuser) : (f.backlashLog ticks).countP LogLine.isError = 0 := by
  rw [backlashLog]
  split
  · split <;> rfl
  · split
    · split <;> rfl
    · rfl

theorem moveAbsLog_errors (ticks : UInt32) (f : TicFocuser) (c : σ) :
    (moveAbsLog drv getLastErrorMsg ticks f c).countP LogLine.isError =
      (decide ((f.moveAbsFocuser drv ticks c).1 = .alert)).toNat := by
  by_cases hhere : (ticks.toNat : Int) = f.focusAbsPosNP.value
  · rw [moveAbsLog, if_pos hhere, moveAbsFocuser_here drv c hhere]
    rfl
  · rw [moveAbsLog, if_neg hhere, List.countP_append, backlashLog_quiet, Nat.zero_add]
    rcases moveAbsFocuser_cases drv c hhere with ⟨hr, heq⟩ | ⟨hr, heq⟩
    · rw [if_pos hr, heq]
      rfl
    · rw [if_neg (by omega), heq]
      rcases drv.setTargetPosition (f.compensate ticks).1.toInt32 c with ⟨_ | _, c'⟩ <;> rfl

theorem energizeLog_errors (c : σ) :
    (energizeLog drv getLastErrorMsg c).countP LogLine.isError = (!(energizeFocuser drv c).1).toNat := by
  rw [energizeLog, energizeFocuser]
  rcases drv.energize c with ⟨_ | _, c'⟩
  · rfl
  · dsimp only
    rcases drv.exitSafeStart c' with ⟨_ | _, c''⟩ <;> rfl

/-- A refused request is an error line. -/
theorem requestLog_errors (s : TicFocuser × σ) {r : Request} (h : r ≠ .poll) :
    (requestLog drv getLastErrorMsg s r).countP LogLine.isError = (requestRefused drv s r).toNat := by
  cases r with
  | moveAbs t => exact moveAbsLog_errors drv getLastErrorMsg t s.1 s.2
  | moveRel dir t => exact moveAbsLog_errors drv getLastErrorMsg (s.1.targetTicks dir t) s.1 s.2
  | abort =>
    rw [requestLog, requestRefused, abortFocuser]
    rcases drv.haltAndHold s.2 with ⟨_ | _, c⟩ <;> rfl
  | sync t =>
    rw [requestLog, requestRefused, syncFocuser]
    rcases drv.haltAndSetPosition t.toInt32 s.2 with ⟨_ | _, c⟩ <;> rfl
  | poll => exact absurd rfl h
  | setBacklash enabled steps => rfl
  | energize => exact energizeLog_errors drv getLastErrorMsg s.2
  | deenergize =>
    rw [requestLog, requestRefused, deenergizeFocuser, deenergizeLog]
    rcases drv.deenergize s.2 with ⟨_ | _, c⟩ <;> rfl

/-- A refused call is an error line. -/
theorem logged_errors (s : TicFocuser × σ) {c : DriverCall} (h : c ≠ .request .poll) :
    (logged drv getLastErrorMsg s c).countP LogLine.isError = (refused drv s c).toNat := by
  cases c with
  | request r => exact requestLog_errors drv getLastErrorMsg s fun hr => h (by rw [hr])
  | moveFocuser dir speed duration => rfl
  | setParkingMode enabled => rfl
  | connect res =>
    cases res with
    | false => rfl
    | true => exact energizeLog_errors drv getLastErrorMsg s.2
  | disconnect res =>
    rw [logged, refused]
    cases s.1.focusParkingModeSP with
    | false => rfl
    | true => exact moveAbsLog_errors drv getLastErrorMsg 0 s.1 s.2

/-- Nothing but a poll touches the flag. -/
theorem flag_kept (s : TicFocuser × σ) {c : DriverCall} (h : c ≠ .request .poll) :
    (called drv s c).1.lastTimerHitError = s.1.lastTimerHitError := by
  have hmove : ∀ t, (s.1.moveAbsFocuser drv t s.2).2.1.lastTimerHitError = s.1.lastTimerHitError := by
    intro t
    by_cases hhere : (t.toNat : Int) = s.1.focusAbsPosNP.value
    · rw [moveAbsFocuser_here drv s.2 hhere]
    · rcases moveAbsFocuser_cases drv s.2 hhere with ⟨-, heq⟩ | ⟨-, heq⟩ <;> rw [heq]
  cases c with
  | request r =>
    cases r with
    | moveAbs t => exact hmove t
    | moveRel dir t => exact hmove (s.1.targetTicks dir t)
    | abort =>
      show (if (drv.haltAndHold s.2).1 then s.1.setAbsState .idle else s.1).lastTimerHitError = _
      split <;> rfl
    | sync t =>
      show (if (drv.haltAndSetPosition t.toInt32 s.2).1 then
        { s.1 with focusAbsPosNP := { s.1.focusAbsPosNP with value := t.toNat } } else s.1).lastTimerHitError = _
      split <;> rfl
    | poll => exact absurd rfl h
    | _ => rfl
  | moveFocuser dir speed duration => rfl
  | setParkingMode enabled => rfl
  | connect res => rfl
  | disconnect res =>
    show (s.1.disconnect drv s.2).1.lastTimerHitError = _
    rw [disconnect]
    split
    · exact hmove 0
    · rfl

theorem received_flag (vars : TicVariables) (f : TicFocuser) : (f.received vars).lastTimerHitError = false := by
  rw [received]
  split
  · split <;> split <;> rfl
  · rfl

/-- A poll of a connected driver. -/
theorem poll_flag {s : TicFocuser × σ} (h : s.1.connected = true) :
    (called drv s (.request .poll)).1.lastTimerHitError = !(drv.getVariables s.2).1.isSome := by
  rw [called, Deployment.step, serve, timerHit, if_pos h]
  rcases drv.getVariables s.2 with ⟨_ | vars, c⟩
  · rfl
  · exact received_flag vars s.1

theorem poll_errors {s : TicFocuser × σ} (h : s.1.connected = true) :
    (logged drv getLastErrorMsg s (.request .poll)).countP LogLine.isError =
      (!s.1.lastTimerHitError && !(drv.getVariables s.2).1.isSome).toNat := by
  rw [logged, requestLog, timerHitLog, if_pos h]
  rcases drv.getVariables s.2 with ⟨_ | vars, c⟩ <;> cases s.1.lastTimerHitError <;> rfl

/-! ## Over a run -/

/-- The outages in the outcomes of polls, after the outcome `before`: failures that
    follow a success. -/
def outages (before : Bool) (oks : List Bool) : Nat := ((before :: oks).zip oks).count (true, false)

theorem outages_cons (before ok : Bool) (oks : List Bool) :
    outages before (ok :: oks) = (before && !ok).toNat + outages ok oks := by
  rw [outages, outages, List.zip_cons_cons, List.count_cons, Nat.add_comm]
  cases before <;> cases ok <;> rfl

/-- **Every failure is logged once.** Any calls from any state, over any interface: as
    many error lines as calls were refused and outages began. -/
theorem failures_logged_once (s : TicFocuser × σ) (cs : List DriverCall) :
    (Run.outputs (called drv) (logged drv getLastErrorMsg) s cs).countP LogLine.isError =
      (Run.outputs (called drv) (fun s c => [refused drv s c]) s cs).count true +
        outages (!s.1.lastTimerHitError) (Run.outputs (called drv) (polled drv) s cs) := by
  induction cs generalizing s with
  | nil => cases s.1.lastTimerHitError <;> rfl
  | cons c cs ih =>
    rw [Run.outputs, Run.outputs, Run.outputs, List.countP_append, List.count_append, ih]
    have hcount : [refused drv s c].count true = (refused drv s c).toNat := by
      cases refused drv s c <;> rfl
    rw [hcount]
    by_cases hpoll : c = .request .poll
    · subst hpoll
      have hnever : refused drv s (.request .poll) = false := rfl
      cases hconn : s.1.connected with
      | true =>
        have hoks : polled drv s (.request .poll) = [(drv.getVariables s.2).1.isSome] := if_pos hconn
        rw [poll_errors drv getLastErrorMsg hconn, poll_flag drv hconn, hoks, List.singleton_append, outages_cons,
          Bool.not_not, hnever, Bool.toNat_false]
        omega
      | false =>
        have hnot : ¬ s.1.connected = true := by
          rw [hconn]
          exact Bool.false_ne_true
        have hoks : polled drv s (.request .poll) = [] := if_neg hnot
        have hlog : logged drv getLastErrorMsg s (.request .poll) = [] := if_neg hnot
        have hstep : called drv s (.request .poll) = s := by
          rw [called, Deployment.step, serve, timerHit, if_neg hnot]
        rw [hoks, hlog, hstep, hnever, Bool.toNat_false, List.countP_nil, List.nil_append]
        omega
    · have hoks : polled drv s c = [] := by
        cases c with
        | request r =>
          cases r with
          | poll => exact absurd rfl hpoll
          | _ => rfl
        | _ => rfl
      rw [logged_errors drv getLastErrorMsg s hpoll, flag_kept drv s hpoll, hoks, List.nil_append]
      omega

-- two failed polls, a received one and two failed ones again: two lines
example : outages true [false, false, true, false, false] = 2 := by decide

end TicFocuser

end TicFocuserNG
