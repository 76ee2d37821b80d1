import TicFocuserNG.Lib.Run
import TicFocuserNG.System

/- The requests a connected driver serves, over any interface.

   `serve` is `TicFocuser` with what `INDI::Focuser` adds, as in `World.respond`.
   Two interfaces that answer alike (`Related`) cannot be told apart by any run of
   requests (`run_related`). -/
namespace TicFocuserNG

/-- What a client or the timer asks of a connected driver. -/
inductive Request where
  | moveAbs (ticks : UInt32)
  | moveRel (dir : FocusDirection) (ticks : UInt32)
  | abort
  | sync (ticks : UInt32)
  | poll
  | setBacklash (enabled : Bool) (steps : Nat)
  | energize
  | deenergize
  deriving DecidableEq, Repr

/-- The event of the system that it is. -/
def Request.event : Request → Option Event
  | .moveAbs ticks => some (.moveAbs ticks true)
  | .moveRel dir ticks => some (.moveRel dir ticks true)
  | .abort => some (.abort true)
  | .sync ticks => some (.sync ticks true)
  | .poll => some (.poll true)
  | .setBacklash enabled steps => some (.setBacklash enabled steps)
  | .energize => none
  | .deenergize => none

/-- The driver over an interface, with what `INDI::Focuser` adds as in
    `World.respond`. -/
def TicFocuser.serve {σ : Type} (drv : TicDriverInterface σ) (s : TicFocuser × σ) :
    Request → Option IPState × TicFocuser × σ
  | .moveAbs ticks =>
    let (ret, f, c) := s.1.moveAbsFocuser drv ticks s.2
    (some ret, f.setAbsState ret, c)
  | .moveRel dir ticks =>
    let (ret, f, c) := s.1.moveRelFocuser drv dir ticks s.2
    (some ret, f, c)
  | .abort =>
    let (res, c) := TicFocuser.abortFocuser drv s.2
    (none, if res then s.1.setAbsState .idle else s.1, c)
  | .sync ticks =>
    let (res, c) := TicFocuser.syncFocuser drv ticks s.2
    (none, if res then { s.1 with focusAbsPosNP := { s.1.focusAbsPosNP with value := ticks.toNat } } else s.1, c)
  | .poll => (none, s.1.timerHit drv s.2)
  | .setBacklash enabled steps =>
    (none, if TicFocuser.setFocuserBacklash (Int32.ofNat steps) then
      { s.1 with focusBacklashSP := enabled, focusBacklashNP := steps } else s.1, s.2)
  | .energize => (none, s.1, (TicFocuser.energizeFocuser drv s.2).2)
  | .deenergize => (none, s.1, (TicFocuser.deenergizeFocuser drv s.2).2)

/-! ## Interfaces that cannot be told apart -/

/-- The interfaces answer alike from related states, and leave related states. -/
structure TicDriverInterface.Related {σ τ : Type} (drv : TicDriverInterface σ) (drv' : TicDriverInterface τ)
    (R : σ → τ → Prop) : Prop where
  energize : ∀ {c d}, R c d → (drv.energize c).1 = (drv'.energize d).1 ∧ R (drv.energize c).2 (drv'.energize d).2
  deenergize : ∀ {c d}, R c d →
    (drv.deenergize c).1 = (drv'.deenergize d).1 ∧ R (drv.deenergize c).2 (drv'.deenergize d).2
  exitSafeStart : ∀ {c d}, R c d →
    (drv.exitSafeStart c).1 = (drv'.exitSafeStart d).1 ∧ R (drv.exitSafeStart c).2 (drv'.exitSafeStart d).2
  haltAndHold : ∀ {c d}, R c d →
    (drv.haltAndHold c).1 = (drv'.haltAndHold d).1 ∧ R (drv.haltAndHold c).2 (drv'.haltAndHold d).2
  setTargetPosition : ∀ {c d} (p : Int32), R c d →
    (drv.setTargetPosition p c).1 = (drv'.setTargetPosition p d).1 ∧
      R (drv.setTargetPosition p c).2 (drv'.setTargetPosition p d).2
  haltAndSetPosition : ∀ {c d} (p : Int32), R c d →
    (drv.haltAndSetPosition p c).1 = (drv'.haltAndSetPosition p d).1 ∧
      R (drv.haltAndSetPosition p c).2 (drv'.haltAndSetPosition p d).2
  getVariables : ∀ {c d}, R c d →
    (drv.getVariables c).1 = (drv'.getVariables d).1 ∧ R (drv.getVariables c).2 (drv'.getVariables d).2

namespace TicDriverInterface.Related
variable {σ τ : Type} {drv : TicDriverInterface σ} {drv' : TicDriverInterface τ} {R : σ → τ → Prop} {c : σ} {d : τ}

theorem moveAbsFocuser (h : Related drv drv' R) (hR : R c d) (ticks : UInt32) (f : TicFocuser) :
    (f.moveAbsFocuser drv ticks c).1 = (f.moveAbsFocuser drv' ticks d).1 ∧
      (f.moveAbsFocuser drv ticks c).2.1 = (f.moveAbsFocuser drv' ticks d).2.1 ∧
      R (f.moveAbsFocuser drv ticks c).2.2 (f.moveAbsFocuser drv' ticks d).2.2 := by
  by_cases hhere : (ticks.toNat : Int) = f.focusAbsPosNP.value
  · rw [TicFocuser.moveAbsFocuser_here drv c hhere, TicFocuser.moveAbsFocuser_here drv' d hhere]
    exact ⟨rfl, rfl, hR⟩
  · obtain ⟨hres, hR'⟩ := h.setTargetPosition (f.compensate ticks).1.toInt32 hR
    rcases TicFocuser.moveAbsFocuser_cases drv c hhere with ⟨hr, heq⟩ | ⟨hr, heq⟩ <;>
      rcases TicFocuser.moveAbsFocuser_cases drv' d hhere with ⟨hr', heq'⟩ | ⟨hr', heq'⟩
    · rw [heq, heq']
      exact ⟨rfl, rfl, hR⟩
    · omega
    · omega
    · rw [heq, heq', hres]
      exact ⟨rfl, rfl, hR'⟩

/-- The driver cannot tell them apart either. -/
theorem serve (h : Related drv drv' R) (hR : R c d) (f : TicFocuser) (r : Request) :
    (TicFocuser.serve drv (f, c) r).1 = (TicFocuser.serve drv' (f, d) r).1 ∧
      (TicFocuser.serve drv (f, c) r).2.1 = (TicFocuser.serve drv' (f, d) r).2.1 ∧
      R (TicFocuser.serve drv (f, c) r).2.2 (TicFocuser.serve drv' (f, d) r).2.2 := by
  cases r with
  | moveAbs t =>
    obtain ⟨hret, hf, hR'⟩ := h.moveAbsFocuser hR t f
    exact ⟨congrArg some hret, congrArg₂ TicFocuser.setAbsState hf hret, hR'⟩
  | moveRel dir t =>
    obtain ⟨hret, hf, hR'⟩ := h.moveAbsFocuser hR (f.targetTicks dir t) f
    -- the rest of `moveRelFocuser` looks at the answer and the driver only
    let rest (ret : IPState) (f' : TicFocuser) : TicFocuser :=
      TicFocuser.setAbsState { f' with
        moveRelInitialValue := if ret = .busy then Int32.ofInt f.focusAbsPosNP.value else -1 } ret
    exact ⟨congrArg some hret, congrArg₂ rest hret hf, hR'⟩
  | abort =>
    obtain ⟨hres, hR'⟩ := h.haltAndHold hR
    refine ⟨rfl, ?_, hR'⟩
    show (if (drv.haltAndHold c).1 then f.setAbsState .idle else f) =
      if (drv'.haltAndHold d).1 then f.setAbsState .idle else f
    rw [hres]
  | sync t =>
    obtain ⟨hres, hR'⟩ := h.haltAndSetPosition t.toInt32 hR
    refine ⟨rfl, ?_, hR'⟩
    show (if (drv.haltAndSetPosition t.toInt32 c).1 then
        { f with focusAbsPosNP := { f.focusAbsPosNP with value := t.toNat } } else f) =
      if (drv'.haltAndSetPosition t.toInt32 d).1 then
        { f with focusAbsPosNP := { f.focusAbsPosNP with value := t.toNat } } else f
    rw [hres]
  | poll =>
    obtain ⟨hres, hR'⟩ := h.getVariables hR
    rw [TicFocuser.serve, TicFocuser.serve, TicFocuser.timerHit, TicFocuser.timerHit]
    rcases hget : drv.getVariables c with ⟨vars, c'⟩
    rcases hget' : drv'.getVariables d with ⟨vars', d'⟩
    rw [hget, hget'] at hres hR'
    obtain rfl : vars = vars' := hres
    split
    · cases vars <;> exact ⟨rfl, rfl, hR'⟩
    · exact ⟨rfl, rfl, hR⟩
  | setBacklash enabled steps => exact ⟨rfl, rfl, hR⟩
  | energize =>
    obtain ⟨hres, hR'⟩ := h.energize hR
    rw [TicFocuser.serve, TicFocuser.serve, TicFocuser.energizeFocuser, TicFocuser.energizeFocuser]
    rcases hget : drv.energize c with ⟨ok, c'⟩
    rcases hget' : drv'.energize d with ⟨ok', d'⟩
    rw [hget, hget'] at hres hR'
    obtain rfl : ok = ok' := hres
    cases ok
    · exact ⟨rfl, rfl, hR'⟩
    · exact ⟨rfl, rfl, (h.exitSafeStart hR').2⟩
  | deenergize => exact ⟨rfl, rfl, (h.deenergize hR).2⟩

end TicDriverInterface.Related

/-! ## Runs of the driver -/

namespace Deployment

section
variable {σ : Type} (drv : TicDriverInterface σ)

def step (s : TicFocuser × σ) (r : Request) : TicFocuser × σ := (TicFocuser.serve drv s r).2

def answers (s : TicFocuser × σ) (r : Request) : List IPState := (TicFocuser.serve drv s r).1.toList

end

theorem run_related {σ τ : Type} {drv : TicDriverInterface σ} {drv' : TicDriverInterface τ} {R : σ → τ → Prop}
    (h : drv.Related drv' R) (f : TicFocuser) {c : σ} {d : τ} (hR : R c d) (rs : List Request) :
    Run.outputs (step drv) (answers drv) (f, c) rs = Run.outputs (step drv') (answers drv') (f, d) rs ∧
      (rs.foldl (step drv) (f, c)).1 = (rs.foldl (step drv') (f, d)).1 ∧
      R (rs.foldl (step drv) (f, c)).2 (rs.foldl (step drv') (f, d)).2 := by
  induction rs generalizing f c d with
  | nil => exact ⟨rfl, rfl, hR⟩
  | cons r rs ih =>
    obtain ⟨hans, hf, hR'⟩ := h.serve hR f r
    have hstep : step drv' (f, d) r = ((step drv (f, c) r).1, (step drv' (f, d) r).2) :=
      Prod.ext hf.symm rfl
    obtain ⟨houts, hrest⟩ := ih (step drv (f, c) r).1 hR'
    rw [Run.outputs, Run.outputs, answers, answers, hans, List.foldl_cons, List.foldl_cons, hstep]
    exact ⟨congrArg _ houts, hrest⟩

/-- The answer to a request after others. -/
theorem answer_related {σ τ : Type} {drv : TicDriverInterface σ} {drv' : TicDriverInterface τ} {R : σ → τ → Prop}
    (h : drv.Related drv' R) (f : TicFocuser) {c : σ} {d : τ} (hR : R c d) (rs : List Request) (r : Request) :
    (TicFocuser.serve drv (rs.foldl (step drv) (f, c)) r).1 =
      (TicFocuser.serve drv' (rs.foldl (step drv') (f, d)) r).1 := by
  obtain ⟨-, hf, hR'⟩ := run_related h f hR rs
  have hlast : rs.foldl (step drv') (f, d) = ((rs.foldl (step drv) (f, c)).1, (rs.foldl (step drv') (f, d)).2) :=
    Prod.ext hf.symm rfl
  rw [hlast]
  exact (h.serve hR' _ r).1

end Deployment

end TicFocuserNG
