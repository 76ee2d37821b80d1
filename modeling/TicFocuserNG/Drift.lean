import Mathlib.Algebra.BigOperators.Group.List.Basic
import TicFocuserNG.System

/- Relative moves run to completion with compensation on do not drift.

   `no_backlash_drift`: after every prefix of the moves the position polled is
   the sum of the moves away from where they started, off by the backlash while
   the remembered direction is outward and by nothing while it is inward. The
   invariant is `Standing`: the controller rests where the driver believes it
   is. A move leaves it through `Bound`, which its polls and motions keep. -/
namespace TicFocuserNG

/-- A relative move, the motions and polls while it is under way, and its
    completion: the motor arrives, and a poll sees it there. -/
structure Move where
  dir : FocusDirection
  ticks : UInt32
  underway : List Event
  quiet : ∀ e ∈ underway, (∃ n, e = .advance n) ∨ ∃ ok, e = .poll ok

namespace Move

def signed (m : Move) : Int :=
  match m.dir with
  | .outward => m.ticks.toNat
  | .inward => -m.ticks.toNat

def events (m : Move) : List Event :=
  .moveRel m.dir m.ticks true :: (m.underway ++ [.advance (2 ^ 32), .poll true])

end Move

/-- How far the position polled is off the sum of the moves, with a backlash of
    `B`. -/
def FocusDirection.slack (B : Nat) : FocusDirection → Int
  | .inward => 0
  | .outward => B

namespace World

def moved (w : World) (m : Move) : World := m.events.foldl step w

/-- Where a target of `t` goes with compensation on. -/
def overshot (w : World) (t : Int) : Int :=
  match w.focuser.lastFocusDir with
  | .inward => if w.focuser.focusAbsPosNP.value < t then t + w.focuser.focusBacklashNP else t
  | .outward => if t < w.focuser.focusAbsPosNP.value then t - w.focuser.focusBacklashNP else t

def InLimits (w : World) (t : Int) : Prop := w.focuser.limits.min ≤ t ∧ t ≤ w.focuser.limits.max

/-- Neither the requested nor the compensated target leaves the limits. -/
def Fits (w : World) (m : Move) : Prop :=
  w.InLimits (w.focuser.focusAbsPosNP.value + m.signed) ∧
    w.InLimits (w.overshot (w.focuser.focusAbsPosNP.value + m.signed))

def slack (w : World) : Int := w.focuser.lastFocusDir.slack w.focuser.focusBacklashNP

/-- Connected, with compensation on, and at rest at the position polled. -/
structure Standing (w : World) : Prop where
  connected : w.focuser.connected = true
  compensating : w.focuser.focusBacklashSP = true
  inLimits : w.InLimits w.focuser.focusAbsPosNP.value
  atRest : ∃ p, w.controller.AtRest p ∧ w.focuser.focusAbsPosNP.value = p.toInt

/-- Under way to `p`, or there, with the settings of the driver `f`. -/
structure Bound (f : TicFocuser) (p : Int32) (w : World) : Prop where
  connected : w.focuser.connected = f.connected
  limits : w.focuser.limits = f.limits
  backlash : w.focuser.focusBacklashNP = f.focusBacklashNP
  compensating : w.focuser.focusBacklashSP = f.focusBacklashSP
  lastFocusDir : w.focuser.lastFocusDir = f.lastFocusDir
  going : w.controller.HeadedFor p ∨ w.controller.AtRest p

instance (w : World) (t : Int) : Decidable (w.InLimits t) := inferInstanceAs (Decidable (_ ∧ _))
instance (w : World) (m : Move) : Decidable (w.Fits m) := inferInstanceAs (Decidable (_ ∧ _))

end World

/-! ## The target of a relative move -/

namespace TicFocuser

theorem toNat_toUInt32_ofInt {x : Int} (h0 : 0 ≤ x) (h : x < 2 ^ 31) :
    ((Int32.ofInt x).toUInt32.toNat : Int) = x := by
  have hx : (Int32.ofInt x).toInt = x := Int32.toInt_ofInt_of_le (by omega) (by omega)
  have hle : 0 ≤ Int32.ofInt x := Int32.le_iff_toInt_le.mpr (by simpa [hx] using h0)
  rw [Int32.toNat_toUInt32_of_le hle, Int32.toNatClampNeg, hx]
  omega

/-- In range, the `uint32_t` arithmetic of `MoveRelFocuser` is that of the
    integers. -/
theorem toNat_targetTicks {f : TicFocuser} {m : Move} (h0 : 0 ≤ f.focusAbsPosNP.value)
    (hv : f.focusAbsPosNP.value < 2 ^ 31) (ht0 : 0 ≤ f.focusAbsPosNP.value + m.signed)
    (ht : f.focusAbsPosNP.value + m.signed < 2 ^ 31) :
    ((f.targetTicks m.dir m.ticks).toNat : Int) = f.focusAbsPosNP.value + m.signed := by
  have habs := toNat_toUInt32_ofInt h0 hv
  rcases m with ⟨dir, ticks, underway, quiet⟩
  cases dir with
  | outward =>
    simp only [Move.signed] at ht ⊢
    rw [targetTicks, UInt32.toUInt32_toInt32, UInt32.toNat_add]
    omega
  | inward =>
    simp only [Move.signed] at ht0 ⊢
    have hle : ticks ≤ (Int32.ofInt f.focusAbsPosNP.value).toUInt32 := by
      rw [UInt32.le_iff_toNat_le]
      omega
    rw [targetTicks, UInt32.toUInt32_toInt32, UInt32.toNat_sub_of_le _ _ hle]
    omega

end TicFocuser

namespace World

/-- With compensation on, the tick count sent is the overshot one, and the
    direction remembered is the direction of the request. -/
theorem compensate_overshot {w : World} {t : UInt32} (hon : w.focuser.focusBacklashSP = true)
    (hin : w.InLimits (w.overshot t.toNat)) :
    ((w.focuser.compensate t).1.toNat : Int) = w.overshot t.toNat ∧
      (w.focuser.compensate t).2 =
        if w.focuser.focusAbsPosNP.value < t.toNat then .outward
        else if t.toNat < w.focuser.focusAbsPosNP.value then .inward
        else w.focuser.lastFocusDir := by
  obtain ⟨hmin, hmax⟩ := hin
  rcases lt_trichotomy w.focuser.focusAbsPosNP.value (t.toNat : Int) with hlt | heq | hgt
  · obtain ⟨h1, h2⟩ := TicFocuser.compensate_outward hlt
    rw [h1, h2, if_pos hlt]
    cases hd : w.focuser.lastFocusDir with
    | inward =>
      simp only [overshot, hd, if_pos hlt] at hmax ⊢
      simp [hon, TicFocuser.compensated, hlt, hmax]
    | outward =>
      have : ¬ (t.toNat : Int) < w.focuser.focusAbsPosNP.value := by omega
      simp [overshot, hd, this]
  · rw [TicFocuser.compensate_here heq.symm]
    cases hd : w.focuser.lastFocusDir <;> simp [overshot, hd, heq]
  · have hnot : ¬ w.focuser.focusAbsPosNP.value < (t.toNat : Int) := by omega
    obtain ⟨h1, h2⟩ := TicFocuser.compensate_inward hgt hon
    rw [h1, h2, if_neg hnot, if_pos hgt]
    cases hd : w.focuser.lastFocusDir with
    | inward => simp [overshot, hd, hnot]
    | outward =>
      simp only [overshot, hd, if_pos hgt] at hmin ⊢
      simp [TicFocuser.compensated, hnot, hmin]

/-! ## The steps of a move -/

theorem received_keeps (vars : TicVariables) (f : TicFocuser) :
    (f.received vars).connected = f.connected ∧ (f.received vars).limits = f.limits ∧
      (f.received vars).focusBacklashNP = f.focusBacklashNP ∧
      (f.received vars).focusBacklashSP = f.focusBacklashSP ∧
      (f.received vars).lastFocusDir = f.lastFocusDir ∧
      (f.received vars).focusAbsPosNP.value = vars.currentPosition.toInt := by
  simp only [TicFocuser.received]
  repeat' split
  all_goals exact ⟨rfl, rfl, rfl, rfl, rfl, rfl⟩

/-- Bound for `p`, a motor that is driving is driving there, and one that is not
    stands there. -/
theorem target_of_going {c : Controller} {p : Int32} (h : c.HeadedFor p ∨ c.AtRest p) (hd : c.driving = true) :
    c.target = p := by
  rcases h with hgo | hrest
  · exact hgo.2
  · exact hrest.2 hd

theorem atRest_of_going {c : Controller} {p : Int32} (h : c.HeadedFor p ∨ c.AtRest p) (hd : c.driving = false) :
    c.AtRest p := by
  rcases h with hgo | hrest
  · rw [hgo.1] at hd
    cases hd
  · exact hrest

/-- A motor under way stays under way; at rest, it stays where it is. -/
theorem going_advance {c : Controller} {p : Int32} (h : c.HeadedFor p ∨ c.AtRest p) (n : Nat) :
    (c.advance n).HeadedFor p ∨ (c.advance n).AtRest p := by
  cases hd : c.driving with
  | false => simpa [Controller.advance, hd] using h
  | true =>
    left
    simp [Controller.advance, Controller.HeadedFor, hd, target_of_going h hd]

/-- Polls and motions keep the settings and the place the controller is bound
    for. -/
theorem bound_step {f : TicFocuser} {p : Int32} {w : World} (hb : w.Bound f p) {e : Event}
    (he : (∃ n, e = .advance n) ∨ ∃ ok, e = .poll ok) : (w.step e).Bound f p := by
  obtain ⟨hc, hl, hk, hs, hd, hg⟩ := hb
  rcases he with ⟨n, rfl⟩ | ⟨ok, rfl⟩
  · exact ⟨hc, hl, hk, hs, hd, going_advance hg n⟩
  · simp only [step, respond_poll]
    obtain ⟨rc, rl, rk, rs, rd, -⟩ := received_keeps w.controller.report w.focuser
    split
    · cases ok with
      | false => exact ⟨hc, hl, hk, hs, hd, hg⟩
      | true => exact ⟨rc.trans hc, rl.trans hl, rk.trans hk, rs.trans hs, rd.trans hd, hg⟩
    · exact ⟨hc, hl, hk, hs, hd, hg⟩

theorem bound_run {f : TicFocuser} {p : Int32} {es : List Event} {w : World} (hb : w.Bound f p)
    (hq : ∀ e ∈ es, (∃ n, e = .advance n) ∨ ∃ ok, e = .poll ok) : (es.foldl step w).Bound f p := by
  apply List.foldlRecOn es step hb
  intro w' hb' e he
  exact bound_step hb' (hq e he)

/-- The motor arrives, and the poll sees it there. -/
theorem arrived {f : TicFocuser} {p : Int32} {w : World} (hb : w.Bound f p) (hcon : f.connected = true) :
    ([.advance (2 ^ 32), .poll true].foldl step w).Bound f p ∧
      ([.advance (2 ^ 32), .poll true].foldl step w).controller.AtRest p ∧
      ([.advance (2 ^ 32), .poll true].foldl step w).focuser.focusAbsPosNP.value = p.toInt := by
  have hrest : (w.controller.advance (2 ^ 32)).AtRest p := by
    cases hd : w.controller.driving with
    | false =>
      simpa [Controller.advance, hd] using atRest_of_going hb.going hd
    | true =>
      have htarget := target_of_going hb.going hd
      rw [Controller.advance_arrives _ hd]
      exact ⟨htarget, fun _ => htarget⟩
  have hbound : ([.advance (2 ^ 32), .poll true].foldl step w).Bound f p :=
    bound_run hb (by simp)
  refine ⟨hbound, ?_⟩
  have hconn : w.focuser.connected = true := hb.connected.trans hcon
  have hpoll : [.advance (2 ^ 32), .poll true].foldl step w =
      ⟨w.focuser.received (w.controller.advance (2 ^ 32)).report, w.controller.advance (2 ^ 32)⟩ := by
    simp only [List.foldl_cons, List.foldl_nil]
    rw [step, respond_poll]
    simp [step, respond, hconn]
  rw [hpoll]
  refine ⟨hrest, ?_⟩
  rw [(received_keeps _ _).2.2.2.2.2]
  exact congrArg Int32.toInt hrest.1

/-! ## Whole moves -/

theorem targetTicks_of_fits {w : World} (hs : w.Standing) {m : Move} (hfit : w.Fits m) :
    ((w.focuser.targetTicks m.dir m.ticks).toNat : Int) = w.focuser.focusAbsPosNP.value + m.signed := by
  obtain ⟨⟨hmin, hmax⟩, -⟩ := hfit
  obtain ⟨hvmin, hvmax⟩ := hs.inLimits
  have hnn := w.focuser.limits.nonneg
  have hfits := w.focuser.limits.fits
  exact TicFocuser.toNat_targetTicks (by omega) (by omega) (by omega) (by omega)

/-- A request whose overshot target is in range sets the controller going
    there, or finds it at rest there. -/
theorem moveRel_bound {w : World} (hs : w.Standing) {dir : FocusDirection} {k t : UInt32}
    (ht : w.focuser.targetTicks dir k = t) (hover : w.InLimits (w.overshot t.toNat)) :
    ∃ p : Int32, p.toInt = w.overshot t.toNat ∧
      (w.step (.moveRel dir k true)).Bound (w.focuser.turn t) p := by
  obtain ⟨hsent, -⟩ := compensate_overshot hs.compensating hover
  simp only [step, respond_moveRel, ht]
  by_cases hpos : (t.toNat : Int) = w.focuser.focusAbsPosNP.value
  · obtain ⟨p, hrest, hp⟩ := hs.atRest
    have hstay : w.overshot t.toNat = p.toInt := by
      rw [← hsent, TicFocuser.compensate_here hpos, hpos, hp]
    refine ⟨p, hstay.symm, rfl, rfl, rfl, rfl, rfl, .inr ?_⟩
    simpa [afterRequest, TicFocuser.answer_here hpos] using hrest
  · have hbusy : w.focuser.answer t true = .busy :=
      TicFocuser.answer_busy_iff.mpr ⟨hpos, by rw [hsent]; exact hover.1, by rw [hsent]; exact hover.2, rfl⟩
    have hsmall : (w.focuser.compensate t).1.toNat < 2 ^ 31 := by
      have hmax := hover.2
      have hfits := w.focuser.limits.fits
      omega
    refine ⟨(w.focuser.compensate t).1.toInt32, ?_, rfl, rfl, rfl, rfl, rfl, .inl ?_⟩
    · rw [← hsent, TicFocuser.toInt_toInt32 hsmall]
    · simp [afterRequest, hbusy, Controller.accept, Controller.HeadedFor]

/-- A whole move ends at rest at the overshot target. -/
theorem moved_ends {w : World} (hs : w.Standing) {m : Move} {t : UInt32}
    (ht : w.focuser.targetTicks m.dir m.ticks = t) (hover : w.InLimits (w.overshot t.toNat)) :
    ∃ p : Int32, p.toInt = w.overshot t.toNat ∧ (w.moved m).Bound (w.focuser.turn t) p ∧
      (w.moved m).controller.AtRest p ∧ (w.moved m).focuser.focusAbsPosNP.value = p.toInt := by
  obtain ⟨p, hp, hb⟩ := moveRel_bound hs ht hover
  refine ⟨p, hp, ?_⟩
  rw [moved, Move.events, List.foldl_cons, List.foldl_append]
  exact arrived (bound_run hb m.quiet) hs.connected

/-- A turn of direction moves the slack with the target. -/
theorem overshot_sub_slack {w : World} (t : Int) {dir : FocusDirection}
    (hdir : dir = if w.focuser.focusAbsPosNP.value < t then .outward
      else if t < w.focuser.focusAbsPosNP.value then .inward else w.focuser.lastFocusDir) :
    w.overshot t - dir.slack w.focuser.focusBacklashNP = t - w.slack := by
  rw [hdir]
  cases hd : w.focuser.lastFocusDir with
  | inward => simp only [overshot, slack, hd]; grind [FocusDirection.slack]
  | outward => simp only [overshot, slack, hd]; grind [FocusDirection.slack]

/-- A whole move leaves the system standing, the position off the sum by the
    slack as before. -/
theorem moved_standing {w : World} (hs : w.Standing) {m : Move} (hfit : w.Fits m) :
    (w.moved m).Standing ∧ (w.moved m).focuser.focusBacklashNP = w.focuser.focusBacklashNP ∧
      (w.moved m).focuser.focusAbsPosNP.value - (w.moved m).slack =
        w.focuser.focusAbsPosNP.value + m.signed - w.slack := by
  have ht := targetTicks_of_fits hs hfit
  have hover := hfit.2
  rw [← ht] at hover ⊢
  obtain ⟨p, hp, hb, hrest, hval⟩ := moved_ends hs rfl hover
  have hlim : (w.moved m).focuser.limits = w.focuser.limits := hb.limits
  have hback : (w.moved m).focuser.focusBacklashNP = w.focuser.focusBacklashNP := hb.backlash
  refine ⟨⟨hb.connected.trans hs.connected, hb.compensating.trans hs.compensating, ?_, p, hrest, hval⟩, hback, ?_⟩
  · rw [InLimits, hlim, hval, hp]
    exact hover
  · rw [hval, hp, slack, hb.lastFocusDir, hback]
    exact overshot_sub_slack _ (compensate_overshot hs.compensating hover).2

theorem moved_run {moves : List Move} {w : World} (hs : w.Standing) (hfit : Run.Each moved Fits w moves) :
    (moves.foldl moved w).focuser.focusBacklashNP = w.focuser.focusBacklashNP ∧
      (moves.foldl moved w).focuser.focusAbsPosNP.value - (moves.foldl moved w).slack =
        w.focuser.focusAbsPosNP.value + (moves.map Move.signed).sum - w.slack := by
  induction moves generalizing w with
  | nil => simp
  | cons m moves ih =>
    obtain ⟨hstand, hback, hval⟩ := moved_standing hs hfit.1
    obtain ⟨hback', hval'⟩ := ih hstand hfit.2
    simp only [List.foldl_cons, List.map_cons, List.sum_cons]
    refine ⟨hback'.trans hback, ?_⟩
    calc (moves.foldl moved (w.moved m)).focuser.focusAbsPosNP.value - (moves.foldl moved (w.moved m)).slack
        = (w.moved m).focuser.focusAbsPosNP.value + (moves.map Move.signed).sum - (w.moved m).slack := hval'
      _ = (w.moved m).focuser.focusAbsPosNP.value - (w.moved m).slack + (moves.map Move.signed).sum := by omega
      _ = w.focuser.focusAbsPosNP.value + m.signed - w.slack + (moves.map Move.signed).sum := by rw [hval]
      _ = w.focuser.focusAbsPosNP.value + (m.signed + (moves.map Move.signed).sum) - w.slack := by omega

/-- **No drift.** The position polled after any prefix of the moves. -/
theorem no_backlash_drift (w : World) (hs : w.Standing) (hdir : w.focuser.lastFocusDir = .inward)
    (moves : List Move) (hfit : Run.Each moved Fits w moves) (pre : List Move) (hpre : pre <+: moves) :
    (pre.foldl moved w).focuser.focusAbsPosNP.value =
      w.focuser.focusAbsPosNP.value + (pre.map Move.signed).sum +
        (pre.foldl moved w).focuser.lastFocusDir.slack w.focuser.focusBacklashNP := by
  obtain ⟨rest, rfl⟩ := hpre
  obtain ⟨hback, hval⟩ := moved_run hs ((Run.each_append w pre rest).mp hfit).1
  have h0 : w.slack = 0 := by simp [slack, hdir, FocusDirection.slack]
  rw [slack, hback] at hval
  omega

/-- Out 100, out 50, in 30 and out 5, with a backlash of 10, from 0. -/
def outAndBack : List Move :=
  [⟨.outward, 100, [.advance 7, .poll true], by simp⟩, ⟨.outward, 50, [], by simp⟩,
    ⟨.inward, 30, [.poll false, .advance 1000], by simp⟩, ⟨.outward, 5, [], by simp⟩]

def compensatingAtZero : World := atZero.step (.setBacklash true 10)

theorem no_backlash_drift_outAndBack :
    compensatingAtZero.Standing ∧ Run.Each moved Fits compensatingAtZero outAndBack ∧
      (outAndBack.foldl moved compensatingAtZero).focuser.focusAbsPosNP.value =
        compensatingAtZero.focuser.focusAbsPosNP.value + (outAndBack.map Move.signed).sum +
          (outAndBack.foldl moved compensatingAtZero).focuser.lastFocusDir.slack
            compensatingAtZero.focuser.focusBacklashNP := by
  have hs : compensatingAtZero.Standing := ⟨rfl, rfl, by decide, 0, by decide, rfl⟩
  have hfit : Run.Each moved Fits compensatingAtZero outAndBack := by decide
  exact ⟨hs, hfit, no_backlash_drift compensatingAtZero hs rfl outAndBack hfit outAndBack (List.prefix_refl _)⟩

end World

end TicFocuserNG
