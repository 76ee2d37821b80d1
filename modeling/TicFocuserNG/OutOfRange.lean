import TicFocuserNG.System

/- Requests out of range.

   `MoveAbsFocuser` compensates and clamps a request before it tests the range,
   and `MoveRelFocuser` takes its sum modulo `2^32` before that.

     1. `out_of_range_refused_iff`: an absolute request is treated by its range
        exactly when compensation does not bring it into range.
     2. `rel_right_way_iff`: a relative move goes the requested way or nowhere
        exactly when its destination is in range, or what is left of it modulo
        `2^32` is neither in range nor brought there.

   What is sent is seen by an interface that keeps it (`recorder`). -/
namespace TicFocuserNG

/-- An interface that keeps the targets it is sent, and answers `ok`. -/
def recorder (ok : Bool) : TicDriverInterface (List Int32) where
  energize l := (ok, l)
  deenergize l := (ok, l)
  exitSafeStart l := (ok, l)
  haltAndHold l := (ok, l)
  setTargetPosition p l := (ok, l ++ [p])
  haltAndSetPosition _ l := (ok, l)
  getVariables l := (none, l)

def Limits.Contains (l : Limits) (x : Int) : Prop := l.min ≤ x ∧ x ≤ l.max

instance (l : Limits) (x : Int) : Decidable (l.Contains x) := inferInstanceAs (Decidable (_ ∧ _))

namespace TicFocuser

/-! ## What a request sends -/

theorem answer_eq {f : TicFocuser} {t : UInt32} (h : (t.toNat : Int) ≠ f.focusAbsPosNP.value) (ok : Bool) :
    f.answer t ok = if f.limits.Contains (f.aim t) ∧ ok then .busy else .alert := by
  rw [answer, if_neg h, compensate_aim h]
  simp only [Limits.Contains, and_assoc]

theorem answer_alert_iff {f : TicFocuser} {t : UInt32} {ok : Bool} :
    f.answer t ok = .alert ↔
      (t.toNat : Int) ≠ f.focusAbsPosNP.value ∧ (ok = false ∨ ¬ f.limits.Contains (f.aim t)) := by
  by_cases h : (t.toNat : Int) = f.focusAbsPosNP.value
  · simp [answer_here h, h]
  · rw [answer_eq h]
    split
    · next hin => simp [hin.1, hin.2]
    · next hout =>
      cases ok <;> simp_all

/-- Requests against the recorder: answered, remembered, and sent where they aim
    if that is in range. -/
theorem moveAbsFocuser_recorder (ok : Bool) (t : UInt32) (f : TicFocuser) :
    f.moveAbsFocuser (recorder ok) t [] =
      (f.answer t ok, f.turn t,
        if (t.toNat : Int) ≠ f.focusAbsPosNP.value ∧ f.limits.Contains (f.aim t) then
          [(f.compensate t).1.toInt32]
        else []) := by
  by_cases hh : (t.toNat : Int) = f.focusAbsPosNP.value
  · simp [moveAbsFocuser_here _ _ hh, answer_here hh, turn, compensate_here hh, hh]
  · have hsent : (f.limits.min ≤ (f.compensate t).1.toNat ∧ ((f.compensate t).1.toNat : Int) ≤ f.limits.max) ↔
        f.limits.Contains (f.aim t) := by
      rw [compensate_aim hh]
      rfl
    rw [answer_eq hh]
    rcases moveAbsFocuser_cases (recorder ok) [] hh with ⟨hr, h⟩ | ⟨hr, h⟩
    · have hout : ¬ f.limits.Contains (f.aim t) := by
        rw [← hsent]
        omega
      rw [h]
      simp [hout, turn]
    · have hin : f.limits.Contains (f.aim t) := hsent.mp hr
      rw [h]
      cases ok <;> simp [recorder, hh, hin, turn]

/-- What is in range is sent as it is. -/
theorem toInt_sent {f : TicFocuser} {t : UInt32} (h : (t.toNat : Int) ≠ f.focusAbsPosNP.value)
    (hin : f.limits.Contains (f.aim t)) : (f.compensate t).1.toInt32.toInt = f.aim t := by
  have haim := compensate_aim h
  have hfits := f.limits.fits
  obtain ⟨-, hmax⟩ := hin
  rw [toInt_toInt32 (by omega), haim]

/-- Compensation brings a request that is out of range into it: one outward, if
    the backlash reaches the lower limit from it, and one inward, if it reaches
    the upper limit. -/
def BroughtIn (f : TicFocuser) (t : UInt32) : Prop :=
  ¬ f.limits.Contains t.toNat ∧ f.Reverses t ∧
    match f.direction t with
    | .outward => f.limits.min ≤ t.toNat + f.focusBacklashNP
    | .inward => t.toNat - f.focusBacklashNP ≤ f.limits.max

theorem contains_compensated (f : TicFocuser) (t : UInt32) :
    f.limits.Contains (f.compensated t) ↔
      match f.direction t with
      | .outward => f.limits.min ≤ t.toNat + f.focusBacklashNP
      | .inward => t.toNat - f.focusBacklashNP ≤ f.limits.max := by
  have hord := f.limits.ordered
  unfold compensated direction Limits.Contains
  split
  · simp only
    omega
  · simp only
    omega

/-- In range, compensation goes further the requested way, if it goes at all. -/
theorem le_aim {f : TicFocuser} {t : UInt32} (hlt : f.focusAbsPosNP.value < t.toNat) (hmax : t.toNat ≤ f.limits.max) :
    t.toNat ≤ f.aim t := by
  unfold aim
  split
  · rw [compensated, if_pos hlt]
    omega
  · exact Int.le_refl _

theorem aim_le {f : TicFocuser} {t : UInt32} (hgt : t.toNat < f.focusAbsPosNP.value) (hmin : f.limits.min ≤ t.toNat) :
    f.aim t ≤ t.toNat := by
  have hnot : ¬ f.focusAbsPosNP.value < (t.toNat : Int) := by omega
  unfold aim
  split
  · rw [compensated, if_neg hnot]
    omega
  · exact Int.le_refl _

/-- A request aims into the range if it is in range, or brought there. -/
theorem contains_aim (f : TicFocuser) (t : UInt32) :
    f.limits.Contains (f.aim t) ↔ f.limits.Contains t.toNat ∨ f.BroughtIn t := by
  by_cases hrev : f.Reverses t
  · have haim : f.aim t = f.compensated t := if_pos hrev
    rw [haim, BroughtIn, ← contains_compensated]
    by_cases hin : f.limits.Contains t.toNat
    · have hcomp : f.limits.Contains (f.compensated t) := by
        obtain ⟨hmin, hmax⟩ := hin
        rw [contains_compensated]
        cases f.direction t with
        | outward => simp only; omega
        | inward => simp only; omega
      simp [hcomp, hin]
    · simp [hin, hrev]
  · have haim : f.aim t = t.toNat := if_neg hrev
    simp [haim, BroughtIn, hrev]

/-! ## Absolute requests -/

/-- On one side of `p`. -/
def SameSide (p x y : Int) : Prop := p < x ∧ p < y ∨ x < p ∧ y < p

/-- A request other than for the position last polled sends a target if and only
    if it is in range, one in range and on the same side; out of range, it is
    answered with alert. -/
def RefusesOutOfRange (f : TicFocuser) (t : UInt32) (out : IPState × TicFocuser × List Int32) : Prop :=
  (t.toNat : Int) ≠ f.focusAbsPosNP.value →
    (out.2.2 ≠ [] ↔ f.limits.Contains t.toNat) ∧
    (∀ v ∈ out.2.2, f.limits.Contains v.toInt ∧ SameSide f.focusAbsPosNP.value t.toNat v.toInt) ∧
    (¬ f.limits.Contains t.toNat → out.2.2 = [] ∧ out.1 = .alert)

/-- **Out of range.** An absolute request is treated by its range if and only if
    compensation does not bring it there. -/
theorem out_of_range_refused_iff (f : TicFocuser) (t : UInt32) (ok : Bool) :
    RefusesOutOfRange f t (f.moveAbsFocuser (recorder ok) t []) ↔
      (t.toNat : Int) = f.focusAbsPosNP.value ∨ ¬ f.BroughtIn t := by
  rw [moveAbsFocuser_recorder, RefusesOutOfRange]
  by_cases hh : (t.toNat : Int) = f.focusAbsPosNP.value
  · simp [hh]
  · simp only [ne_eq, hh, not_false_eq_true, true_imp_iff, true_and, false_or]
    apply Iff.intro
    · intro ⟨hsent, _, _⟩ hbrought
      have haim : f.limits.Contains (f.aim t) := (contains_aim f t).mpr (.inr hbrought)
      rw [if_pos haim] at hsent
      exact hbrought.1 (hsent.mp (List.cons_ne_nil _ _))
    · intro hnot
      have haim : f.limits.Contains (f.aim t) ↔ f.limits.Contains t.toNat := by
        rw [contains_aim]
        exact or_iff_left hnot
      by_cases hin : f.limits.Contains t.toNat
      · have hin' := haim.mpr hin
        rw [if_pos hin']
        refine ⟨by simp [hin], ?_, fun hout => absurd hin hout⟩
        intro v hv
        rw [List.mem_singleton.mp hv, toInt_sent hh hin']
        refine ⟨hin', ?_⟩
        by_cases hlt : f.focusAbsPosNP.value < t.toNat
        · have hfar := le_aim hlt hin.2
          exact .inl ⟨hlt, by omega⟩
        · have hgt : (t.toNat : Int) < f.focusAbsPosNP.value := by omega
          have hfar := aim_le hgt hin.1
          exact .inr ⟨hgt, by omega⟩
      · have hout : ¬ f.limits.Contains (f.aim t) := fun hin' => hin (haim.mp hin')
        rw [if_neg hout]
        refine ⟨by simp [hin], by simp, ?_⟩
        intro _
        exact ⟨rfl, answer_alert_iff.mpr ⟨hh, .inr hout⟩⟩

/-- Asked for 2000 with limits 0 and 1000, at 10 and after an inward move: to
    1000. -/
theorem clamped_into_range :
    ¬ RefusesOutOfRange { World.atZero.focuser with focusAbsPosNP := ⟨10, .ok⟩, focusBacklashSP := true } 2000
      (TicFocuser.moveAbsFocuser (recorder true) 2000
        { World.atZero.focuser with focusAbsPosNP := ⟨10, .ok⟩, focusBacklashSP := true } []) := by
  intro h
  obtain ⟨-, -, hout⟩ := h (by decide)
  exact absurd (hout (by decide)).1 (by decide)

/-! ## Relative moves -/

/-- Where a relative move goes, over the integers. -/
def destination (f : TicFocuser) (dir : FocusDirection) (ticks : UInt32) : Int :=
  match dir with
  | .outward => f.focusAbsPosNP.value + ticks.toNat
  | .inward => f.focusAbsPosNP.value - ticks.toNat

/-- An `int32_t` as `uint32_t`. -/
theorem toNat_toUInt32 (p : Int32) : (p.toUInt32.toNat : Int) = p.toInt % 2 ^ 32 := by
  have h : p.toInt = p.toBitVec.toInt := rfl
  have h' : p.toUInt32.toNat = p.toBitVec.toNat := rfl
  have hlt := p.toBitVec.isLt
  rw [h, h', BitVec.toInt_eq_toNat_cond]
  split <;> omega

/-- The request a relative move makes: its destination modulo `2^32`. -/
theorem targetTicks_eq {f : TicFocuser} {p : Int32} (hp : f.focusAbsPosNP.value = p.toInt) (dir : FocusDirection)
    (ticks : UInt32) : f.targetTicks dir ticks = UInt32.ofInt (f.destination dir ticks) := by
  have hlow := toNat_toUInt32 p
  have hticks := ticks.toNat_lt
  apply UInt32.toNat_inj.mp
  simp only [UInt32.ofInt, UInt32.toNat_ofNat']
  cases dir with
  | outward =>
    rw [targetTicks, destination, hp, Int32.ofInt_toInt, UInt32.toUInt32_toInt32, UInt32.toNat_add]
    omega
  | inward =>
    rw [targetTicks, destination, hp, Int32.ofInt_toInt, UInt32.toUInt32_toInt32, UInt32.toNat_sub]
    omega

/-- In range, a relative move sends a target in range, at the destination or
    beyond it; otherwise it sends nothing and is answered with alert. -/
def RightWay (f : TicFocuser) (dir : FocusDirection) (ticks : UInt32) (out : IPState × TicFocuser × List Int32) : Prop :=
  if f.limits.Contains (f.destination dir ticks) then
    ∃ v, out.2.2 = [v] ∧ f.limits.Contains v.toInt ∧
      match dir with
      | .outward => f.destination dir ticks ≤ v.toInt
      | .inward => v.toInt ≤ f.destination dir ticks
  else out.1 = .alert ∧ out.2.2 = []

/-- The request is not for the position last polled: less than a whole turn of
    `uint32_t` away from it. -/
theorem wrapped_ne {f : TicFocuser} {p : Int32} (hp : f.focusAbsPosNP.value = p.toInt) (dir : FocusDirection)
    {ticks : UInt32} (h0 : 0 < ticks) :
    ((UInt32.ofInt (f.destination dir ticks)).toNat : Int) ≠ f.focusAbsPosNP.value := by
  have hticks := ticks.toNat_lt
  have hpos : 0 < ticks.toNat := UInt32.lt_iff_toNat_lt.mp h0
  have hle := p.toInt_lt
  simp only [UInt32.ofInt, UInt32.toNat_ofNat', destination]
  cases dir with
  | outward => simp only; omega
  | inward => simp only; omega

/-- In range, nothing is lost modulo `2^32`. -/
theorem wrapped_of_contains {f : TicFocuser} {dir : FocusDirection} {ticks : UInt32}
    (hin : f.limits.Contains (f.destination dir ticks)) :
    ((UInt32.ofInt (f.destination dir ticks)).toNat : Int) = f.destination dir ticks := by
  have hnn := f.limits.nonneg
  have hfits := f.limits.fits
  obtain ⟨hmin, hmax⟩ := hin
  exact toNat_ofInt (by omega) (by omega)

/-- Compensation goes beyond the destination, if anywhere. -/
theorem outward_le_aim {f : TicFocuser} {ticks : UInt32} (hpos : 0 < ticks.toNat)
    (hin : f.limits.Contains (f.destination .outward ticks)) :
    f.destination .outward ticks ≤ f.aim (UInt32.ofInt (f.destination .outward ticks)) := by
  have hwrap := wrapped_of_contains hin
  have hlt : f.focusAbsPosNP.value < (UInt32.ofInt (f.destination .outward ticks)).toNat := by
    rw [hwrap, destination]
    omega
  have hfar := le_aim hlt (by rw [hwrap]; exact hin.2)
  rwa [hwrap] at hfar

theorem aim_le_inward {f : TicFocuser} {ticks : UInt32} (hpos : 0 < ticks.toNat)
    (hin : f.limits.Contains (f.destination .inward ticks)) :
    f.aim (UInt32.ofInt (f.destination .inward ticks)) ≤ f.destination .inward ticks := by
  have hwrap := wrapped_of_contains hin
  have hgt : (UInt32.ofInt (f.destination .inward ticks)).toNat < f.focusAbsPosNP.value := by
    rw [hwrap, destination]
    omega
  have hfar := aim_le hgt (by rw [hwrap]; exact hin.1)
  rwa [hwrap] at hfar

/-- **The requested way or nowhere.** A relative move is right if and only if its
    destination is in range, or its destination modulo `2^32` is neither in
    range nor brought there. -/
theorem rel_right_way_iff (f : TicFocuser) (p : Int32) (hp : f.focusAbsPosNP.value = p.toInt) (dir : FocusDirection)
    (ticks : UInt32) (h0 : 0 < ticks) (ok : Bool) :
    RightWay f dir ticks (f.moveRelFocuser (recorder ok) dir ticks []) ↔
      f.limits.Contains (f.destination dir ticks) ∨
        ¬ f.limits.Contains (UInt32.ofInt (f.destination dir ticks)).toNat ∧
          ¬ f.BroughtIn (UInt32.ofInt (f.destination dir ticks)) := by
  have hne := wrapped_ne hp dir h0
  have haim := contains_aim f (UInt32.ofInt (f.destination dir ticks))
  have hsent := toInt_sent hne
  simp only [RightWay, moveRelFocuser, targetTicks_eq hp, moveAbsFocuser_recorder, ne_eq, hne, not_false_eq_true,
    true_and]
  by_cases hin : f.limits.Contains (f.destination dir ticks)
  · rw [if_pos hin]
    refine iff_of_true ?_ (.inl hin)
    have hwrap := wrapped_of_contains hin
    have hin' : f.limits.Contains (f.aim (UInt32.ofInt (f.destination dir ticks))) :=
      haim.mpr (.inl (by rwa [hwrap]))
    rw [if_pos hin']
    refine ⟨_, rfl, by rwa [hsent hin'], ?_⟩
    rw [hsent hin']
    have hpos : 0 < ticks.toNat := UInt32.lt_iff_toNat_lt.mp h0
    cases dir with
    | outward => exact outward_le_aim hpos hin
    | inward => exact aim_le_inward hpos hin
  · rw [if_neg hin, or_iff_right hin, ← not_or, ← haim]
    apply Iff.intro
    · intro h hin'
      have hnone := h.2
      rw [if_pos hin'] at hnone
      exact List.cons_ne_nil _ _ hnone
    · intro hout
      exact ⟨answer_alert_iff.mpr ⟨hne, .inr hout⟩, if_neg hout⟩

/-- From 10 inward by 5, with limits 0 and 1000. -/
theorem rel_right_way_inward :
    let f : TicFocuser := { World.atZero.focuser with focusAbsPosNP := ⟨10, .ok⟩ }
    f.focusAbsPosNP.value = (10 : Int32).toInt ∧ (0 : UInt32) < 5 ∧
      (RightWay f .inward 5 (f.moveRelFocuser (recorder true) .inward 5 []) ↔
        f.limits.Contains (f.destination .inward 5) ∨
          ¬ f.limits.Contains (UInt32.ofInt (f.destination .inward 5)).toNat ∧
            ¬ f.BroughtIn (UInt32.ofInt (f.destination .inward 5))) := by
  intro f
  have hp : f.focusAbsPosNP.value = (10 : Int32).toInt := by decide
  exact ⟨hp, by decide, rel_right_way_iff f 10 hp .inward 5 (by decide) true⟩

/-- From 10 inward by 20, with limits 0 and 1000 and compensation on: outward, to
    1000. -/
theorem inward_past_zero :
    let f : TicFocuser := { World.atZero.focuser with focusAbsPosNP := ⟨10, .ok⟩, focusBacklashSP := true }
    ¬ RightWay f .inward 20 (f.moveRelFocuser (recorder true) .inward 20 []) := by
  intro f h
  rw [RightWay, if_neg (by decide)] at h
  exact absurd h.2 (by decide)

end TicFocuser

end TicFocuserNG
