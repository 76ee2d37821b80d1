import Mathlib.Data.Nat.Bitwise
import TicFocuserNG.Lib.Decimal
import TicFocuserNG.Requests

/- The info tab, as `TimerHit` fills it.

   A poll that receives variables writes them into the texts of the tab.

     1. `shows_of`: from the texts the variables can be read again: the voltage and a
        large current limit to half of the last decimal, and of the errors those that
        fit the status the interface has.
     2. `tab_tells_last_received`: so after any requests over any interface. -/
namespace TicFocuserNG

/-! ## The texts -/

/-- The bit of a `TicError`. -/
def errorBit (error : UInt32) : UInt32 := 1 <<< error

def ticErrorNamesUi : List (String × UInt32) :=
  [("Intentionally de-energized", errorBit 0), ("Motor driver error", errorBit 1), ("Low VIN", errorBit 2),
    ("Kill switch active", errorBit 3), ("Required input invalid", errorBit 4), ("Serial error", errorBit 5),
    ("Command timeout", errorBit 6), ("Safe start violation", errorBit 7), ("ERR line high", errorBit 8),
    ("Serial framing", errorBit 16), ("Serial RX overrun", errorBit 17), ("Serial format", errorBit 18),
    ("Serial CRC", errorBit 19), ("Encoder skip", errorBit 20)]

/-- `snprintf` into a buffer of `size` characters, the last for the end of the
    string. -/
def snprintf (size : Nat) (text : List Char) : String := String.ofList (text.take (size - 1))

/-- `%.2f` of `((double)v)/1000`. -/
def thousandths (v : Int32) : List Char :=
  Decimal.signed (decide (v < 0)) (Decimal.fixed 2 (Decimal.printed 2 v.toInt.natAbs 1000))

/-- `%d`. -/
def decimal (v : Int32) : List Char := Decimal.signed (decide (v < 0)) (Decimal.fixed 0 v.toInt.natAbs)

namespace TicVariables

def vinText (vars : TicVariables) : String := snprintf 20 (thousandths vars.vinVoltage ++ " V".toList)

def currentText (vars : TicVariables) : String :=
  if 1000 < vars.currentLimit then snprintf 20 (thousandths vars.currentLimit ++ " A".toList)
  else snprintf 20 (decimal vars.currentLimit ++ " mA".toList)

def errorText (vars : TicVariables) (code : UInt32) : String :=
  if code &&& vars.errorStatus.toUInt32 ≠ 0 then "Error" else "-"

end TicVariables

/-- The texts of `InfoS`, and those of `InfoErrorS`. -/
structure InfoTab where
  vinVoltage : String
  currentLimit : String
  energized : String
  stepMode : String
  operationState : String
  errors : List String
  deriving DecidableEq, Repr

namespace InfoTab

def empty : InfoTab := ⟨"", "", "", "", "", ticErrorNamesUi.map fun _ => ""⟩

/-- The texts that `TimerHit` saves. -/
def of (vars : TicVariables) : InfoTab where
  vinVoltage := vars.vinText
  currentLimit := vars.currentText
  energized := if vars.energized then "Yes" else "No"
  stepMode := vars.stepMode
  operationState := vars.operationalState
  errors := ticErrorNamesUi.map fun e => vars.errorText e.2

/-! ## Reading them -/

/-- The voltage shown, in hundredths of a volt. -/
def volts (info : InfoTab) : Option Int :=
  if Decimal.suffix info.vinVoltage.toList = " V".toList then some (Decimal.number info.vinVoltage.toList) else none

/-- The current limit shown, in mA. -/
def milliamps (info : InfoTab) : Option Int :=
  if Decimal.suffix info.currentLimit.toList = " A".toList then some (10 * Decimal.number info.currentLimit.toList)
  else if Decimal.suffix info.currentLimit.toList = " mA".toList then some (Decimal.number info.currentLimit.toList)
  else none

/-- The error status shown. -/
def errorStatus (info : InfoTab) : Nat :=
  ((ticErrorNamesUi.zip info.errors).map fun e => if e.2 = "Error" then e.1.2.toNat else 0).sum

/-- The texts tell the variables. -/
structure Shows (info : InfoTab) (vars : TicVariables) : Prop where
  vinVoltage : ∃ v, info.volts = some v ∧ |10 * v - vars.vinVoltage.toInt| ≤ 5
  currentLimit : ∃ v, info.milliamps = some v ∧ |v - vars.currentLimit.toInt| ≤ 5 ∧
    (vars.currentLimit ≤ 1000 → v = vars.currentLimit.toInt)
  energized : info.energized = "Yes" ↔ vars.energized = true
  stepMode : info.stepMode = vars.stepMode
  operationState : info.operationState = vars.operationalState
  errorStatus : info.errorStatus = vars.errorStatus.toNat % 2 ^ 9

end InfoTab

/-! ## The numbers -/

theorem natAbs_le (v : Int32) : v.toInt.natAbs ≤ 2 ^ 31 := by
  have hlo := v.le_toInt
  have hhi := v.toInt_lt
  omega

/-- The number of hundredths that is shown for `n` thousandths. -/
theorem printed_thousandths {n : Nat} (h : n ≤ 2 ^ 31) :
    10 * Decimal.printed 2 n 1000 ≤ n + 5 ∧ n ≤ 10 * Decimal.printed 2 n 1000 + 5 := by
  have hlog : n.log2 ≤ 31 := by
    have hlt : n < 2 ^ 32 := by omega
    by_cases h0 : n = 0
    · rw [h0]
      decide
    · have := (Nat.log2_lt h0).mpr hlt
      omega
  have hplaces : 17 ≤ Decimal.places n 1000 := by
    have hge := Decimal.places_ge n 1000
    have h9 : Nat.log2 1000 = 9 := by decide
    omega
  have hfine : 10 ^ 2 * 1000 < 2 ^ Decimal.places n 1000 :=
    calc 10 ^ 2 * 1000 < 2 ^ 17 := by norm_num
      _ ≤ 2 ^ Decimal.places n 1000 := Nat.pow_le_pow_right (by decide) hplaces
  have hnear := Decimal.printed_near (by decide) hfine
  omega

/-- No text is cut off. -/
theorem snprintf_toList {negative : Bool} {k n w : Nat} {unit : List Char} (hw : 0 < w) (hn : n < 10 ^ (k + w))
    (hfits : w + k + 2 + unit.length ≤ 19) :
    (snprintf 20 (Decimal.signed negative (Decimal.fixed k n) ++ unit)).toList =
      Decimal.signed negative (Decimal.fixed k n) ++ unit := by
  have hfixed := Decimal.length_fixed_le hw hn
  have hsigned : (Decimal.signed negative (Decimal.fixed k n)).length ≤ (Decimal.fixed k n).length + 1 := by
    rw [Decimal.signed]
    split
    · exact Nat.le_refl _
    · exact Nat.le_succ _
  rw [snprintf, String.toList_ofList, List.take_of_length_le]
  rw [List.length_append]
  omega

/-- `n` with the sign of `v`. -/
def withSign (v : Int32) (n : Nat) : Int := if decide (v < 0) then -(n : Int) else n

theorem withSign_near {v : Int32} {n k : Nat} (h : n ≤ v.toInt.natAbs + k ∧ v.toInt.natAbs ≤ n + k) :
    |withSign v n - v.toInt| ≤ k := by
  have hneg : v < 0 ↔ v.toInt < 0 := Int32.lt_iff_toInt_lt
  rw [withSign, abs_le]
  by_cases hv : v < 0
  · have := hneg.mp hv
    rw [if_pos (decide_eq_true hv)]
    omega
  · have := mt hneg.mpr hv
    rw [if_neg (by simpa using hv)]
    omega

section
variable (v : Int32) (unit : List Char) (hdigits : unit.any Char.isDigit = false) (hlen : unit.length ≤ 4)
include hdigits

theorem no_digits : ∀ c ∈ ' ' :: unit, c.isDigit = false := by
  intro c hc
  rcases List.mem_cons.mp hc with rfl | hc
  · rfl
  · exact Bool.eq_false_iff.mpr (List.any_eq_false.mp hdigits c hc)

include hlen

theorem thousandths_text :
    Decimal.suffix (snprintf 20 (thousandths v ++ ' ' :: unit)).toList = ' ' :: unit ∧
      |10 * Decimal.number (snprintf 20 (thousandths v ++ ' ' :: unit)).toList - v.toInt| ≤ 5 := by
  have hn := natAbs_le v
  have hnear := printed_thousandths hn
  have hfits : 9 + 2 + 2 + (' ' :: unit).length ≤ 19 := by
    rw [List.length_cons]
    omega
  rw [thousandths, snprintf_toList (w := 9) (by decide) (by omega) hfits, Decimal.suffix_signed,
    Decimal.number_signed _ _ _ (no_digits unit hdigits)]
  refine ⟨rfl, ?_⟩
  have hten : 10 * (if decide (v < 0) then -((Decimal.printed 2 v.toInt.natAbs 1000 : Nat) : Int) else
      Decimal.printed 2 v.toInt.natAbs 1000) = withSign v (10 * Decimal.printed 2 v.toInt.natAbs 1000) := by
    rw [withSign]
    split <;> omega
  rw [hten]
  exact withSign_near hnear.symm.symm

theorem decimal_text :
    Decimal.suffix (snprintf 20 (decimal v ++ ' ' :: unit)).toList = ' ' :: unit ∧
      Decimal.number (snprintf 20 (decimal v ++ ' ' :: unit)).toList = v.toInt := by
  have hn := natAbs_le v
  have hfits : 10 + 0 + 2 + (' ' :: unit).length ≤ 19 := by
    rw [List.length_cons]
    omega
  rw [decimal, snprintf_toList (w := 10) (by decide) (by omega) hfits, Decimal.suffix_signed,
    Decimal.number_signed _ _ _ (no_digits unit hdigits)]
  refine ⟨rfl, ?_⟩
  have hexact := withSign_near (v := v) (n := v.toInt.natAbs) (k := 0) ⟨Nat.le_refl _, Nat.le_refl _⟩
  exact sub_eq_zero.mp (abs_eq_zero.mp (le_antisymm hexact (abs_nonneg _)))

end

namespace InfoTab

theorem volts_of (vars : TicVariables) :
    ∃ v, (of vars).volts = some v ∧ |10 * v - vars.vinVoltage.toInt| ≤ 5 := by
  obtain ⟨hunit, hnear⟩ := thousandths_text vars.vinVoltage ['V'] (by decide) (by decide)
  exact ⟨_, if_pos hunit, hnear⟩

theorem milliamps_of (vars : TicVariables) :
    ∃ v, (of vars).milliamps = some v ∧ |v - vars.currentLimit.toInt| ≤ 5 ∧
      (vars.currentLimit ≤ 1000 → v = vars.currentLimit.toInt) := by
  by_cases hlarge : 1000 < vars.currentLimit
  · obtain ⟨hunit, hnear⟩ := thousandths_text vars.currentLimit ['A'] (by decide) (by decide)
    have htext : (of vars).currentLimit = snprintf 20 (thousandths vars.currentLimit ++ ' ' :: ['A']) := if_pos hlarge
    rw [← htext] at hunit hnear
    exact ⟨_, if_pos hunit, hnear, fun hle => absurd hlarge (Int32.not_lt.mpr hle)⟩
  · obtain ⟨hunit, hvalue⟩ := decimal_text vars.currentLimit ['m', 'A'] (by decide) (by decide)
    have htext : (of vars).currentLimit = snprintf 20 (decimal vars.currentLimit ++ ' ' :: ['m', 'A']) := if_neg hlarge
    rw [← htext] at hunit hvalue
    have hother : Decimal.suffix (of vars).currentLimit.toList ≠ " A".toList := by
      rw [hunit]
      decide
    have hread : (of vars).milliamps = some vars.currentLimit.toInt := by
      rw [milliamps, if_neg hother, ← hvalue]
      exact if_pos hunit
    exact ⟨_, hread, by simp, fun _ => rfl⟩

/-- A row of the error table. -/
theorem errorText_bit (vars : TicVariables) {i : Nat} (h : i < 32) :
    (if vars.errorText (errorBit (UInt32.ofNat i)) = "Error" then (errorBit (UInt32.ofNat i)).toNat else 0) =
      2 ^ i * (vars.errorStatus.toNat.testBit i).toNat := by
  have hbit : (errorBit (UInt32.ofNat i)).toNat = 2 ^ i := by
    have hmod : (UInt32.ofNat i).toNat % 32 = i := by
      rw [UInt32.toNat_ofNat']
      omega
    have hlt : 2 ^ i < 2 ^ 32 := Nat.pow_lt_pow_right (by decide) h
    rw [errorBit, UInt32.toNat_shiftLeft, hmod]
    show 1 <<< i % 2 ^ 32 = 2 ^ i
    rw [Nat.one_shiftLeft, Nat.mod_eq_of_lt hlt]
  have hand : (errorBit (UInt32.ofNat i) &&& vars.errorStatus.toUInt32).toNat =
      2 ^ i * (vars.errorStatus.toNat.testBit i).toNat := by
    rw [UInt32.toNat_and, hbit, UInt16.toNat_toUInt32, Nat.two_pow_and]
  have herror : vars.errorText (errorBit (UInt32.ofNat i)) = "Error" ↔ vars.errorStatus.toNat.testBit i = true := by
    have hset : errorBit (UInt32.ofNat i) &&& vars.errorStatus.toUInt32 ≠ 0 ↔ vars.errorStatus.toNat.testBit i = true := by
      rw [ne_eq, ← UInt32.toNat_inj, hand]
      cases vars.errorStatus.toNat.testBit i <;> simp
    rw [← hset, TicVariables.errorText]
    split <;> simp_all
  rw [hbit]
  cases hb : vars.errorStatus.toNat.testBit i with
  | false => rw [if_neg (fun h => by simp [herror.mp h] at hb)]; rfl
  | true => rw [if_pos (herror.mpr hb)]; simp

theorem errorStatus_of (vars : TicVariables) : (of vars).errorStatus = vars.errorStatus.toNat % 2 ^ 9 := by
  have hlt := vars.errorStatus.toNat_lt
  have hsum : (of vars).errorStatus = ([0, 1, 2, 3, 4, 5, 6, 7, 8, 16, 17, 18, 19, 20].map fun i =>
      if vars.errorText (errorBit (UInt32.ofNat i)) = "Error" then (errorBit (UInt32.ofNat i)).toNat else 0).sum := rfl
  have hrows : ∀ i ∈ [0, 1, 2, 3, 4, 5, 6, 7, 8, 16, 17, 18, 19, 20],
      (if vars.errorText (errorBit (UInt32.ofNat i)) = "Error" then (errorBit (UInt32.ofNat i)).toNat else 0) =
        2 ^ i * (vars.errorStatus.toNat.testBit i).toNat := by
    intro i hi
    have hsmall : ∀ i ∈ [0, 1, 2, 3, 4, 5, 6, 7, 8, 16, 17, 18, 19, 20], i < 32 := by decide
    exact errorText_bit vars (hsmall i hi)
  rw [hsum, List.map_congr_left hrows]
  simp only [List.map_cons, List.map_nil, List.sum_cons, List.sum_nil, Nat.toNat_testBit]
  -- the bits from 16 on are not in the status
  omega

theorem shows_of (vars : TicVariables) : Shows (of vars) vars where
  vinVoltage := volts_of vars
  currentLimit := milliamps_of vars
  energized := by
    show (if vars.energized then "Yes" else "No") = "Yes" ↔ _
    cases vars.energized <;> decide
  stepMode := rfl
  operationState := rfl
  errorStatus := errorStatus_of vars

/-! ## Over a run -/

section
variable {σ : Type} (drv : TicDriverInterface σ)

/-- The variables that a poll of a connected driver receives. -/
def delivered (s : TicFocuser × σ) : Request → List TicVariables
  | .poll => if s.1.connected then (drv.getVariables s.2).1.toList else []
  | _ => []

/-- The tab after a request. -/
def served (s : TicFocuser × σ) (info : InfoTab) : Request → InfoTab
  | .poll =>
    if s.1.connected then
      match drv.getVariables s.2 with
      | (some vars, _) => of vars
      | (none, _) => info
    else info
  | _ => info

/-- The driver with its tab. -/
def step (s : (TicFocuser × σ) × InfoTab) (r : Request) : (TicFocuser × σ) × InfoTab :=
  (Deployment.step drv s.1 r, served drv s.1 s.2 r)

theorem served_eq (s : TicFocuser × σ) (info : InfoTab) (r : Request) :
    served drv s info r = (((delivered drv s r).getLast?).map of).getD info := by
  cases r with
  | poll =>
    rw [served, delivered]
    split
    · rcases drv.getVariables s.2 with ⟨_ | vars, c⟩ <;> rfl
    · rfl
  | _ => rfl

theorem run_eq (s : TicFocuser × σ) (info : InfoTab) (rs : List Request) :
    rs.foldl (step drv) (s, info) = (rs.foldl (Deployment.step drv) s,
      (((Run.outputs (Deployment.step drv) (delivered drv) s rs).getLast?).map of).getD info) := by
  induction rs generalizing s info with
  | nil => rfl
  | cons r rs ih =>
    rw [List.foldl_cons, List.foldl_cons, step, ih, served_eq, Run.outputs, List.getLast?_append]
    cases (Run.outputs (Deployment.step drv) (delivered drv) (Deployment.step drv s r) rs).getLast? <;> rfl

/-- The texts tell these variables, or are those of the start. -/
def Tells (info : InfoTab) : Option TicVariables → Prop
  | none => info = empty
  | some vars => Shows info vars

/-- **The tab tells the variables received last.** After any requests, over any
    interface, whichever polls fail: the texts of the start before the first
    variables, and from then on texts from which the last ones can be read. -/
theorem tab_tells_last_received (f : TicFocuser) (c : σ) (rs : List Request) :
    Tells (rs.foldl (step drv) ((f, c), empty)).2
      (Run.outputs (Deployment.step drv) (delivered drv) (f, c) rs).getLast? := by
  rw [run_eq]
  cases (Run.outputs (Deployment.step drv) (delivered drv) (f, c) rs).getLast? with
  | none => rfl
  | some vars => exact shows_of vars

end

end InfoTab

end TicFocuserNG
