import TicFocuserNG.Lib.Run
import TicFocuserNG.System

/- The switch properties of the driver, and what Energize tells of the motor.

   `ISNewSwitch` takes a message for Energize by the name of the first switch it lists,
   and does not look at the states. `Connect` energizes the motor and leaves the
   property as it is. `tells_power_iff`: throughout a run an ok of the property is true
   of the motor, which is energized exactly if the last message answered ok turned that
   switch on, exactly when such a message lists the switch it turns on first, and no
   connection energizes a motor that the property says is not. -/
namespace TicFocuserNG

/-- A message for a switch property, with one switch at least and their states. -/
structure NewSwitch where
  dev : String
  name : String
  first : String × Bool
  others : List (String × Bool) := []
  deriving DecidableEq, Repr

/-- The switch that the message turns on. -/
def NewSwitch.on (m : NewSwitch) : Option String := ((m.first :: m.others).find? Prod.snd).map Prod.fst

/-- The driver with the states of its own switch properties. -/
structure SwitchPanel where
  focuser : TicFocuser
  focusParkingModeState : IPState := .idle
  energizeFocuserState : IPState := .idle

namespace SwitchPanel

def energizeFocuserName : String := "ENERGIZE_FOCUSER"

/-- `iuUpdateSwitch` is what a message makes of the switch FOCUS_PARKON, `base` the
    result of `INDI::Focuser::ISNewSwitch`. -/
def isNewSwitch {σ : Type} (drv : TicDriverInterface σ) (deviceName : String) (iuUpdateSwitch : NewSwitch → Bool → Bool)
    (base : Bool) (m : NewSwitch) (p : SwitchPanel) (c : σ) : Bool × SwitchPanel × σ :=
  if m.dev = deviceName then
    if m.name = "FOCUS_PARK_MODE" then
      (true, { p with
        focuser := { p.focuser with focusParkingModeSP := iuUpdateSwitch m p.focuser.focusParkingModeSP }
        focusParkingModeState := .ok }, c)
    else if m.name = energizeFocuserName then
      let (res, c) :=
        if m.first.1 = energizeFocuserName then TicFocuser.energizeFocuser drv c else TicFocuser.deenergizeFocuser drv c
      (true, { p with energizeFocuserState := if res then .ok else .alert }, c)
    else (base, p, c)
  else (base, p, c)

end SwitchPanel

/-! ## The motor's power -/

/-- A motor that is energized or not, behind commands that succeed (`ok`) or fail, and
    an `exitSafeStart` of its own. -/
def powerInterface (ok exits : Bool) : TicDriverInterface Bool where
  energize powered := (ok, if ok then true else powered)
  deenergize powered := (ok, if ok then false else powered)
  exitSafeStart powered := (exits, powered)
  haltAndHold powered := (ok, powered)
  setTargetPosition _ powered := (ok, powered)
  haltAndSetPosition _ powered := (ok, powered)
  getVariables powered := (none, powered)

/-- The panel and the motor, and the switch that the last message for Energize turned on
    that was answered ok. -/
structure Energizing where
  panel : SwitchPanel
  powered : Bool
  asked : Option String := none

inductive PowerEvent where
  | newSwitch (m : NewSwitch) (base ok exits : Bool)
  /-- `res` is the result of `Focuser::Connect()`. -/
  | connect (res ok exits : Bool)
  deriving DecidableEq, Repr

namespace Energizing
variable (deviceName : String) (iuUpdateSwitch : NewSwitch → Bool → Bool)

/-- The message is for Energize. -/
def Own (m : NewSwitch) : Prop := m.dev = deviceName ∧ m.name = SwitchPanel.energizeFocuserName

instance (m : NewSwitch) : Decidable (Own deviceName m) := inferInstanceAs (Decidable (_ ∧ _))

def step (s : Energizing) : PowerEvent → Energizing
  | .newSwitch m base ok exits =>
    let (_, panel, powered) := s.panel.isNewSwitch (powerInterface ok exits) deviceName iuUpdateSwitch base m s.powered
    { panel, powered, asked := if Own deviceName m ∧ panel.energizeFocuserState = .ok then m.on else s.asked }
  | .connect res ok exits =>
    { s with powered := (TicFocuser.connect (powerInterface ok exits) res s.powered).2 }

/-- An ok of the property is true of the motor. -/
def Tells (s : Energizing) : Prop :=
  s.panel.energizeFocuserState = .ok → (s.powered = true ↔ s.asked = some SwitchPanel.energizeFocuserName)

/-- A message answered ok lists the switch it turns on first, as far as that is the one
    that energizes; a connection does not energize a motor that is said to be off. -/
def Kept (s : Energizing) : PowerEvent → Prop
  | .newSwitch m _ ok exits =>
    Own deviceName m → ok = true → (m.first.1 = SwitchPanel.energizeFocuserName → exits = true) →
      (m.first.1 = SwitchPanel.energizeFocuserName ↔ m.on = some SwitchPanel.energizeFocuserName)
  | .connect res ok _ =>
    res = true → ok = true → s.panel.energizeFocuserState = .ok → s.asked = some SwitchPanel.energizeFocuserName

variable {deviceName iuUpdateSwitch}

/-- Other messages leave the property and the motor. -/
theorem step_other (s : Energizing) {m : NewSwitch} (base ok exits : Bool) (h : ¬ Own deviceName m) :
    (s.step deviceName iuUpdateSwitch (.newSwitch m base ok exits)).Tells ↔ s.Tells := by
  have hasked : ∀ state : IPState, ¬ (Own deviceName m ∧ state = .ok) := fun _ hc => h hc.1
  by_cases hdev : m.dev = deviceName
  · by_cases hpark : m.name = "FOCUS_PARK_MODE"
    · simp only [step, SwitchPanel.isNewSwitch, if_pos hdev, if_pos hpark, if_neg (hasked _), Tells]
    · have hname : ¬ m.name = SwitchPanel.energizeFocuserName := fun hn => h ⟨hdev, hn⟩
      simp only [step, SwitchPanel.isNewSwitch, if_pos hdev, if_neg hpark, if_neg hname, if_neg (hasked _), Tells]
  · simp only [step, SwitchPanel.isNewSwitch, if_neg hdev, if_neg (hasked _), Tells]

/-- What a message for Energize does: the property is ok exactly if the operations
    succeed, and the motor is energized then if the name said so. -/
theorem isNewSwitch_own (iuUpdateSwitch : NewSwitch → Bool → Bool) (p : SwitchPanel) {m : NewSwitch} (base ok exits powered : Bool) (h : Own deviceName m) :
    ∃ powered', p.isNewSwitch (powerInterface ok exits) deviceName iuUpdateSwitch base m powered =
        (true, { p with energizeFocuserState :=
          if ok = true ∧ (m.first.1 = SwitchPanel.energizeFocuserName → exits = true) then .ok else .alert }, powered') ∧
      (ok = true → (powered' = true ↔ m.first.1 = SwitchPanel.energizeFocuserName)) := by
  have hpark : ¬ m.name = "FOCUS_PARK_MODE" := by
    rw [h.2]
    decide
  rw [SwitchPanel.isNewSwitch, if_pos h.1, if_neg hpark, if_pos h.2]
  by_cases hfirst : m.first.1 = SwitchPanel.energizeFocuserName
  · rw [if_pos hfirst]
    cases ok with
    | false => exact ⟨powered, by simp [TicFocuser.energizeFocuser, powerInterface], fun hok => absurd hok Bool.false_ne_true⟩
    | true =>
      refine ⟨true, ?_, fun _ => iff_of_true rfl hfirst⟩
      simp [TicFocuser.energizeFocuser, powerInterface, hfirst]
  · rw [if_neg hfirst]
    cases ok with
    | false => exact ⟨powered, by simp [TicFocuser.deenergizeFocuser, powerInterface], fun hok => absurd hok Bool.false_ne_true⟩
    | true =>
      refine ⟨false, ?_, fun _ => iff_of_false Bool.false_ne_true hfirst⟩
      simp [TicFocuser.deenergizeFocuser, powerInterface, hfirst]

/-- A message for Energize settles both sides anew. -/
theorem step_own (s : Energizing) {m : NewSwitch} (base ok exits : Bool) (h : Own deviceName m) :
    (s.step deviceName iuUpdateSwitch (.newSwitch m base ok exits)).Tells ↔
      (ok = true → (m.first.1 = SwitchPanel.energizeFocuserName → exits = true) →
        (m.first.1 = SwitchPanel.energizeFocuserName ↔ m.on = some SwitchPanel.energizeFocuserName)) := by
  obtain ⟨powered', hres, hpower⟩ := isNewSwitch_own iuUpdateSwitch s.panel base ok exits s.powered h
  simp only [step, hres, Tells, h, true_and]
  by_cases hok : ok = true ∧ (m.first.1 = SwitchPanel.energizeFocuserName → exits = true)
  · rw [if_pos hok, if_pos rfl, hpower hok.1]
    exact ⟨fun hk _ _ => hk rfl, fun hk _ => hk hok.1 hok.2⟩
  · rw [if_neg hok]
    exact iff_of_true (fun halert => absurd halert (by decide)) fun hok' hexits => absurd ⟨hok', hexits⟩ hok

theorem tells_step (s : Energizing) (e : PowerEvent) (h : s.Tells) :
    (s.step deviceName iuUpdateSwitch e).Tells ↔ s.Kept deviceName e := by
  cases e with
  | newSwitch m base ok exits =>
    by_cases hown : Own deviceName m
    · rw [step_own s base ok exits hown]
      exact ⟨fun hk _ => hk, fun hk => hk hown⟩
    · rw [step_other s base ok exits hown]
      exact iff_of_true h fun hown' => absurd hown' hown
  | connect res ok exits =>
    cases res with
    | false => exact iff_of_true h fun hres => absurd hres Bool.false_ne_true
    | true =>
      cases ok with
      | false => exact iff_of_true h fun _ hok => absurd hok Bool.false_ne_true
      | true =>
        -- the motor is energized, whatever was asked for
        have hpowered : (s.step deviceName iuUpdateSwitch (.connect true true exits)).powered = true := rfl
        exact ⟨fun ht _ _ hstate => (ht hstate).mp hpowered, fun hk hstate => iff_of_true hpowered (hk rfl rfl hstate)⟩

/-- **The Energize property tells the truth**, throughout a run, exactly when every
    event keeps it so. -/
theorem tells_power_iff (s : Energizing) (es : List PowerEvent) (h : s.Tells) :
    Run.Always (step deviceName iuUpdateSwitch) Tells s es ↔
      Run.Each (step deviceName iuUpdateSwitch) (Kept deviceName) s es :=
  Run.always_iff_each tells_step es h

/-- A driver at 0, connected a moment ago. -/
def connectedAtZero : Energizing where
  panel := { focuser := World.atZero.focuser }
  powered := true

/-- Turned off and on, with the switch turned on listed first, or alone. -/
theorem tells_power_iff_offAndOn :
    connectedAtZero.Tells ∧ Run.Always (step "TIC Focuser NG" fun _ on => on) Tells connectedAtZero
      [.newSwitch ⟨"TIC Focuser NG", "ENERGIZE_FOCUSER", ("DEENERGIZE_FOCUSER", true), [("ENERGIZE_FOCUSER", false)]⟩
        false true true,
        .newSwitch ⟨"TIC Focuser NG", "ENERGIZE_FOCUSER", ("ENERGIZE_FOCUSER", true), []⟩ false true true,
        .connect true true true] := by
  have hstart : connectedAtZero.Tells := fun hstate => absurd hstate (by decide)
  refine ⟨hstart, (tells_power_iff connectedAtZero _ hstart).mpr ⟨?_, ?_, ?_, trivial⟩⟩
  · exact fun _ _ _ => by decide
  · exact fun _ _ _ => by decide
  · exact fun _ _ _ => by decide

/-- Asked to be turned off, with the other switch listed first: turned on. -/
example : ¬ Run.Each (step "TIC Focuser NG" fun _ on => on) (Kept "TIC Focuser NG") connectedAtZero
    [.newSwitch ⟨"TIC Focuser NG", "ENERGIZE_FOCUSER", ("ENERGIZE_FOCUSER", false), [("DEENERGIZE_FOCUSER", true)]⟩
      false true true] := by
  intro h
  exact absurd (h.1 (by decide) rfl (fun _ => rfl)) (by decide)

end Energizing

end TicFocuserNG
