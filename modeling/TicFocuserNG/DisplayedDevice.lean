import TicFocuserNG.Frames
import TicFocuserNG.Lib.Run
import TicFocuserNG.SavedSettings

/- The device a connection plugin displays, over whole runs of `Connect`,
   `Disconnect`, `ISNewText` and `saveConfigItems`.

   A plugin holds its setting twice: the text it requires, and the text its property
   displays, which while connected is the device connected to. A run ends in `none`
   where `TicUsb::connect` follows a list it did not get.

     1. `Plugin.connect_spec`, `disconnect_setting`, `isNewText_setting`: what each
        operation does to the two.
     2. `displays_used_iff`: a disconnected plugin displays what it requires, in every
        state of a run, exactly when each connection that ends was one to the required
        device. `PololuUsbConnection` needs no condition: its `Disconnect` is that of
        `UsbConnectionBase`, which displays the required serial number again. -/
namespace TicFocuserNG

/-! ## ISNewText -/

/-- A message for a text property with one element. -/
structure NewText where
  dev : String
  name : String
  element : String
  text : String
  deriving DecidableEq, Repr

/-- `IUUpdateText`, which refuses an element of another name. -/
def TextProperty.update (names : TextNames) (m : NewText) (tp : TextProperty) : TextProperty :=
  if m.element = names.element then { tp with text := m.text } else tp

def Setting.isNewText (deviceName : String) (names : TextNames) (isConnected : Bool) (m : NewText) (s : Setting) :
    Bool × Setting :=
  if m.dev = deviceName ∧ m.name = names.property then
    if s.required = m.text then (true, s)
    else
      let s := { s with required := m.text }
      if isConnected = true then
        (true, { s with property.state := if s.required = "" then .idle else .busy })
      else
        let s := { s with property := s.property.update names m }
        (true, { s with property.state := if s.required = "" then .idle else .ok })
  else (false, s)

def UsbConnectionBase.isNewText (deviceName serialNFieldName : String) (isConnected : Bool) (m : NewText)
    (c : UsbConnectionBase) : Bool × UsbConnectionBase :=
  let (res, s) := c.setting.isNewText deviceName (names serialNFieldName) isConnected m
  (res, ofSetting s)

/-! ## BluetoothConnection -/

namespace BluetoothConnection
variable {σ : Type} (os : Posix σ)

def isNewText (deviceName : String) (isConnected : Bool) (m : NewText) (c : BluetoothConnection σ) :
    Bool × BluetoothConnection σ :=
  let (res, s) := c.setting.isNewText deviceName names isConnected m
  (res, c.withSetting s)

/-- `getUpTime`, the register of four bytes at 0x35. The device number of the
    `TicSerial` is its default. -/
def getUpTime (buffer : List UInt8) (t : Tic (StreamBT × σ)) : Option (UInt32 × Tic (StreamBT × σ)) :=
  (TicSerial.getSegment (StreamBT.stream os) 255 .getVariable 0x35 4 buffer t).map fun (buffer, t) =>
    (TicBase.value32 buffer, t)

def callHandshake (buffer : List UInt8) (t : Tic (StreamBT × σ)) : Option (Bool × Tic (StreamBT × σ)) :=
  (getUpTime os buffer t).map fun (uptime, t) => (decide (t.lastError = 0 ∧ 0 < uptime), t)

/-- `Connect`; `buffer` is what the variable of the up time holds before. -/
def connect (buffer : List UInt8) (c : BluetoothConnection σ) : Option (Bool × BluetoothConnection σ) :=
  let (res, io) := StreamBT.connect os c.requiredBtMacAddress c.ticSerial.io.1 c.ticSerial.io.2
  let c := { c with ticSerial := { c.ticSerial with io } }
  if res = false then some (false, c)
  else
    (callHandshake os buffer c.ticSerial).map fun (res, ticSerial) =>
      if res = false then
        (false, { c with ticSerial := { ticSerial with io := StreamBT.disconnect os ticSerial.io.1 ticSerial.io.2 } })
      else (true, { c with ticSerial, btMacAddressTP := ⟨c.requiredBtMacAddress, .ok⟩ })

def disconnect (c : BluetoothConnection σ) : BluetoothConnection σ :=
  { c with ticSerial := { c.ticSerial with io := StreamBT.disconnect os c.ticSerial.io.1 c.ticSerial.io.2 } }

end BluetoothConnection

/-! ## The plugins -/

namespace Plugin
variable {σ : Type} (os : Posix σ)

/-- What an attempt to connect meets, apart from the system: the devices that are
    found, with the buffers of the calls. -/
def Attempt : Plugin → Type
  | .pololuUsb => Option (List TicDevice)
  | .libUsb => Except LibusbError (List UsbDevice) × String
  | .bluetooth => List UInt8

def connect : (p : Plugin) → p.Attempt → p.Object σ → Option (Bool × p.Object σ)
  | .pololuUsb, list, c => some (PololuUsbConnection.connect list c)
  | .libUsb, (list, devSerial), c => LibUsbConnection.connect list devSerial c
  | .bluetooth, buffer, c => BluetoothConnection.connect os buffer c

def disconnect : (p : Plugin) → p.Object σ → p.Object σ
  | .pololuUsb, c => PololuUsbConnection.disconnect c
  | .libUsb, c => LibUsbConnection.disconnect c
  | .bluetooth, c => BluetoothConnection.disconnect os c

/-- The USB plugins have that of `UsbConnectionBase`. -/
def isNewText (deviceName : String) (isConnected : Bool) (m : NewText) : (p : Plugin) → p.Object σ → Bool × p.Object σ
  | .pololuUsb, (c : PololuUsbConnection) =>
    let (res, b) := c.toUsbConnectionBase.isNewText deviceName PololuUsbConnection.serialNFieldName isConnected m
    (res, ({ c with toUsbConnectionBase := b } : PololuUsbConnection))
  | .libUsb, (c : LibUsbConnection σ) =>
    let (res, b) := c.toUsbConnectionBase.isNewText deviceName LibUsbConnection.serialNFieldName isConnected m
    (res, ({ c with toUsbConnectionBase := b } : LibUsbConnection σ))
  | .bluetooth, c => BluetoothConnection.isNewText deviceName isConnected m c

/-- A plugin with the state of its device: connected exactly while the plugin is. -/
structure Session (p : Plugin) (σ : Type) where
  connected : Bool
  object : p.Object σ

/-- With messages for the plugin's own property and element only. -/
inductive Event (p : Plugin) where
  | connect (attempt : p.Attempt)
  | disconnect
  | newText (text : String)
  | saveConfigItems (base : Bool) (fp : Config)

variable (deviceName : String) {p : Plugin}

def next (s : p.Session σ) : p.Event → Option (p.Session σ)
  | .connect attempt => (p.connect os attempt s.object).map fun (res, c) => ⟨res, c⟩
  | .disconnect => some ⟨false, p.disconnect os s.object⟩
  | .newText text =>
    let m : NewText := ⟨deviceName, p.names.property, p.names.element, text⟩
    some { s with object := (p.isNewText deviceName s.connected m s.object).2 }
  | .saveConfigItems base fp => some { s with object := (p.saveConfigItems base s.object fp).2.1 }

def step (o : Option (p.Session σ)) (e : p.Event) : Option (p.Session σ) := o.bind fun s => next os deviceName s e

/-- Disconnected, the plugin displays the text it requires. -/
def DisplaysRequired : Option (p.Session σ) → Prop
  | none => True
  | some s => s.connected = false → (p.setting s.object).property.text = (p.setting s.object).required

/-- The device connected to is the required one, or a disconnect displays the
    required one again. -/
def LeavesRequired : (p : Plugin) → p.Object σ → Prop
  | .pololuUsb, _ => True
  | .libUsb, (c : LibUsbConnection σ) => c.ticUsb.io.serialNumber = c.requiredSerialNumber
  | .bluetooth, (c : BluetoothConnection σ) => c.ticSerial.io.1.btMacAddress = c.requiredBtMacAddress

/-- The events after which the plugin is disconnected. -/
def Ends (s : p.Session σ) : p.Event → Prop
  | .connect attempt => ∃ c, p.connect os attempt s.object = some (false, c)
  | .disconnect => True
  | _ => False

/-- A connection that ends was one to the required device. -/
def EndsRight : Option (p.Session σ) → p.Event → Prop
  | none, _ => True
  | some s, e => s.connected = true → Ends os s e → p.LeavesRequired s.object

end Plugin

/-! ## What the operations do to the setting -/

/-- To another text, for a message of its own. -/
theorem Setting.isNewText_own (deviceName : String) (names : TextNames) (isConnected : Bool) (text : String) (s : Setting) :
    (s.isNewText deviceName names isConnected ⟨deviceName, names.property, names.element, text⟩).2.required = text ∧
    (s.isNewText deviceName names isConnected ⟨deviceName, names.property, names.element, text⟩).2.property.text =
      if isConnected = true ∨ s.required = text then s.property.text else text := by
  rw [isNewText, if_pos ⟨rfl, rfl⟩]
  by_cases hsame : s.required = text
  · simp only [hsame, if_true, or_true, and_self]
  · cases isConnected with
    | false => simp [hsame, TextProperty.update]
    | true => simp [hsame]

namespace Plugin
variable {σ : Type} {os : Posix σ}

/-- What the plugin displays after a disconnect. -/
def shownAfter (p : Plugin) (s : Setting) : String :=
  match p with
  | .pololuUsb => s.required
  | _ => s.property.text

/-- While connected, the plugin displays the device connected to. -/
def Tracks : (p : Plugin) → p.Object σ → Prop
  | .pololuUsb, _ => True
  | .libUsb, (c : LibUsbConnection σ) => c.ticSerialNumberTP.text = c.ticUsb.io.serialNumber
  | .bluetooth, (c : BluetoothConnection σ) => c.btMacAddressTP.text = c.ticSerial.io.1.btMacAddress

/-- How an attempt to connect leaves the plugin. -/
structure Attempted (p : Plugin) (c : p.Object σ) (res : Bool) (c' : p.Object σ) : Prop where
  required : (p.setting c').required = (p.setting c).required
  succeeded : res = true → p.Tracks c'
  failed : res = false → (p.setting c').property.text = p.shownAfter (p.setting c)

theorem shownAfter_eq_iff {p : Plugin} {c : p.Object σ} (h : p.Tracks c) :
    p.shownAfter (p.setting c) = (p.setting c).required ↔ p.LeavesRequired c := by
  cases p with
  | pololuUsb => exact iff_of_true rfl trivial
  | libUsb =>
    have htext : (setting .libUsb c).property.text = _ := h
    exact Eq.congr_left htext
  | bluetooth =>
    have htext : (setting .bluetooth c).property.text = _ := h
    exact Eq.congr_left htext

theorem disconnect_setting (os : Posix σ) (p : Plugin) (c : p.Object σ) :
    (p.setting (p.disconnect os c)).required = (p.setting c).required ∧
    (p.setting (p.disconnect os c)).property.text = p.shownAfter (p.setting c) := by
  cases p <;> exact ⟨rfl, rfl⟩

theorem setting_isNewText (p : Plugin) (deviceName : String) (isConnected : Bool) (m : NewText) (c : p.Object σ) :
    p.setting (p.isNewText deviceName isConnected m c).2 = ((p.setting c).isNewText deviceName p.names isConnected m).2 := by
  cases p <;> rfl

/-- While connected, the property stays as it is. -/
theorem tracks_isNewText (p : Plugin) (deviceName text : String) {c : p.Object σ} (h : p.Tracks c) :
    p.Tracks (p.isNewText deviceName true ⟨deviceName, p.names.property, p.names.element, text⟩ c).2 := by
  have htext := (Setting.isNewText_own deviceName p.names true text (p.setting c)).2
  rw [← setting_isNewText, if_pos (.inl rfl)] at htext
  cases p with
  | pololuUsb => trivial
  | libUsb => exact htext.trans h
  | bluetooth => exact htext.trans h

theorem tracks_saveConfigItems (p : Plugin) (base : Bool) (fp : Config) {c : p.Object σ} (h : p.Tracks c) :
    p.Tracks (p.saveConfigItems base c fp).2.1 := by
  have hsame := congrArg (fun s => s.property.text) (p.setting_saveConfigItems base c fp)
  cases p with
  | pololuUsb => trivial
  | libUsb => exact hsame.trans h
  | bluetooth => exact hsame.trans h

/-! ## Connect -/

theorem Attempted.success {p : Plugin} {c c' : p.Object σ} (hreq : (p.setting c').required = (p.setting c).required)
    (htracks : p.Tracks c') : p.Attempted c true c' := by
  refine ⟨hreq, fun _ => htracks, ?_⟩
  intro h
  cases h

theorem Attempted.failure {p : Plugin} {c c' : p.Object σ} (hreq : (p.setting c').required = (p.setting c).required)
    (htext : (p.setting c').property.text = p.shownAfter (p.setting c)) : p.Attempted c false c' := by
  refine ⟨hreq, ?_, fun _ => htext⟩
  intro h
  cases h

theorem pololuUsb_connect (list : Option (List TicDevice)) (c : PololuUsbConnection) :
    Attempted (σ := σ) .pololuUsb c (c.connect list).1 (c.connect list).2 := by
  cases list with
  | none => exact .failure rfl rfl
  | some deviceList =>
    rw [PololuUsbConnection.connect]
    simp only
    split
    · exact .failure rfl rfl
    · exact .success rfl trivial

theorem libUsb_connect {list : Except LibusbError (List UsbDevice)} {devSerial : String} {c c' : LibUsbConnection σ}
    {res : Bool} (h : c.connect list devSerial = some (res, c')) : Attempted .libUsb c res c' := by
  rw [LibUsbConnection.connect, Option.map_eq_some_iff] at h
  obtain ⟨t, -, ht⟩ := h
  simp only at ht
  split at ht
  · cases ht
    exact .failure rfl rfl
  · cases ht
    exact .success rfl rfl

/-- The handshake, over whichever socket, leaves the address. -/
theorem handshake_address {buffer : List UInt8} {t t' : Tic (StreamBT × σ)} {res : Bool}
    (h : BluetoothConnection.callHandshake os buffer t = some (res, t')) :
    t'.io.1.btMacAddress = t.io.1.btMacAddress := by
  rw [BluetoothConnection.callHandshake, Option.map_eq_some_iff] at h
  obtain ⟨⟨uptime, t''⟩, hup, ht⟩ := h
  rw [BluetoothConnection.getUpTime, Option.map_eq_some_iff] at hup
  obtain ⟨out, hseg, hout⟩ := hup
  have hkeep := TicSerial.getSegment_keeps (I := fun io => io.1.btMacAddress = t.io.1.btMacAddress)
    (fun byte io hio => (StreamBT.btMacAddress_writeLoop os byte 3 0 io.1 io.2).trans hio)
    (fun hr hio => (StreamBT.btMacAddress_readLoop os hr).trans hio) hseg rfl
  cases hout
  cases ht
  exact hkeep

theorem bluetooth_connect {buffer : List UInt8} {c c' : BluetoothConnection σ} {res : Bool}
    (h : c.connect os buffer = some (res, c')) : Attempted .bluetooth c res c' := by
  rw [BluetoothConnection.connect] at h
  generalize hdial : StreamBT.connect os c.requiredBtMacAddress c.ticSerial.io.1 c.ticSerial.io.2 = out at h
  have haddress : out.2.1.btMacAddress = c.requiredBtMacAddress := by
    rw [← hdial, StreamBT.connect, StreamBT.btMacAddress_reconnect]
  simp only at h
  split at h
  · cases h
    exact .failure rfl rfl
  · rw [Option.map_eq_some_iff] at h
    obtain ⟨⟨reply, t⟩, hshake, ht⟩ := h
    simp only at ht
    split at ht
    · cases ht
      exact .failure rfl rfl
    · cases ht
      exact .success rfl ((handshake_address hshake).trans haddress).symm

theorem connect_spec {p : Plugin} {attempt : p.Attempt} {c c' : p.Object σ} {res : Bool}
    (h : p.connect os attempt c = some (res, c')) : p.Attempted c res c' := by
  cases p with
  | pololuUsb =>
    have hout := Option.some_inj.mp h
    have hspec := pololuUsb_connect (σ := σ) attempt c
    rw [hout] at hspec
    exact hspec
  | libUsb => exact libUsb_connect h
  | bluetooth => exact bluetooth_connect h

/-! ## Runs -/

variable {p : Plugin} {deviceName : String}

def Tracked : Option (p.Session σ) → Prop
  | none => True
  | some s => s.connected = true → p.Tracks s.object

theorem tracked_step (o : Option (p.Session σ)) (e : p.Event) (h : Tracked o) : Tracked (step os deviceName o e) := by
  cases o with
  | none => trivial
  | some s =>
    cases e with
    | connect attempt =>
      simp only [step, next, Option.bind_some]
      cases hconn : p.connect os attempt s.object with
      | none => trivial
      | some out => exact (connect_spec hconn).succeeded
    | disconnect =>
      intro hconn
      cases hconn
    | newText text =>
      intro hconn
      have hsame : s.connected = true := hconn
      simp only [hsame]
      exact p.tracks_isNewText deviceName text (h hsame)
    | saveConfigItems base fp =>
      intro hconn
      exact p.tracks_saveConfigItems base fp (h hconn)

/-- The required device is displayed after a disconnect. -/
theorem left_iff {s : p.Session σ} (ht : Tracked (some s)) (hd : DisplaysRequired (some s)) :
    p.shownAfter (p.setting s.object) = (p.setting s.object).required ↔
      (s.connected = true → p.LeavesRequired s.object) := by
  cases hconn : s.connected with
  | true =>
    simp only [forall_const]
    exact shownAfter_eq_iff (ht hconn)
  | false =>
    have hshown : p.shownAfter (p.setting s.object) = (p.setting s.object).required := by
      cases p with
      | pololuUsb => rfl
      | _ => exact hd hconn
    exact iff_of_true hshown (fun h => nomatch h)

theorem displays_disconnected (c : p.Object σ) :
    DisplaysRequired (some (⟨false, c⟩ : p.Session σ)) ↔ (p.setting c).property.text = (p.setting c).required :=
  forall_prop_of_true rfl

/-- An attempt matters only if it fails. -/
theorem displays_connect_iff {s : p.Session σ} (attempt : p.Attempt)
    (hleft : p.shownAfter (p.setting s.object) = (p.setting s.object).required ↔
      (s.connected = true → p.LeavesRequired s.object)) :
    DisplaysRequired (step os deviceName (some s) (.connect attempt)) ↔ EndsRight os (some s) (.connect attempt) := by
  simp only [step, next, Option.bind_some, EndsRight, Ends]
  cases hconn : p.connect os attempt s.object with
  | none => exact iff_of_true trivial (fun _ ⟨_, h⟩ => nomatch h)
  | some out =>
    obtain ⟨res, c⟩ := out
    have hspec := connect_spec hconn
    cases res with
    | true => exact iff_of_true (fun h => nomatch h) (fun _ ⟨_, h⟩ => nomatch h)
    | false =>
      rw [Option.map_some, displays_disconnected, hspec.failed rfl, hspec.required, hleft]
      exact ⟨fun h hs _ => h hs, fun h hs => h hs ⟨c, rfl⟩⟩

theorem displays_step_iff (o : Option (p.Session σ)) (e : p.Event) (ht : Tracked o) (hd : DisplaysRequired o) :
    DisplaysRequired (step os deviceName o e) ↔ EndsRight os o e := by
  cases o with
  | none => exact Iff.rfl
  | some s =>
    have hleft := left_iff ht hd
    cases e with
    | connect attempt => exact displays_connect_iff attempt hleft
    | disconnect =>
      have hset := disconnect_setting os p s.object
      rw [step, Option.bind_some, next, displays_disconnected, hset.1, hset.2, hleft]
      exact ⟨fun h hs _ => h hs, fun h hs => h hs trivial⟩
    | newText text =>
      refine iff_of_true ?_ (fun _ h => h.elim)
      intro hconn
      have hown := Setting.isNewText_own deviceName p.names s.connected text (p.setting s.object)
      rw [← setting_isNewText] at hown
      have hsame : s.connected = false := hconn
      rw [hown.1, hown.2, hsame]
      simp only [Bool.false_eq_true, false_or]
      split
      · next hreq => rw [hd hsame, hreq]
      · rfl
    | saveConfigItems base fp =>
      refine iff_of_true ?_ (fun _ h => h.elim)
      intro hconn
      rw [p.setting_saveConfigItems]
      exact hd hconn

/-- A plugin fresh from its constructor. -/
def Session.fresh (p : Plugin) (init : Except LibusbError Unit) (s : σ) (config : Config) : p.Session σ where
  connected := false
  object := p.construct init s config

theorem displays_fresh (p : Plugin) (init : Except LibusbError Unit) (s : σ) (config : Config) :
    DisplaysRequired (some (Session.fresh p init s config)) := by
  intro _
  rw [Session.fresh, setting_construct, Setting.construct]
  cases config.getText p.configNames.1 p.configNames.2 <;> rfl

end Plugin

/-- **What is displayed is what is used**, for every plugin, configuration and run. -/
theorem displays_used_iff {σ : Type} (os : Posix σ) (deviceName : String) (p : Plugin) (init : Except LibusbError Unit)
    (s : σ) (config : Config) (es : List p.Event) :
    Run.Always (Plugin.step os deviceName) Plugin.DisplaysRequired (some (.fresh p init s config)) es ↔
      Run.Each (Plugin.step os deviceName) (Plugin.EndsRight os) (some (.fresh p init s config)) es := by
  have htracked : Plugin.Tracked (some (.fresh p init s config)) := fun h => nomatch h
  exact Run.always_iff_each_of_invariant (fun o e => Plugin.tracked_step o e) (fun o e => Plugin.displays_step_iff o e)
    es htracked (Plugin.displays_fresh p init s config)

/-- The first Tic found is still displayed after it was disconnected, with none
    required; and so is the address of a Bluetooth device after another one was set. -/
theorem displayed_left_behind :
    ¬ Run.Always (Plugin.step Posix.obliging "TIC Focuser NG") Plugin.DisplaysRequired
      (some (.fresh .libUsb (.ok ()) 3 fun _ => none)) [.connect (.ok [.t825], ""), .disconnect] ∧
    ¬ Run.Always (Plugin.step Posix.obliging "TIC Focuser NG") Plugin.DisplaysRequired
      (some (.fresh .bluetooth (.ok ()) 3 fun _ => some "00:21:13:00:11:22"))
      [.connect [], .newText "98:D3:31:F5:0A:B4", .disconnect] := by
  constructor
  · intro h
    exact absurd (h.last rfl) (by decide)
  · intro h
    exact absurd (h.last rfl) (by decide)

end TicFocuserNG
