import TicFocuserNG.UsbConnect

/- The setting of a connection plugin: the serial number or MAC address it is
   required to connect to, the text property that displays one, and its copy in the
   configuration file.

   The three plugins handle it with code of the same text (`Setting`), each under its
   own names. A `Config` is a configuration file, by name; the characters of a text
   are those of C, and `Connection::Interface::saveConfigItems` is the result it
   returned, as it stores nothing.

     1. `Setting.saveConfigItems_keeps`: saving leaves the displayed text, and stores
        the required one.
     2. `settings_come_back_iff`: a saved setting comes back exactly for
        `BluetoothConnection`. The constructor of `UsbConnectionBase` looks for it
        under names that no plugin stores it under. -/
namespace TicFocuserNG

/-- The names of a text property and of its one element. -/
structure TextNames where
  property : String
  element : String
  deriving DecidableEq, Repr

abbrev Config := TextNames → Option String

namespace Config

/-- `IUSaveConfigText`. -/
def saveText (fp : Config) (names : TextNames) (text : String) : Config := Function.update fp names (some text)

/-- `IUGetConfigText`, into a buffer of `len` characters. -/
def getText (config : Config) (names : TextNames) (len : Nat) : Option String :=
  (config names).map fun text => String.ofList (text.toList.take (len - 1))

theorem getText_saveText (fp : Config) (names : TextNames) {text : String} {len : Nat} (h : text.length < len) :
    (fp.saveText names text).getText names len = some text := by
  have hfit : text.toList.take (len - 1) = text.toList := by
    apply List.take_of_length_le
    rw [String.length_toList]
    omega
  rw [getText, saveText, Function.update_self, Option.map_some, hfit, String.ofList_toList]

theorem getText_saveText_ne (fp : Config) {names names' : TextNames} (h : names' ≠ names) (text : String) (len : Nat) :
    (fp.saveText names text).getText names' len = fp.getText names' len := by
  rw [getText, saveText, Function.update_of_ne h, getText]

end Config

structure Setting where
  required : String
  property : TextProperty
  deriving DecidableEq, Repr

namespace Setting

/-- In the constructor, with the names it looks for and the length of its buffer. -/
def construct (names : TextNames) (len : Nat) (config : Config) : Setting :=
  match config.getText names len with
  | none => ⟨"", ⟨"", .idle⟩⟩
  | some text => ⟨text, ⟨text, .idle⟩⟩

def saveConfigItems (names : TextNames) (base : Bool) (s : Setting) (fp : Config) : Bool × Setting × Config :=
  if base = false then (false, s, fp)
  else if s.required ≠ "" then
    -- the property shows the required text for as long as it is stored
    let tmpText := s.property.text
    let s := { s with property.text := s.required }
    let fp := fp.saveText names s.property.text
    (true, { s with property.text := tmpText }, fp)
  else (true, s, fp)

theorem construct_required (names : TextNames) (len : Nat) (config : Config) :
    (construct names len config).required = (config.getText names len).getD "" := by
  rw [construct]
  cases config.getText names len <;> rfl

/-- The property shows what it showed before. -/
theorem saveConfigItems_keeps (names : TextNames) (base : Bool) (s : Setting) (fp : Config) :
    (s.saveConfigItems names base fp).2.1 = s := by
  rw [saveConfigItems]
  split
  · rfl
  · split
    · rfl
    · rfl

theorem saveConfigItems_file (names : TextNames) {s : Setting} (fp : Config) (h : s.required ≠ "") :
    (s.saveConfigItems names true fp).2.2 = fp.saveText names s.required := by
  simp only [saveConfigItems, Bool.true_eq_false, if_false, h, ne_eq, not_false_iff, if_true]

end Setting

/-! ## UsbConnectionBase -/

namespace UsbConnectionBase

def setting (c : UsbConnectionBase) : Setting := ⟨c.requiredSerialNumber, c.ticSerialNumberTP⟩

def ofSetting (s : Setting) : UsbConnectionBase := ⟨s.required, s.property⟩

/-- The names the constructor looks for. -/
def configNames : TextNames := ⟨"TIC_SERIAL_TP", "TIC_SERIAL_NUMBER"⟩

/-- The names it gives to the property. -/
def names (serialNFieldName : String) : TextNames := ⟨serialNFieldName ++ "_TP", serialNFieldName⟩

def construct (config : Config) : UsbConnectionBase := ofSetting (Setting.construct configNames 20 config)

def saveConfigItems (serialNFieldName : String) (base : Bool) (c : UsbConnectionBase) (fp : Config) :
    Bool × UsbConnectionBase × Config :=
  let (res, s, fp) := c.setting.saveConfigItems (names serialNFieldName) base fp
  (res, ofSetting s, fp)

end UsbConnectionBase

namespace PololuUsbConnection

def serialNFieldName : String := "PUSB_SERIAL_NUMBER"

def construct (config : Config) : PololuUsbConnection where
  toUsbConnectionBase := UsbConnectionBase.construct config

def saveConfigItems (base : Bool) (c : PololuUsbConnection) (fp : Config) : Bool × PololuUsbConnection × Config :=
  let (res, b, fp) := c.toUsbConnectionBase.saveConfigItems serialNFieldName base fp
  (res, { c with toUsbConnectionBase := b }, fp)

end PololuUsbConnection

namespace LibUsbConnection
variable {σ : Type}

def serialNFieldName : String := "LIBUSB_SERIAL_NUMBER"

def construct (init : Except LibusbError Unit) (usb : σ) (config : Config) : LibUsbConnection σ where
  toUsbConnectionBase := UsbConnectionBase.construct config
  ticUsb := TicUsb.construct init usb

def saveConfigItems (base : Bool) (c : LibUsbConnection σ) (fp : Config) : Bool × LibUsbConnection σ × Config :=
  let (res, b, fp) := c.toUsbConnectionBase.saveConfigItems serialNFieldName base fp
  (res, { c with toUsbConnectionBase := b }, fp)

end LibUsbConnection

/-! ## BluetoothConnection -/

/-- The plugin, over a system with the state `σ`. -/
structure BluetoothConnection (σ : Type) where
  requiredBtMacAddress : String
  btMacAddressTP : TextProperty
  ticSerial : Tic (StreamBT × σ)

namespace BluetoothConnection
variable {σ : Type}

def setting (c : BluetoothConnection σ) : Setting := ⟨c.requiredBtMacAddress, c.btMacAddressTP⟩

def withSetting (c : BluetoothConnection σ) (s : Setting) : BluetoothConnection σ :=
  { c with requiredBtMacAddress := s.required, btMacAddressTP := s.property }

def names : TextNames := ⟨"BT_MAC_TP", "BT_MAC_ADDRESS"⟩

def construct (s : σ) (config : Config) : BluetoothConnection σ :=
  let setting := Setting.construct names 40 config
  ⟨setting.required, setting.property, { io := ({}, s) }⟩

def saveConfigItems (base : Bool) (c : BluetoothConnection σ) (fp : Config) : Bool × BluetoothConnection σ × Config :=
  let (res, s, fp) := c.setting.saveConfigItems names base fp
  (res, c.withSetting s, fp)

end BluetoothConnection

/-! ## The plugins -/

inductive Plugin where
  | pololuUsb
  | libUsb
  | bluetooth
  deriving DecidableEq, Repr

namespace Plugin
variable {σ : Type}

/-- The objects of a plugin, over a bus or a system with the state `σ`. -/
def Object (p : Plugin) (σ : Type) : Type :=
  match p with
  | .pololuUsb => PololuUsbConnection
  | .libUsb => LibUsbConnection σ
  | .bluetooth => BluetoothConnection σ

def setting : (p : Plugin) → p.Object σ → Setting
  | .pololuUsb, c => PololuUsbConnection.toUsbConnectionBase c |>.setting
  | .libUsb, c => LibUsbConnection.toUsbConnectionBase c |>.setting
  | .bluetooth, c => BluetoothConnection.setting c

def names : Plugin → TextNames
  | .pololuUsb => UsbConnectionBase.names PololuUsbConnection.serialNFieldName
  | .libUsb => UsbConnectionBase.names LibUsbConnection.serialNFieldName
  | .bluetooth => BluetoothConnection.names

/-- The names the constructor looks for, and the length of the buffer it has. -/
def configNames : Plugin → TextNames × Nat
  | .bluetooth => (BluetoothConnection.names, 40)
  | _ => (UsbConnectionBase.configNames, 20)

/-- A new object, `libusb_init` having returned `init`. -/
def construct (init : Except LibusbError Unit) (s : σ) (config : Config) : (p : Plugin) → p.Object σ
  | .pololuUsb => PololuUsbConnection.construct config
  | .libUsb => LibUsbConnection.construct init s config
  | .bluetooth => BluetoothConnection.construct s config

def saveConfigItems (base : Bool) : (p : Plugin) → p.Object σ → (fp : Config) → Bool × p.Object σ × Config
  | .pololuUsb, c, fp => PololuUsbConnection.saveConfigItems base c fp
  | .libUsb, c, fp => LibUsbConnection.saveConfigItems base c fp
  | .bluetooth, c, fp => BluetoothConnection.saveConfigItems base c fp

theorem setting_construct (p : Plugin) (init : Except LibusbError Unit) (s : σ) (config : Config) :
    p.setting (p.construct init s config) = Setting.construct p.configNames.1 p.configNames.2 config := by
  cases p <;> rfl

theorem setting_saveConfigItems (p : Plugin) (base : Bool) (c : p.Object σ) (fp : Config) :
    p.setting (p.saveConfigItems base c fp).2.1 = p.setting c := by
  rw [← Setting.saveConfigItems_keeps p.names base (p.setting c) fp]
  cases p <;> rfl

theorem file_saveConfigItems (p : Plugin) {c : p.Object σ} (fp : Config) (h : (p.setting c).required ≠ "") :
    (p.saveConfigItems true c fp).2.2 = fp.saveText p.names (p.setting c).required := by
  rw [← Setting.saveConfigItems_file p.names fp h]
  cases p <;> rfl

/-- No USB plugin stores under the names that its constructor looks for. -/
theorem configNames_eq_names (p : Plugin) : p.configNames.1 = p.names ↔ p = .bluetooth := by
  cases p <;> decide

end Plugin

/-! ## Saved and loaded again -/

/-- The setting of `c`, saved to `fp`, is that of a new object, and `c` displays what
    it displayed. -/
def Plugin.ComesBack {σ : Type} (p : Plugin) (c : p.Object σ) (fp : Config) (init : Except LibusbError Unit) (s : σ) :
    Prop :=
  (p.setting (p.construct init s (p.saveConfigItems true c fp).2.2)).required = (p.setting c).required ∧
  (p.setting (p.saveConfigItems true c fp).2.1).property.text = (p.setting c).property.text

/-- **Saved settings**, for every object, connected or not, and whatever it displays. -/
theorem settings_come_back_iff {σ : Type} (p : Plugin) (c : p.Object σ) (fp : Config) (init : Except LibusbError Unit)
    (s : σ) (hset : (p.setting c).required ≠ "") (hfit : (p.setting c).required.length < p.configNames.2) :
    p.ComesBack c fp init s ↔
      p = .bluetooth ∨ fp.getText UsbConnectionBase.configNames 20 = some (p.setting c).required := by
  have hdisplay : (p.setting (p.saveConfigItems true c fp).2.1).property.text = (p.setting c).property.text := by
    rw [p.setting_saveConfigItems]
  rw [Plugin.ComesBack, p.setting_construct, p.file_saveConfigItems fp hset, Setting.construct_required]
  simp only [hdisplay, and_true]
  by_cases hp : p = .bluetooth
  · have hnames := p.configNames_eq_names.mpr hp
    rw [hnames, Config.getText_saveText fp p.names hfit]
    exact iff_of_true rfl (.inl hp)
  · have hnames := mt p.configNames_eq_names.mp hp
    have hconfig : p.configNames = (UsbConnectionBase.configNames, 20) := by
      cases p with
      | bluetooth => exact absurd rfl hp
      | _ => rfl
    rw [Config.getText_saveText_ne fp hnames, hconfig]
    simp only [hp, false_or]
    cases fp.getText UsbConnectionBase.configNames 20 with
    | none => exact iff_of_false (Ne.symm hset) (by simp)
    | some text => exact Option.some_inj.symm

/-- A MAC address, saved while another one is displayed. -/
theorem settings_come_back_mac :
    let c : Plugin.Object .bluetooth Unit :=
      BluetoothConnection.mk "00:21:13:00:11:22" ⟨"98:D3:31:F5:0A:B4", .busy⟩ ⟨0, .unknown, {}, ()⟩
    Plugin.ComesBack .bluetooth c (fun _ => none) (.ok ()) () :=
  (settings_come_back_iff .bluetooth _ _ _ _ (by decide) (by decide)).mpr (.inl rfl)

/-- A serial number set for either USB plugin is gone. -/
theorem serial_number_lost :
    let c : UsbConnectionBase := ⟨"00221122", "00221122", .ok⟩
    ¬ Plugin.ComesBack .libUsb (LibUsbConnection.mk c (TicUsb.construct (.ok ()) ())) (fun _ => none) (.ok ()) () ∧
    ¬ Plugin.ComesBack .pololuUsb (PololuUsbConnection.mk c none) (fun _ => none) (.ok ()) () := by
  constructor
  · intro h
    exact absurd h.1 (by decide)
  · intro h
    exact absurd h.1 (by decide)

end TicFocuserNG
