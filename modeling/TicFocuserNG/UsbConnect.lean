import TicFocuserNG.Focuser
import TicFocuserNG.Lib.Ledger
import TicFocuserNG.TicBase

/- Connecting over USB: `TicUsb::connect`, and the connection plugins
   `LibUsbConnection` and `PololuUsbConnection` over their libraries.

   A `UsbDevice` is an attached device as libusb answers for it; a handle is the
   place of its device in the list. `connect` is `none` where the code follows the
   list pointer of a list it did not get. The log messages and the list's release
   are not modelled.

     1. `search_ends`: the loop of `connect` is decided by the first device that it
        does not pass over (`ending`).
     2. `connect_reports_iff`: no error is reported exactly for a device bound, for
        lists of a length that is no multiple of 256. The length becomes the last
        error, an unsigned byte, before it is looked at.
     3. `TicUsb.Reached.owns`: over any connects, disconnects and uses, the handle of
        the object is the only one open. -/
namespace TicFocuserNG

/-! ## TicDefs -/

def ticVendorId : UInt16 := 0x1FFB
def ticProductIdT825 : UInt16 := 0x00B3
def ticProductIdT834 : UInt16 := 0x00B5
def ticProductIdT500 : UInt16 := 0x00BD
def ticProductIdN825 : UInt16 := 0x00C3
def ticProductIdT249 : UInt16 := 0x00C9
def ticProductId36v4 : UInt16 := 0x00CB

/-! ## The bus -/

/-- The fields `connect` reads of `libusb_device_descriptor`. -/
structure DeviceDescriptor where
  idVendor : UInt16
  idProduct : UInt16
  iSerialNumber : UInt8
  deriving DecidableEq, Repr

/-- The outcomes of the calls on an attached device: its descriptor, an open, and
    the serial number string. -/
structure UsbDevice where
  descriptor : Except LibusbError DeviceDescriptor
  opens : Except LibusbError Unit
  serial : Except LibusbError String

inductive HandleCall where
  | opened (handle : Nat)
  | closed (handle : Nat)
  deriving DecidableEq, Repr

def HandleCall.effect : HandleCall → Effect Nat
  | .opened handle => .acquire handle
  | .closed handle => .release handle

/-! ## TicUsb -/

/-- A `TicUsb` object with the members of its connection, and a list of the
    handles opened and closed, the latest last. -/
structure TicUsb.Session (σ : Type) extends TicUsb σ where
  context : Bool
  serialNumber : String := ""
  calls : List HandleCall := []

namespace TicUsb
variable {σ : Type}

/-- The constructor, with the result of `libusb_init`. -/
def construct (init : Except LibusbError Unit) (usb : σ) : Tic (Session σ) :=
  match init with
  | .error e => { lastError := narrow e.code, io := { usb, context := false } }
  | .ok _ => { lastError := 0, io := { usb, context := true } }

def disconnect (t : Tic (Session σ)) : Tic (Session σ) :=
  { t with io := { t.io with
    handle := none
    serialNumber := ""
    calls := t.io.calls ++ t.io.handle.toList.map .closed } }

/-- A supported Tic. -/
def Supported (desc : DeviceDescriptor) : Prop :=
  desc.idVendor = ticVendorId ∧
    (desc.idProduct = ticProductIdT825 ∨ desc.idProduct = ticProductIdT834 ∨ desc.idProduct = ticProductIdT500 ∨
      desc.idProduct = ticProductIdN825 ∨ desc.idProduct = ticProductIdT249 ∨ desc.idProduct = ticProductId36v4)

instance (desc : DeviceDescriptor) : Decidable (Supported desc) := inferInstanceAs (Decidable (_ ∧ _))

/-- `libusb_open` of the `k`-th device. -/
def opened (k : Nat) (t : Tic (Session σ)) : Tic (Session σ) :=
  { t with lastError := 0, io := { t.io with handle := some k, calls := t.io.calls ++ [.opened k] } }

/-- Closed again, after its serial number was read: `_lastError` is 0, whatever
    came of that. -/
def closed (k : Nat) (t : Tic (Session σ)) : Tic (Session σ) :=
  { t with lastError := 0, io := { t.io with handle := none, calls := t.io.calls ++ [.closed k] } }

/-- The loop of `connect` over the devices from the `k`-th on; `devSerial` is what
    the buffer of the serial number holds before. -/
def search (serialNo devSerial : String) : (k : Nat) → List UsbDevice → Tic (Session σ) → Tic (Session σ)
  | _, [], t => t
  | k, d :: devs, t =>
    match d.descriptor with
    | .error e => { t with lastError := narrow e.code }
    | .ok desc =>
      let t := { t with lastError := 0 }
      if ¬ Supported desc then search serialNo devSerial (k + 1) devs t
      else if desc.iSerialNumber = 0 then search serialNo devSerial (k + 1) devs t
      else
        match d.opens with
        | .error e => { t with lastError := narrow e.code, io := { t.io with handle := none } }
        | .ok _ =>
          let t := opened k t
          match d.serial with
          | .error _ =>
            -- as a `size_t` the error is a length like others, and not less than 0
            if serialNo = "" then { t with io := { t.io with serialNumber := devSerial } }
            else search serialNo devSerial (k + 1) devs (closed k t)
          | .ok serial =>
            if serialNo = "" ∨ serial = serialNo then { t with io := { t.io with serialNumber := serial } }
            else search serialNo devSerial (k + 1) devs (closed k t)

/-- `connect`, with the result of `libusb_get_device_list`. `LIBUSB_ERROR_NO_DEVICE`
    is -4. -/
def connect (list : Except LibusbError (List UsbDevice)) (serialNo devSerial : String) (t : Tic (Session σ)) :
    Option (Tic (Session σ)) :=
  if t.io.context = false then some t
  else
    let t := disconnect t
    match list with
    | .error e =>
      let t := { t with lastError := narrow e.code }
      if t.lastError ≤ 0 then some t else none
    | .ok devs =>
      let t := { t with lastError := UInt8.ofNat devs.length }
      if t.lastError ≤ 0 then some t
      else
        let t := search serialNo devSerial 0 devs { t with lastError := 0 }
        if t.lastError ≠ 0 then some t
        else if t.io.handle = none then some { t with lastError := narrow (-4) }
        else some t

end TicUsb

/-! ## The connection plugins -/

/-- One-element text property: its text and its state. -/
structure TextProperty where
  text : String
  state : IPState := .idle
  deriving DecidableEq, Repr

/-- `UsbConnectionBase`. -/
structure UsbConnectionBase where
  requiredSerialNumber : String
  ticSerialNumberTP : TextProperty
  deriving DecidableEq, Repr

namespace UsbConnectionBase

def disconnect (c : UsbConnectionBase) : UsbConnectionBase :=
  { c with ticSerialNumberTP := ⟨c.requiredSerialNumber, if c.requiredSerialNumber = "" then .idle else .ok⟩ }

/-- The end of `Connect` in both plugins: the serial number is displayed. -/
def connected (serialNumber : String) (c : UsbConnectionBase) : UsbConnectionBase :=
  { c with ticSerialNumberTP := ⟨serialNumber, if c.requiredSerialNumber = "" then .idle else .ok⟩ }

end UsbConnectionBase

structure LibUsbConnection (σ : Type) extends UsbConnectionBase where
  ticUsb : Tic (TicUsb.Session σ)

namespace LibUsbConnection
variable {σ : Type}

/-- It does not call `UsbConnectionBase::Disconnect`. -/
def disconnect (c : LibUsbConnection σ) : LibUsbConnection σ := { c with ticUsb := TicUsb.disconnect c.ticUsb }

def connect (list : Except LibusbError (List UsbDevice)) (devSerial : String) (c : LibUsbConnection σ) :
    Option (Bool × LibUsbConnection σ) :=
  let c := c.disconnect
  (TicUsb.connect list c.requiredSerialNumber devSerial c.ticUsb).map fun t =>
    let c := { c with ticUsb := t }
    if t.lastError ≠ 0 then (false, c)
    else (true, { c with toUsbConnectionBase := c.toUsbConnectionBase.connected t.io.serialNumber })

end LibUsbConnection

/-- A `tic_device` of the Pololu library: the attached device it stands for, its
    serial number, and whether `tic_handle_open` opens it. -/
structure TicDevice where
  device : Nat
  serialNumber : String
  opens : Bool
  deriving DecidableEq, Repr

structure PololuUsbConnection extends UsbConnectionBase where
  handle : Option Nat := none
  deriving DecidableEq, Repr

namespace PololuUsbConnection

def disconnect (c : PololuUsbConnection) : PololuUsbConnection :=
  { c with toUsbConnectionBase := c.toUsbConnectionBase.disconnect, handle := none }

/-- The loop of `Connect`: the handle, and the serial number last looked at. -/
def search (requiredSerialNumber : String) : List TicDevice → (devSerialNumber : String) → Option Nat × String
  | [], devSerialNumber => (none, devSerialNumber)
  | d :: deviceList, _ =>
    if (requiredSerialNumber = "" ∨ requiredSerialNumber = d.serialNumber) ∧ d.opens = true then
      (some d.device, d.serialNumber)
    else search requiredSerialNumber deviceList d.serialNumber

/-- `Connect`, with the result of `tic_list_connected_devices`. -/
def connect (list : Option (List TicDevice)) (c : PololuUsbConnection) : Bool × PololuUsbConnection :=
  let c := c.disconnect
  match list with
  | none => (false, c)
  | some deviceList =>
    let (handle, devSerialNumber) := search c.requiredSerialNumber deviceList ""
    let c := { c with handle }
    if handle = none then (false, c)
    else (true, { c with toUsbConnectionBase := c.toUsbConnectionBase.connected devSerialNumber })

end PololuUsbConnection

/-! ## What the loop comes to -/

/-- What the loop does with a device: pass over it, open it and close it again, stop
    with an error, or bind it and record a serial number. -/
inductive Verdict where
  | skip
  | reject
  | block (lastError : UInt8)
  | bind (serialNumber : String)
  deriving DecidableEq, Repr

def UsbDevice.verdict (serialNo devSerial : String) (d : UsbDevice) : Verdict :=
  match d.descriptor with
  | .error e => .block (TicUsb.narrow e.code)
  | .ok desc =>
    if TicUsb.Supported desc ∧ desc.iSerialNumber ≠ 0 then
      match d.opens, d.serial with
      | .error e, _ => .block (TicUsb.narrow e.code)
      | .ok _, .error _ => if serialNo = "" then .bind devSerial else .reject
      | .ok _, .ok serial => if serialNo = "" ∨ serial = serialNo then .bind serial else .reject
    else .skip

/-- The first device that ends the loop, and how. -/
def ending (serialNo devSerial : String) : (k : Nat) → List UsbDevice → Option (Nat × Verdict)
  | _, [] => none
  | k, d :: devs =>
    match d.verdict serialNo devSerial with
    | .skip => ending serialNo devSerial (k + 1) devs
    | .reject => ending serialNo devSerial (k + 1) devs
    | .block e => some (k, .block e)
    | .bind serial => some (k, .bind serial)

/-- The device bound at that end, and the serial number recorded. -/
def bound : Option (Nat × Verdict) → Option (Nat × String)
  | some (k, .bind serial) => some (k, serial)
  | _ => none

/-- The last error at that end. -/
def errorOf : Option (Nat × Verdict) → UInt8
  | some (_, .block e) => e
  | _ => 0

namespace TicUsb
variable {σ : Type} {serialNo devSerial : String}

/-- The object's handle is the one open. -/
def Owns (t : Tic (Session σ)) : Prop := Ledger.of HandleCall.effect t.io.calls = { held := t.io.handle.toList }

/-- It does not depend on the last error. -/
theorem Owns.withError {t : Tic (Session σ)} (h : Owns t) (e : UInt8) : Owns { t with lastError := e } := by
  unfold Owns at h ⊢
  exact h

theorem owns_construct (init : Except LibusbError Unit) (usb : σ) : Owns (construct init usb) := by
  cases init <;> rfl

theorem disconnect_owns {t : Tic (Session σ)} (h : Owns t) : Owns (disconnect t) := by
  unfold Owns at h
  rw [Owns, disconnect, Ledger.of_append, h]
  cases t.io.handle with
  | none => rfl
  | some handle => simp [Ledger.note, HandleCall.effect]

/-- How the loop leaves the object. -/
structure Ends (e : Option (Nat × Verdict)) (t t' : Tic (Session σ)) : Prop where
  handle : t'.io.handle = (bound e).map Prod.fst
  serialNumber : t'.io.serialNumber = ((bound e).map Prod.snd).getD t.io.serialNumber
  lastError : t'.lastError = errorOf e
  product : t'.product = t.product
  usb : t'.io.usb = t.io.usb
  context : t'.io.context = t.io.context
  owns : Owns t → Owns t'

theorem search_cons (k : Nat) (d : UsbDevice) (devs : List UsbDevice) {t : Tic (Session σ)} (hnone : t.io.handle = none) :
    search serialNo devSerial k (d :: devs) t =
      match d.verdict serialNo devSerial with
      | .skip => search serialNo devSerial (k + 1) devs { t with lastError := 0 }
      | .reject => search serialNo devSerial (k + 1) devs (closed k (opened k t))
      | .block e => { t with lastError := e }
      | .bind serial => { opened k t with io := { (opened k t).io with serialNumber := serial } } := by
  rw [search, UsbDevice.verdict]
  cases d.descriptor with
  | error e => rfl
  | ok desc =>
    by_cases hsup : Supported desc
    · by_cases hserial : desc.iSerialNumber = 0
      · simp [hsup, hserial]
      · simp only [hsup, hserial, not_true, if_false, ne_eq, not_false_iff, and_self, if_true]
        cases d.opens with
        | error e => simp [← hnone]
        | ok _ =>
          cases d.serial with
          | error _ =>
            by_cases hs : serialNo = ""
            · simp [hs, opened]
            · simp [hs, opened, closed]
          | ok serial =>
            by_cases hs : serialNo = "" ∨ serial = serialNo
            · simp [hs, opened]
            · simp [hs, opened, closed]
    · simp [hsup]

theorem opened_owns {t : Tic (Session σ)} (k : Nat) (hnone : t.io.handle = none) (h : Owns t) : Owns (opened k t) := by
  unfold Owns at h
  rw [Owns, opened, Ledger.of_append, h, hnone]
  rfl

theorem closed_owns {t : Tic (Session σ)} (k : Nat) (hnone : t.io.handle = none) (h : Owns t) :
    Owns (closed k (opened k t)) := by
  have hopen := opened_owns k hnone h
  unfold Owns at hopen
  rw [Owns, closed, Ledger.of_append, hopen]
  simp [opened, Ledger.note, HandleCall.effect]

theorem search_ends (serialNo devSerial : String) (k : Nat) (devs : List UsbDevice) {t : Tic (Session σ)} (hnone : t.io.handle = none)
    (herr : t.lastError = 0) : Ends (ending serialNo devSerial k devs) t (search serialNo devSerial k devs t) := by
  induction devs generalizing k t with
  | nil => exact ⟨hnone, rfl, herr, rfl, rfl, rfl, id⟩
  | cons d devs ih =>
    rw [search_cons k d devs hnone, ending]
    cases d.verdict serialNo devSerial with
    | skip =>
      have hsame : { t with lastError := 0 } = t := by rw [← herr]
      simp only [hsame]
      exact ih (k + 1) hnone herr
    | reject =>
      -- opened and closed again: the handle is free for the next
      have h := ih (k + 1) (t := closed k (opened k t)) rfl rfl
      exact ⟨h.handle, h.serialNumber, h.lastError, h.product, h.usb, h.context,
        fun how => h.owns (closed_owns k hnone how)⟩
    | block e => exact ⟨hnone, rfl, rfl, rfl, rfl, rfl, id⟩
    | bind serial => exact ⟨rfl, rfl, rfl, rfl, rfl, rfl, fun how => opened_owns k hnone how⟩

/-! ## Reporting -/

/-- How `connect` leaves the object, with the list of a length that is looked at. -/
structure Connected (e : Option (Nat × Verdict)) (t t' : Tic (Session σ)) : Prop where
  handle : t'.io.handle = (bound e).map Prod.fst
  serialNumber : t'.io.serialNumber = ((bound e).map Prod.snd).getD ""
  reports : t'.lastError = 0 ↔ t'.io.handle ≠ none
  product : t'.product = t.product
  usb : t'.io.usb = t.io.usb
  context : t'.io.context = t.io.context
  owns : Owns t → Owns t'

theorem bound_of_error {e : Option (Nat × Verdict)} (h : errorOf e ≠ 0) : bound e = none := by
  rcases e with _ | ⟨k, v⟩
  · rfl
  · cases v with
    | bind serial => exact absurd rfl h
    | _ => rfl

/-- Only a list of a length that is a multiple of 256 is not walked. -/
theorem toNat_count (devs : List UsbDevice) : UInt8.ofNat devs.length ≤ 0 ↔ devs.length % 256 = 0 := by
  rw [UInt8.le_iff_toNat_le, UInt8.toNat_ofNat']
  exact Nat.le_zero

theorem connect_devs (serialNo devSerial : String) {devs : List UsbDevice} {t : Tic (Session σ)} (hctx : t.io.context = true)
    (hcount : devs.length % 256 ≠ 0) :
    ∃ t', connect (.ok devs) serialNo devSerial t = some t' ∧ Connected (ending serialNo devSerial 0 devs) t t' := by
  have hends := search_ends serialNo devSerial 0 devs
    (t := { disconnect t with lastError := 0 }) rfl rfl
  have howns : Owns t → Owns { disconnect t with lastError := 0 } := fun how => (disconnect_owns how).withError 0
  have hwalk : connect (.ok devs) serialNo devSerial t =
      (let t' := search serialNo devSerial 0 devs { disconnect t with lastError := 0 }
       if t'.lastError ≠ 0 then some t'
       else if t'.io.handle = none then some { t' with lastError := narrow (-4) }
       else some t') := by
    simp only [connect, hctx, toNat_count, hcount, if_false, Bool.true_eq_false]
  rw [hwalk]
  generalize search serialNo devSerial 0 devs { disconnect t with lastError := 0 } = t' at hends
  have hcode : narrow (-4) ≠ 0 := by decide
  generalize narrow (-4) = code at hcode ⊢
  by_cases herr : t'.lastError ≠ 0
  · have hbound : bound (ending serialNo devSerial 0 devs) = none := by
      apply bound_of_error
      rwa [← hends.lastError]
    refine ⟨t', by simp only [herr, if_true, ne_eq, not_false_iff], hends.handle, hends.serialNumber, ?_,
      hends.product, hends.usb, hends.context, fun how => hends.owns (howns how)⟩
    rw [hends.handle, hbound]
    exact iff_of_false herr (fun h => h rfl)
  · have hzero : t'.lastError = 0 := not_not.mp herr
    by_cases hhandle : t'.io.handle = none
    · refine ⟨{ t' with lastError := code }, by simp only [hzero, hhandle, if_true, ne_eq, not_true, if_false],
        hends.handle, hends.serialNumber, ?_, hends.product, hends.usb, hends.context,
        fun how => (hends.owns (howns how)).withError code⟩
      exact iff_of_false hcode (fun h => h hhandle)
    · exact ⟨t', by simp only [hzero, hhandle, ne_eq, not_true, if_false], hends.handle, hends.serialNumber,
        iff_of_true hzero hhandle, hends.product, hends.usb, hends.context, fun how => hends.owns (howns how)⟩

/-- A list that is not walked: no error, and no device. -/
theorem connect_uncounted (serialNo devSerial : String) {devs : List UsbDevice} {t : Tic (Session σ)} (hctx : t.io.context = true)
    (hcount : devs.length % 256 = 0) :
    connect (.ok devs) serialNo devSerial t = some { disconnect t with lastError := 0 } := by
  have hzero : UInt8.ofNat devs.length = 0 := by
    apply UInt8.toNat_inj.mp
    rw [UInt8.toNat_ofNat', hcount]
    rfl
  simp only [connect, hctx, hzero, UInt8.le_refl, if_true, if_false, Bool.true_eq_false]

/-- An error is no negative number once it is stored, and the list is walked. -/
theorem connect_no_list {e : LibusbError} {t : Tic (Session σ)} (hctx : t.io.context = true) :
    connect (.error e) serialNo devSerial t = none := by
  have hne : ¬ narrow e.code ≤ 0 := by cases e <;> decide
  simp only [connect, hctx, hne, if_false, Bool.true_eq_false]

/-- Every way in which `connect` returns. -/
theorem connect_cases {list : Except LibusbError (List UsbDevice)} {t t' : Tic (Session σ)}
    (h : connect list serialNo devSerial t = some t') :
    t.io.context = false ∧ t' = t ∨
    t' = { disconnect t with lastError := 0 } ∨
    t.io.context = true ∧ ∃ devs, list = .ok devs ∧ Connected (ending serialNo devSerial 0 devs) t t' := by
  cases hctx : t.io.context with
  | false =>
    rw [connect, if_pos hctx, Option.some.injEq] at h
    exact .inl ⟨rfl, h.symm⟩
  | true =>
    right
    cases list with
    | error e =>
      rw [connect_no_list hctx] at h
      cases h
    | ok devs =>
      by_cases hcount : devs.length % 256 = 0
      · rw [connect_uncounted serialNo devSerial hctx hcount, Option.some.injEq] at h
        exact .inl h.symm
      · obtain ⟨t'', hconn, hc⟩ := connect_devs serialNo devSerial hctx hcount
        rw [hconn, Option.some.injEq] at h
        rw [← h]
        exact .inr ⟨rfl, devs, rfl, hc⟩

/-- `connect` returns without having walked a list it did not get, and reports
    success exactly for a device bound. -/
def ReportsDevice (out : Option (Tic (Session σ))) : Prop := ∃ t, out = some t ∧ (t.lastError = 0 ↔ t.io.handle ≠ none)

/-- The list was returned, and its length is no multiple of 256. -/
def Counted (list : Except LibusbError (List UsbDevice)) : Prop := ∃ devs, list = .ok devs ∧ devs.length % 256 ≠ 0

theorem not_counted_error (e : LibusbError) : ¬ Counted (.error e) := by
  intro ⟨devs, h, _⟩
  cases h

theorem not_counted_of_mod {devs : List UsbDevice} (hcount : devs.length % 256 = 0) : ¬ Counted (.ok devs) := by
  intro ⟨devs', h, hne⟩
  rw [Except.ok.injEq] at h
  rw [← h] at hne
  exact hne hcount

theorem connect_counted {list : Except LibusbError (List UsbDevice)} {t : Tic (Session σ)}
    (hctx : t.io.context = true) : ReportsDevice (connect list serialNo devSerial t) ↔ Counted list := by
  cases list with
  | error e =>
    rw [connect_no_list hctx]
    refine iff_of_false ?_ (not_counted_error e)
    intro ⟨t', h, _⟩
    cases h
  | ok devs =>
    by_cases hcount : devs.length % 256 = 0
    · rw [connect_uncounted serialNo devSerial hctx hcount]
      refine iff_of_false ?_ (not_counted_of_mod hcount)
      intro ⟨t', h, hiff⟩
      rw [Option.some.injEq] at h
      rw [← h] at hiff
      exact hiff.mp rfl rfl
    · obtain ⟨t', hconn, hc⟩ := connect_devs serialNo devSerial hctx hcount
      exact iff_of_true ⟨t', hconn, hc.reports⟩ ⟨devs, rfl, hcount⟩

/-! ## A life of the object -/

/-- A `TicUsb` object after any connects and disconnects, and any commands and
    reads in between: these change the last error and the bus only. -/
inductive Reached : Tic (Session σ) → Prop
  | construct (init : Except LibusbError Unit) (usb : σ) : Reached (construct init usb)
  | connect {t t' : Tic (Session σ)} {list : Except LibusbError (List UsbDevice)} {serialNo devSerial : String} :
    Reached t → connect list serialNo devSerial t = some t' → Reached t'
  | disconnect {t : Tic (Session σ)} : Reached t → Reached (disconnect t)
  | use {t : Tic (Session σ)} (lastError : UInt8) (usb : σ) :
    Reached t → Reached { t with lastError, io := { t.io with usb } }

/-- Through all of it, the handle is the only one open, and none is closed twice. -/
theorem Reached.owns {t : Tic (Session σ)} (h : Reached t) : Owns t := by
  induction h with
  | construct init usb => exact owns_construct init usb
  | connect _ hconn ih =>
    rcases connect_cases hconn with ⟨-, rfl⟩ | rfl | ⟨-, devs, -, hc⟩
    · exact ih
    · exact (disconnect_owns ih).withError 0
    · exact hc.owns ih
  | disconnect _ ih => exact disconnect_owns ih
  | use _ _ _ ih =>
    unfold Owns at ih ⊢
    exact ih

end TicUsb

/-- `Connect` returns, and true only with an open device. -/
def LibUsbConnection.Opens {σ : Type} (out : Option (Bool × LibUsbConnection σ)) : Prop :=
  ∃ res c, out = some (res, c) ∧ (res = true → c.ticUsb.io.handle ≠ none)

/-- What becomes of `Connect` is what became of `TicUsb::connect`. -/
theorem LibUsbConnection.connect_some {σ : Type} {list : Except LibusbError (List UsbDevice)} {devSerial : String}
    {c : LibUsbConnection σ} {t : Tic (TicUsb.Session σ)}
    (h : TicUsb.connect list c.requiredSerialNumber devSerial (TicUsb.disconnect c.ticUsb) = some t) :
    ∃ c', c.connect list devSerial = some (decide (t.lastError = 0), c') ∧ c'.ticUsb = t := by
  have hreq : c.disconnect.requiredSerialNumber = c.requiredSerialNumber := rfl
  have htic : c.disconnect.ticUsb = TicUsb.disconnect c.ticUsb := rfl
  rw [connect, hreq, htic, h, Option.map_some]
  by_cases herr : t.lastError = 0
  · refine ⟨{ c.disconnect with
      ticUsb := t
      toUsbConnectionBase := c.disconnect.toUsbConnectionBase.connected t.io.serialNumber }, ?_, rfl⟩
    simp [herr]
  · refine ⟨{ c.disconnect with ticUsb := t }, ?_, rfl⟩
    simp [herr]

theorem LibUsbConnection.connect_none {σ : Type} {list : Except LibusbError (List UsbDevice)} {devSerial : String}
    {c : LibUsbConnection σ}
    (h : TicUsb.connect list c.requiredSerialNumber devSerial (TicUsb.disconnect c.ticUsb) = none) :
    c.connect list devSerial = none := by
  have hreq : c.disconnect.requiredSerialNumber = c.requiredSerialNumber := rfl
  have htic : c.disconnect.ticUsb = TicUsb.disconnect c.ticUsb := rfl
  rw [connect, hreq, htic, h, Option.map_none]

theorem LibUsbConnection.opens_iff {σ : Type} {list : Except LibusbError (List UsbDevice)} {devSerial : String}
    {c : LibUsbConnection σ} (hctx : c.ticUsb.io.context = true) :
    Opens (c.connect list devSerial) ↔ TicUsb.Counted list := by
  have hctx' : (TicUsb.disconnect c.ticUsb).io.context = true := hctx
  cases list with
  | error e =>
    rw [connect_none (TicUsb.connect_no_list hctx')]
    refine iff_of_false ?_ (TicUsb.not_counted_error e)
    intro ⟨res, c', h, _⟩
    cases h
  | ok devs =>
    by_cases hcount : devs.length % 256 = 0
    · obtain ⟨c', hconn, htic⟩ := connect_some (TicUsb.connect_uncounted _ devSerial hctx' hcount)
      rw [hconn]
      refine iff_of_false ?_ (TicUsb.not_counted_of_mod hcount)
      intro ⟨res, c'', h, hopen⟩
      simp only [Option.some.injEq, Prod.mk.injEq] at h
      rw [← h.1, ← h.2, htic] at hopen
      exact hopen (by simp) rfl
    · obtain ⟨t, hconn, hc⟩ := TicUsb.connect_devs c.requiredSerialNumber devSerial hctx' hcount
      obtain ⟨c', hconn', htic⟩ := connect_some hconn
      rw [hconn']
      refine iff_of_true ⟨_, c', rfl, ?_⟩ ⟨devs, rfl, hcount⟩
      intro hres
      rw [htic]
      exact hc.reports.mp (of_decide_eq_true hres)

/-- **Success means bound.** For every result of `libusb_get_device_list`, every
    required serial number, and every outcome of the calls on each device. -/
theorem connect_reports_iff {σ : Type} (list : Except LibusbError (List UsbDevice)) (serialNo devSerial : String)
    (c : LibUsbConnection σ) (hctx : c.ticUsb.io.context = true) :
    (TicUsb.ReportsDevice (TicUsb.connect list serialNo devSerial c.ticUsb) ↔ TicUsb.Counted list) ∧
    (LibUsbConnection.Opens (c.connect list devSerial) ↔ TicUsb.Counted list) :=
  ⟨TicUsb.connect_counted hctx, LibUsbConnection.opens_iff hctx⟩

/-- A plugin fresh from its constructor, with nothing required. -/
def LibUsbConnection.fresh : LibUsbConnection Unit where
  requiredSerialNumber := ""
  ticSerialNumberTP := ⟨"", .idle⟩
  ticUsb := TicUsb.construct (.ok ()) ()

/-- A T825 with the serial number "00221122". -/
def UsbDevice.t825 : UsbDevice where
  descriptor := .ok ⟨ticVendorId, ticProductIdT825, 3⟩
  opens := .ok ()
  serial := .ok "00221122"

theorem connect_reports_t825 :
    LibUsbConnection.fresh.ticUsb.io.context = true ∧
    LibUsbConnection.Opens (LibUsbConnection.fresh.connect (.ok [.t825]) "") :=
  ⟨rfl, (connect_reports_iff (.ok [.t825]) "" "" LibUsbConnection.fresh rfl).2.mpr ⟨[.t825], rfl, by decide⟩⟩

/-- No device attached: success, and `Connect` returns true. -/
theorem no_device_connected :
    ¬ TicUsb.ReportsDevice (TicUsb.connect (.ok []) "" "" LibUsbConnection.fresh.ticUsb) ∧
    ¬ LibUsbConnection.Opens (LibUsbConnection.fresh.connect (.ok []) "") := by
  have hcount : ¬ TicUsb.Counted (.ok []) := TicUsb.not_counted_of_mod rfl
  exact ⟨mt (TicUsb.connect_counted rfl).mp hcount, mt (LibUsbConnection.opens_iff rfl).mp hcount⟩

end TicFocuserNG
