import TicFocuserNG.UsbConnect

/- Which of the attached devices a USB connection binds.

   `firstSuitable` is the device asked for: the first supported Tic with a serial
   number that can be opened, whose serial number can be read and is the required
   one. `PololuUsbConnection` binds it from any list (`pololu_first`).
   `LibUsbConnection` does unless the search stops before it: at a device whose
   descriptor cannot be read, at a Tic that cannot be opened, or, with nothing
   required, at one whose serial number cannot be read, which is bound
   (`selects_right_iff`). -/
namespace TicFocuserNG

namespace UsbDevice

/-- The serial number of a device that can be used: a supported Tic with one, which
    can be opened and its serial number read. -/
def usable (d : UsbDevice) : Option String :=
  match d.descriptor, d.opens, d.serial with
  | .ok desc, .ok _, .ok serial => if TicUsb.Supported desc ∧ desc.iSerialNumber ≠ 0 then some serial else none
  | _, _, _ => none

def Suitable (s : String) (d : UsbDevice) : Prop := ∃ serial ∈ d.usable, s = "" ∨ serial = s

/-- Its descriptor cannot be read, or it is a supported Tic that cannot be opened. -/
def Blocks (d : UsbDevice) : Prop :=
  match d.descriptor, d.opens with
  | .error _, _ => True
  | .ok desc, .error _ => TicUsb.Supported desc ∧ desc.iSerialNumber ≠ 0
  | .ok _, .ok _ => False

/-- A supported Tic that can be opened, and its serial number not read. -/
def Misread (d : UsbDevice) : Prop :=
  match d.descriptor, d.opens, d.serial with
  | .ok desc, .ok _, .error _ => TicUsb.Supported desc ∧ desc.iSerialNumber ≠ 0
  | _, _, _ => False

/-- The search for `s` does not go on after it. -/
def Stops (s : String) (d : UsbDevice) : Prop := d.Suitable s ∨ d.Blocks ∨ s = "" ∧ d.Misread

instance (s : String) (d : UsbDevice) : Decidable (d.Suitable s) := by
  unfold Suitable
  infer_instance

instance (d : UsbDevice) : Decidable d.Blocks := by
  unfold Blocks
  split <;> infer_instance

instance (d : UsbDevice) : Decidable d.Misread := by
  unfold Misread
  split <;> infer_instance

instance (s : String) (d : UsbDevice) : Decidable (d.Stops s) := inferInstanceAs (Decidable (_ ∨ _ ∨ _))

end UsbDevice

/-- The place of the first suitable device, and its serial number. -/
def firstSuitable (s : String) : (k : Nat) → List UsbDevice → Option (Nat × String)
  | _, [] => none
  | k, d :: devs =>
    match d.usable with
    | some serial => if s = "" ∨ serial = s then some (k, serial) else firstSuitable s (k + 1) devs
    | none => firstSuitable s (k + 1) devs

/-- The supported Tics in order, with their serial numbers, as
    `tic_list_connected_devices` lists them. -/
def listed : (k : Nat) → List UsbDevice → List TicDevice
  | _, [] => []
  | k, d :: devs =>
    match d.descriptor, d.serial with
    | .ok desc, .ok serial =>
      if TicUsb.Supported desc ∧ desc.iSerialNumber ≠ 0 then
        ⟨k, serial, d.opens.isOk⟩ :: listed (k + 1) devs
      else listed (k + 1) devs
    | _, _ => listed (k + 1) devs

/-- Over the same devices, and with the same serial number required, both plugins
    bind the first suitable device; its serial number is recorded, and no other
    device is left open. `handle` is what the other plugin held before. -/
def SelectsRight {σ : Type} (devs : List UsbDevice) (devSerial : String) (c : LibUsbConnection σ)
    (handle : Option Nat) : Prop :=
  ∃ res c', c.connect (.ok devs) devSerial = some (res, c') ∧
    c'.ticUsb.io.handle = (firstSuitable c.requiredSerialNumber 0 devs).map Prod.fst ∧
    c'.ticUsb.io.serialNumber = ((firstSuitable c.requiredSerialNumber 0 devs).map Prod.snd).getD "" ∧
    (TicUsb.Owns c.ticUsb → TicUsb.Owns c'.ticUsb) ∧
    ((PololuUsbConnection.mk c.toUsbConnectionBase handle).connect (some (listed 0 devs))).2.handle =
      c'.ticUsb.io.handle

/-- No device is suitable, and the search does not stop at one misread; or it stops
    at a suitable one. -/
def Clear (s : String) (devs : List UsbDevice) : Prop :=
  (∀ d ∈ devs, ¬ d.Suitable s) ∧ (∀ d ∈ devs.find? (fun d => decide (d.Stops s)), ¬ d.Misread) ∨
    ∃ d ∈ devs.find? (fun d => decide (d.Stops s)), d.Suitable s

/-- A list of a length that is a multiple of 256 is not searched: nothing in it may
    be suitable. -/
def Unhindered (s : String) (devs : List UsbDevice) : Prop :=
  (devs.length % 256 = 0 → ∀ d ∈ devs, ¬ d.Suitable s) ∧ (devs.length % 256 ≠ 0 → Clear s devs)

/-! ## The first suitable device -/

variable {s : String}

theorem firstSuitable_none {k : Nat} {devs : List UsbDevice} :
    firstSuitable s k devs = none ↔ ∀ d ∈ devs, ¬ d.Suitable s := by
  induction devs generalizing k with
  | nil => simp [firstSuitable]
  | cons d devs ih =>
    rw [List.forall_mem_cons, ← ih (k := k + 1), firstSuitable, UsbDevice.Suitable]
    cases d.usable with
    | none => simp
    | some serial =>
      by_cases h : s = "" ∨ serial = s
      · simp [h]
      · simp [h]

theorem le_firstSuitable {k i : Nat} {devs : List UsbDevice} {serial : String}
    (h : firstSuitable s k devs = some (i, serial)) : k ≤ i := by
  induction devs generalizing k with
  | nil => cases h
  | cons d devs ih =>
    rw [firstSuitable] at h
    split at h
    · split at h
      · simp only [Option.some.injEq, Prod.mk.injEq] at h
        exact Nat.le_of_eq h.1
      · exact Nat.le_of_succ_le (ih h)
    · exact Nat.le_of_succ_le (ih h)

/-- The other plugin goes on after a device that it cannot open. -/
theorem pololu_first (devs : List UsbDevice) (k : Nat) (devSerialNumber : String) :
    (PololuUsbConnection.search s (listed k devs) devSerialNumber).1 = (firstSuitable s k devs).map Prod.fst := by
  induction devs generalizing k devSerialNumber with
  | nil => rfl
  | cons d devs ih =>
    rw [listed, firstSuitable, UsbDevice.usable]
    rcases d.descriptor with _ | desc
    · exact ih (k + 1) devSerialNumber
    · rcases d.serial with _ | serial
      · cases d.opens <;> exact ih (k + 1) devSerialNumber
      · by_cases hc : TicUsb.Supported desc ∧ desc.iSerialNumber ≠ 0
        · rcases d.opens with _ | _
          -- listed, but not opened: the loop goes on, as `firstSuitable` does
          · have hclosed : ¬ ((s = "" ∨ s = serial) ∧ false = true) := fun h => Bool.false_ne_true h.2
            simp only [if_pos hc, PololuUsbConnection.search, Except.isOk, Except.toBool, if_neg hclosed]
            exact ih (k + 1) serial
          · by_cases hs : s = "" ∨ serial = s
            · have hs' : s = "" ∨ s = serial := hs.imp_right Eq.symm
              simp [hc, hs, hs', PololuUsbConnection.search, Except.isOk, Except.toBool]
            · have hs' : ¬ (s = "" ∨ s = serial) := fun h => hs (h.imp_right Eq.symm)
              simp only [if_pos hc, if_neg hs, PololuUsbConnection.search, hs', false_and, if_false]
              exact ih (k + 1) serial
        · rcases d.opens with _ | _
          · simp only [if_neg hc]
            exact ih (k + 1) devSerialNumber
          · simp only [if_neg hc]
            exact ih (k + 1) devSerialNumber

/-! ## The search -/

theorem UsbDevice.verdict_suitable (devSerial : String) {d : UsbDevice} {serial : String} (hd : d.usable = some serial)
    (hs : s = "" ∨ serial = s) : d.verdict s devSerial = .bind serial := by
  obtain ⟨_ | desc, _ | _, _ | serial'⟩ := d
  case ok.ok.ok =>
    simp only [usable] at hd
    split at hd
    · next hc =>
      simp only [Option.some.injEq] at hd
      rw [hd]
      simp [verdict, hc, hs]
    · cases hd
  all_goals cases hd

theorem UsbDevice.verdict_blocks (s devSerial : String) {d : UsbDevice} (hd : d.Blocks) : ∃ e, d.verdict s devSerial = .block e := by
  obtain ⟨e | desc, e | _, serial⟩ := d
  · exact ⟨_, rfl⟩
  · exact ⟨_, rfl⟩
  · exact ⟨TicUsb.narrow e.code, by simp [verdict, hd.1, hd.2]⟩
  · cases hd

theorem UsbDevice.verdict_misread (devSerial : String) {d : UsbDevice} (hd : d.Misread) (hs : s = "") :
    d.verdict s devSerial = .bind devSerial := by
  obtain ⟨_ | desc, _ | _, _ | serial⟩ := d
  case ok.ok.error => simp [verdict, hd.1, hd.2, hs]
  all_goals cases hd

theorem UsbDevice.verdict_passed (devSerial : String) {d : UsbDevice} (hd : ¬ d.Stops s) :
    d.verdict s devSerial = .skip ∨ d.verdict s devSerial = .reject := by
  obtain ⟨hsuit, hblock, hmis⟩ : ¬ d.Suitable s ∧ ¬ d.Blocks ∧ ¬ (s = "" ∧ d.Misread) := by
    simpa only [Stops, not_or] using hd
  obtain ⟨e | desc, e | _, e | serial⟩ := d
  -- what is passed over is no supported Tic, or the wrong one
  case ok.ok.error =>
    by_cases hc : TicUsb.Supported desc ∧ desc.iSerialNumber ≠ 0
    · have hs : s ≠ "" := fun h => hmis ⟨h, hc⟩
      right
      simp [verdict, hc, hs]
    · exact .inl (if_neg hc)
  case ok.ok.ok =>
    by_cases hc : TicUsb.Supported desc ∧ desc.iSerialNumber ≠ 0
    · have hs : ¬ (s = "" ∨ serial = s) := fun h => hsuit ⟨serial, by simp [usable, hc], h⟩
      right
      simp [verdict, hc, hs]
    · exact .inl (if_neg hc)
  case ok.error.error => exact .inl (if_neg hblock)
  case ok.error.ok => exact .inl (if_neg hblock)
  all_goals exact absurd trivial hblock

theorem firstSuitable_cons {d : UsbDevice} (hd : ¬ d.Suitable s) (k : Nat) (devs : List UsbDevice) :
    firstSuitable s k (d :: devs) = firstSuitable s (k + 1) devs := by
  rw [firstSuitable]
  cases hu : d.usable with
  | none => rfl
  | some serial =>
    have hs : ¬ (s = "" ∨ serial = s) := fun h => hd ⟨serial, hu, h⟩
    simp only [if_neg hs]

theorem UsbDevice.Blocks.not_misread {d : UsbDevice} (h : d.Blocks) : ¬ d.Misread := by
  obtain ⟨_ | desc, _ | _, _ | serial⟩ := d
  case ok.ok.error => cases h
  all_goals exact id

/-- A device that stops the search decides it. -/
theorem clear_cons_stop {d : UsbDevice} (hd : d.Stops s) (devs : List UsbDevice) :
    Clear s (d :: devs) ↔ d.Suitable s ∨ ¬ d.Misread ∧ ∀ d' ∈ d :: devs, ¬ d'.Suitable s := by
  have hfind : (d :: devs).find? (fun d => decide (d.Stops s)) = some d :=
    List.find?_cons_of_pos (decide_eq_true hd)
  simp only [Clear, hfind, Option.mem_some_iff, forall_eq', exists_eq_left']
  rw [or_comm, and_comm]

theorem clear_cons_pass {d : UsbDevice} (hd : ¬ d.Stops s) (devs : List UsbDevice) :
    Clear s (d :: devs) ↔ Clear s devs := by
  have hfind : (d :: devs).find? (fun d => decide (d.Stops s)) = devs.find? (fun d => decide (d.Stops s)) :=
    List.find?_cons_of_neg (by simpa using hd)
  have hsuit : ¬ d.Suitable s := fun h => hd (.inl h)
  simp only [Clear, hfind, List.forall_mem_cons, hsuit, not_false_iff, true_and]

/-- Behind a device that is bound there is nothing left to find, at its place. -/
theorem bound_ne_later {k : Nat} {devSerial : String} {devs : List UsbDevice} :
    (some (k, devSerial)).map Prod.fst ≠ (firstSuitable s (k + 1) devs).map Prod.fst := by
  intro h
  obtain ⟨⟨i, serial⟩, hfirst, hi⟩ := Option.map_eq_some_iff.mp h.symm
  have hle := le_firstSuitable hfirst
  have heq : i = k := hi
  omega

/-- The search binds the first suitable device, under its serial number, exactly
    where it is clear. -/
theorem search_clear (s devSerial : String) (k : Nat) (devs : List UsbDevice) :
    ((bound (ending s devSerial k devs)).map Prod.fst = (firstSuitable s k devs).map Prod.fst → Clear s devs) ∧
    (Clear s devs → bound (ending s devSerial k devs) = firstSuitable s k devs) := by
  induction devs generalizing k with
  | nil =>
    refine ⟨fun _ => .inl ⟨fun d hd => absurd hd (List.not_mem_nil), ?_⟩, fun _ => rfl⟩
    intro d hd
    cases hd
  | cons d devs ih =>
    by_cases hstop : d.Stops s
    · rw [clear_cons_stop hstop, ending]
      by_cases hsuit : d.Suitable s
      · obtain ⟨serial, hu, hs⟩ := hsuit
        refine ⟨fun _ => .inl ⟨serial, hu, hs⟩, fun _ => ?_⟩
        rw [UsbDevice.verdict_suitable devSerial hu hs, firstSuitable, hu]
        simp only [if_pos hs]
        rfl
      · rw [or_iff_right hsuit, firstSuitable_cons hsuit]
        by_cases hblock : d.Blocks
        · -- nothing is bound, which is right if nothing is suitable
          obtain ⟨e, hv⟩ := UsbDevice.verdict_blocks s devSerial hblock
          rw [hv]
          apply And.intro
          · intro h
            have hnone := firstSuitable_none.mp (Option.map_eq_none_iff.mp h.symm)
            exact ⟨hblock.not_misread, List.forall_mem_cons.mpr ⟨hsuit, hnone⟩⟩
          · intro h
            exact (firstSuitable_none.mpr (List.forall_mem_cons.mp h.2).2).symm
        · -- what is bound is not suitable
          obtain ⟨hs, hmis⟩ := (hstop.resolve_left hsuit).resolve_left hblock
          rw [UsbDevice.verdict_misread devSerial hmis hs]
          exact ⟨fun h => absurd h bound_ne_later, fun h => absurd hmis h.1⟩
    · have hsuit : ¬ d.Suitable s := fun h => hstop (.inl h)
      have hend : ending s devSerial k (d :: devs) = ending s devSerial (k + 1) devs := by
        rw [ending]
        rcases UsbDevice.verdict_passed devSerial hstop with hv | hv <;> rw [hv]
      rw [firstSuitable_cons hsuit, clear_cons_pass hstop, hend]
      exact ih (k + 1)

/-! ## Both plugins -/

theorem pololu_handle (b : UsbConnectionBase) (handle : Option Nat) (devs : List UsbDevice) :
    ((PololuUsbConnection.mk b handle).connect (some (listed 0 devs))).2.handle =
      (firstSuitable b.requiredSerialNumber 0 devs).map Prod.fst := by
  rw [← pololu_first devs 0 ""]
  have hreq : (PololuUsbConnection.mk b handle).disconnect.requiredSerialNumber = b.requiredSerialNumber := rfl
  simp only [PololuUsbConnection.connect, hreq]
  split
  · next h => rw [h]
  · rfl

/-- A list that is not walked: right if no device is suitable. -/
theorem selects_right_uncounted {σ : Type} {devs : List UsbDevice} (devSerial : String) {c : LibUsbConnection σ}
    (handle : Option Nat) (hctx : c.ticUsb.io.context = true) (hcount : devs.length % 256 = 0) :
    SelectsRight devs devSerial c handle ↔ firstSuitable c.requiredSerialNumber 0 devs = none := by
  have hctx' : (TicUsb.disconnect c.ticUsb).io.context = true := hctx
  obtain ⟨c', hconn, htic⟩ := LibUsbConnection.connect_some (TicUsb.connect_uncounted _ devSerial hctx' hcount)
  unfold SelectsRight
  rw [pololu_handle]
  apply Iff.intro
  · intro h
    obtain ⟨res, c'', h, hhandle, -⟩ := h
    rw [hconn] at h
    simp only [Option.some.injEq, Prod.mk.injEq] at h
    rw [← h.2, htic] at hhandle
    exact Option.map_eq_none_iff.mp hhandle.symm
  · intro hnone
    rw [hnone]
    refine ⟨_, c', hconn, by rw [htic]; rfl, by rw [htic]; rfl, ?_, by rw [htic]; rfl⟩
    intro how
    rw [htic]
    exact (TicUsb.disconnect_owns (TicUsb.disconnect_owns how)).withError 0

theorem selects_right_counted {σ : Type} {devs : List UsbDevice} (devSerial : String) {c : LibUsbConnection σ}
    (handle : Option Nat) (hctx : c.ticUsb.io.context = true) (hcount : devs.length % 256 ≠ 0) :
    SelectsRight devs devSerial c handle ↔ Clear c.requiredSerialNumber devs := by
  have hctx' : (TicUsb.disconnect c.ticUsb).io.context = true := hctx
  obtain ⟨t, hconn, hc⟩ := TicUsb.connect_devs c.requiredSerialNumber devSerial hctx' hcount
  obtain ⟨c', hconn', htic⟩ := LibUsbConnection.connect_some hconn
  obtain ⟨hclear, hfirst⟩ := search_clear c.requiredSerialNumber devSerial 0 devs
  unfold SelectsRight
  rw [pololu_handle]
  apply Iff.intro
  · intro h
    obtain ⟨res, c'', h, hhandle, -⟩ := h
    rw [hconn'] at h
    simp only [Option.some.injEq, Prod.mk.injEq] at h
    rw [← h.2, htic, hc.handle] at hhandle
    exact hclear hhandle
  · intro h
    have hbound := hfirst h
    refine ⟨_, c', hconn', ?_, ?_, ?_, ?_⟩
    · rw [htic, hc.handle, hbound]
    · rw [htic, hc.serialNumber, hbound]
    · intro how
      rw [htic]
      exact hc.owns (TicUsb.disconnect_owns how)
    · rw [htic, hc.handle, hbound]

/-- **The same, right device.** -/
theorem selects_right_iff {σ : Type} (devs : List UsbDevice) (devSerial : String) (c : LibUsbConnection σ)
    (handle : Option Nat) (hctx : c.ticUsb.io.context = true) :
    SelectsRight devs devSerial c handle ↔ Unhindered c.requiredSerialNumber devs := by
  unfold Unhindered
  by_cases hcount : devs.length % 256 = 0
  · rw [selects_right_uncounted devSerial handle hctx hcount, firstSuitable_none]
    simp only [hcount, true_imp_iff, ne_eq, not_true, false_imp_iff, and_true]
  · rw [selects_right_counted devSerial handle hctx hcount]
    simp only [hcount, false_imp_iff, true_and, ne_eq, not_false_iff, true_imp_iff]

/-- No Tic: a device of another vendor. -/
def UsbDevice.mouse : UsbDevice where
  descriptor := .ok ⟨0x046D, 0xC077, 1⟩
  opens := .ok ()
  serial := .ok "A1"

def UsbDevice.t834 : UsbDevice where
  descriptor := .ok ⟨ticVendorId, ticProductIdT834, 3⟩
  opens := .ok ()
  serial := .ok "00334455"

/-- The T834 is required: the mouse is passed over, and the T825 opened and closed again. -/
theorem selects_right_t834 :
    LibUsbConnection.fresh.ticUsb.io.context = true ∧
      firstSuitable "00334455" 0 [.mouse, .t825, .t834, .t825] = some (2, "00334455") ∧
      SelectsRight [.mouse, .t825, .t834, .t825] ""
        { LibUsbConnection.fresh with requiredSerialNumber := "00334455" } none := by
  have hclear : Clear "00334455" [.mouse, .t825, .t834, .t825] := .inr ⟨.t834, rfl, by decide⟩
  refine ⟨rfl, by decide, (selects_right_iff [.mouse, .t825, .t834, .t825] "" { LibUsbConnection.fresh with
    requiredSerialNumber := "00334455" } none rfl).mpr ⟨?_, fun _ => hclear⟩⟩
  intro h
  exact absurd h (by decide)

/-- A T825 that another program has claimed. -/
def UsbDevice.busy : UsbDevice where
  descriptor := .ok ⟨ticVendorId, ticProductIdT825, 3⟩
  opens := .error .access
  serial := .ok "00998877"

/-- A busy Tic hides the one after it; the other plugin, which has it in its list, goes on
    and finds that. -/
theorem busy_hides :
    listed 0 [.busy, .t825] = [⟨0, "00998877", false⟩, ⟨1, "00221122", true⟩] ∧
      ((LibUsbConnection.fresh.connect (.ok [.busy, .t825]) "").map fun out => (out.1, out.2.ticUsb.io.handle)) =
        some (false, none) ∧
      ((PololuUsbConnection.mk LibUsbConnection.fresh.toUsbConnectionBase none).connect
        (some (listed 0 [.busy, .t825]))).2.handle = some 1 ∧
      ¬ SelectsRight [.busy, .t825] "" LibUsbConnection.fresh none := by
  have hlib : ((LibUsbConnection.fresh.connect (.ok [.busy, .t825]) "").map
      fun out => (out.1, out.2.ticUsb.io.handle)) = some (false, none) := by decide
  refine ⟨by decide, hlib, by decide, ?_⟩
  intro ⟨res, c, hconn, hhandle, _⟩
  rw [hconn] at hlib
  simp only [Option.map_some, Option.some.injEq, Prod.mk.injEq] at hlib
  rw [hlib.2] at hhandle
  exact absurd hhandle (by decide)

end TicFocuserNG
