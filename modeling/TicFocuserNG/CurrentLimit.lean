import TicFocuserNG.Transports
import TicFocuserNG.UsbConnect

/- The current limit that a poll over `TicUsb` reports, and the board it comes from.

   The unit of the current limit depends on the product (`getCurrentLimit`), and
   nothing ever calls `setProduct`: through all connects and uses the product of the
   object stays unknown (`Reached.idle`), and the limit is taken for a T825's.
   `current_limit_iff`: it is right for the boards that share that unit, and for the
   code 0. -/
namespace TicFocuserNG

open TicBase (value8 currentOfCode)

/-- The product with a USB product id, of the supported ones. -/
def productOf (idProduct : UInt16) : TicProduct :=
  if idProduct = ticProductIdT825 ∨ idProduct = ticProductIdN825 then .t825
  else if idProduct = ticProductIdT834 then .t834
  else if idProduct = ticProductIdT500 then .t500
  else if idProduct = ticProductIdT249 then .t249
  else if idProduct = ticProductId36v4 then .tic36v4
  else .unknown

/-- The boards whose current limit is in units of 32 mA. -/
def InUnits32 (idProduct : UInt16) : Prop :=
  idProduct = ticProductIdT825 ∨ idProduct = ticProductIdN825 ∨ idProduct = ticProductIdT834

/-- What a poll reads from the current limit register, of a controller that was
    asked for `ops` before. -/
def Firmware.limitCode (fw : Firmware) (ops : List TicOp) : UInt8 :=
  value8 (fw.reply (ops ++ registerReads.take 3) .getVariable VarOffset.currentLimit.code.toNat 1)

/-- A poll delivers the current limit of a board with this product id. -/
def DeliversLimit (fw : Firmware) (idProduct : UInt16) (u : Uninit) (msg : String)
    (t : Tic (TicUsb.Session (List TicOp))) : Prop :=
  ∃ vars i,
    TiclibInterface.getVariables (TicUsb.base (usbTic fw)) u ⟨⟨t.lastError, t.product, t.io.toTicUsb⟩, msg⟩ =
      some (some vars, i) ∧
    vars.currentLimit = Int32.ofNat (currentOfCode (productOf idProduct) (fw.limitCode t.io.usb)).toNat

/-! ## The object's life -/

namespace TicUsb
variable {σ : Type}

/-- The product was never set, and without a context there is no handle. -/
structure Idle (t : Tic (Session σ)) : Prop where
  product : t.product = .unknown
  handle : t.io.context = false → t.io.handle = none

theorem connect_idle {t t' : Tic (Session σ)} {list : Except LibusbError (List UsbDevice)} {serialNo devSerial : String}
    (h : Idle t) (hconn : connect list serialNo devSerial t = some t') : Idle t' := by
  rcases connect_cases hconn with ⟨-, rfl⟩ | rfl | ⟨hctx, devs, rfl, hc⟩
  · exact h
  · exact ⟨h.product, fun _ => rfl⟩
  · refine ⟨hc.product.trans h.product, ?_⟩
    intro hfalse
    rw [hc.context, hctx] at hfalse
    cases hfalse

theorem Reached.idle {t : Tic (Session σ)} (h : Reached t) : Idle t := by
  induction h with
  | construct init usb => cases init <;> exact ⟨rfl, fun _ => rfl⟩
  | connect _ hconn ih => exact connect_idle ih hconn
  | disconnect _ ih => exact ⟨ih.product, fun _ => rfl⟩
  | use _ _ _ ih => exact ⟨ih.product, ih.handle⟩

/-! ## The device bound -/

theorem verdict_bind {serialNo devSerial serial : String} {d : UsbDevice}
    (h : d.verdict serialNo devSerial = .bind serial) : ∃ desc, d.descriptor = .ok desc ∧ Supported desc := by
  obtain ⟨_ | desc, _, _⟩ := d
  · cases h
  · by_cases hc : Supported desc ∧ desc.iSerialNumber ≠ 0
    · exact ⟨desc, rfl, hc.1⟩
    · have hskip : (Verdict.skip : Verdict) = .bind serial := by
        rw [← h]
        exact (if_neg hc).symm
      cases hskip

/-- The search binds a supported Tic from the list. -/
theorem ending_bind {serialNo devSerial serial : String} {k i : Nat} {devs : List UsbDevice}
    (h : bound (ending serialNo devSerial k devs) = some (i, serial)) :
    ∃ j d desc, i = k + j ∧ devs[j]? = some d ∧ d.descriptor = .ok desc ∧ Supported desc := by
  induction devs generalizing k with
  | nil => cases h
  | cons d devs ih =>
    have hlater : bound (ending serialNo devSerial (k + 1) devs) = some (i, serial) →
        ∃ j d' desc, i = k + j ∧ (d :: devs)[j]? = some d' ∧ d'.descriptor = .ok desc ∧ Supported desc := by
      intro h
      obtain ⟨j, d', desc, hi, hd', hdesc⟩ := ih h
      exact ⟨j + 1, d', desc, by omega, hd', hdesc⟩
    rw [ending] at h
    cases hv : d.verdict serialNo devSerial with
    | skip =>
      rw [hv] at h
      exact hlater h
    | reject =>
      rw [hv] at h
      exact hlater h
    | block e =>
      rw [hv] at h
      cases h
    | bind serial' =>
      rw [hv] at h
      simp only [bound, Option.some.injEq, Prod.mk.injEq] at h
      obtain ⟨desc, hdesc, hsup⟩ := verdict_bind hv
      exact ⟨0, d, desc, h.1.symm, rfl, hdesc, hsup⟩

theorem connect_supported {t t' : Tic (Session σ)} {devs : List UsbDevice} {serialNo devSerial : String} {k : Nat}
    {d : UsbDevice} {desc : DeviceDescriptor} (h : Idle t) (hconn : connect (.ok devs) serialNo devSerial t = some t')
    (hhandle : t'.io.handle = some k) (hd : devs[k]? = some d) (hdesc : d.descriptor = .ok desc) : Supported desc := by
  rcases connect_cases hconn with ⟨hctx, rfl⟩ | rfl | ⟨-, devs', hlist, hc⟩
  · rw [h.handle hctx] at hhandle
    cases hhandle
  · cases hhandle
  · rw [hc.handle] at hhandle
    obtain ⟨⟨i, serial⟩, hbound, hi⟩ := Option.map_eq_some_iff.mp hhandle
    obtain ⟨j, d', desc', hj, hd', hdesc', hsup⟩ := ending_bind hbound
    have hik : i = k := hi
    obtain rfl : j = k := by omega
    rw [← Except.ok.inj hlist, hd, Option.some.injEq] at hd'
    rw [← hd', hdesc, Except.ok.injEq] at hdesc'
    rwa [hdesc']

end TicUsb

/-! ## The conversions -/

/-- A conversion agrees with units of 32 mA where its number does. -/
theorem units32_iff (code : UInt8) {m : Nat} (hm : m < 2 ^ 16) (h : code.toNat * 32 = m ↔ code.toNat = 0) :
    UInt16.ofNat (code.toNat * 32) = UInt16.ofNat m ↔ code = 0 := by
  have hlt := code.toNat_lt
  rw [← UInt8.toNat_inj, ← UInt16.toNat_inj, UInt16.toNat_ofNat', UInt16.toNat_ofNat', Nat.mod_eq_of_lt (by omega),
    Nat.mod_eq_of_lt hm]
  exact h

theorem currentOfCode_t249 (code : UInt8) : currentOfCode .unknown code = currentOfCode .t249 code ↔ code = 0 := by
  have hlt := code.toNat_lt
  exact units32_iff code (m := code.toNat * 40) (by omega) (by omega)

theorem currentOfCode_36v4 (code : UInt8) : currentOfCode .unknown code = currentOfCode .tic36v4 code ↔ code = 0 := by
  have hlt := code.toNat_lt
  exact units32_iff code (m := (55000 * code.toNat + 384) / 768) (by omega) (by omega)

theorem currentOfCode_t500 (code : UInt8) : currentOfCode .unknown code = currentOfCode .t500 code ↔ code = 0 := by
  -- no entry of the table but the first is 32 times its place
  have htable : ∀ n < 33, UInt16.ofNat (n * 32) = TicBase.tic03aCurrentTable.getD n 0 → n = 0 := by decide
  show UInt16.ofNat (code.toNat * 32) = TicBase.tic03aCurrentTable.getD (if 32 < code then 32 else code).toNat 0 ↔
    code = 0
  by_cases hlarge : 32 < code
  · have hcode : 32 < code.toNat := UInt8.lt_iff_toNat_lt.mp hlarge
    rw [if_pos hlarge]
    exact units32_iff code (m := 3093) (by decide) (by omega)
  · have hcode : ¬ 32 < code.toNat := fun h => hlarge (UInt8.lt_iff_toNat_lt.mpr h)
    rw [if_neg hlarge]
    apply Iff.intro
    · intro heq
      exact UInt8.toNat_inj.mp (htable code.toNat (by omega) heq)
    · intro hzero
      rw [hzero]
      rfl

/-- The unknown product is taken for a board in units of 32 mA. -/
theorem currentOfCode_iff {desc : DeviceDescriptor} (hsup : TicUsb.Supported desc) (code : UInt8) :
    currentOfCode .unknown code = currentOfCode (productOf desc.idProduct) code ↔
      InUnits32 desc.idProduct ∨ code = 0 := by
  have hunits : ∀ {id : UInt16}, InUnits32 id → (currentOfCode .unknown code = currentOfCode (productOf id) code) := by
    rintro id (rfl | rfl | rfl) <;> rfl
  have hother : ∀ {id : UInt16}, ¬ InUnits32 id →
      (currentOfCode .unknown code = currentOfCode (productOf id) code ↔ code = 0) →
      (currentOfCode .unknown code = currentOfCode (productOf id) code ↔ InUnits32 id ∨ code = 0) := by
    intro id hnot h
    rw [h, or_iff_right hnot]
  rcases hsup.2 with h | h | h | h | h | h <;> rw [h]
  · exact iff_of_true (hunits (.inl rfl)) (.inl (.inl rfl))
  · exact iff_of_true (hunits (.inr (.inr rfl))) (.inl (.inr (.inr rfl)))
  · exact hother (by unfold InUnits32; decide) (currentOfCode_t500 code)
  · exact iff_of_true (hunits (.inr (.inl rfl))) (.inl (.inr (.inl rfl)))
  · exact hother (by unfold InUnits32; decide) (currentOfCode_t249 code)
  · exact hother (by unfold InUnits32; decide) (currentOfCode_36v4 code)

/-! ## The limit delivered -/

theorem toInt_ofNat_toNat (x : UInt16) : (Int32.ofNat x.toNat).toInt = x.toNat := by
  have hlt := x.toNat_lt
  exact Int32.toInt_ofNat_of_lt (by omega)

/-- **The board's own current limit.** For every object that was connected and used
    in any way before, every list and required serial number with which `connect`
    binds a device, and every code the controller then returns. -/
theorem current_limit_iff {t t' : Tic (TicUsb.Session (List TicOp))} {devs : List UsbDevice}
    {serialNo devSerial : String} {k : Nat} {d : UsbDevice} {desc : DeviceDescriptor} (hreach : TicUsb.Reached t)
    (hconn : TicUsb.connect (.ok devs) serialNo devSerial t = some t') (hhandle : t'.io.handle = some k)
    (hd : devs[k]? = some d) (hdesc : d.descriptor = .ok desc) (fw : Firmware) (u : Uninit) (msg : String) :
    DeliversLimit fw desc.idProduct u msg t' ↔ InUnits32 desc.idProduct ∨ fw.limitCode t'.io.usb = 0 := by
  have hsup := TicUsb.connect_supported hreach.idle hconn hhandle hd hdesc
  have hproduct := (hreach.connect hconn).idle.product
  have hbus : OnBus t'.io.usb ⟨t'.lastError, t'.product, t'.io.toTicUsb⟩ := rfl
  obtain ⟨i, hget, -⟩ := (usb_serves fw).getVariables (i := ⟨_, msg⟩) hbus u
  have hlimit : (fw.variables t'.product t'.io.usb).currentLimit =
      Int32.ofNat (currentOfCode t'.product (fw.limitCode t'.io.usb)).toNat := rfl
  rw [← currentOfCode_iff hsup]
  apply Iff.intro
  · intro ⟨vars, i', hvars, hcur⟩
    rw [hget] at hvars
    simp only [Option.some.injEq, Prod.mk.injEq] at hvars
    rw [← hvars.1, hlimit, hproduct] at hcur
    -- the limits are equal as `int`, so they are as `uint16_t`
    have hint := congrArg Int32.toInt hcur
    rw [toInt_ofNat_toNat, toInt_ofNat_toNat] at hint
    exact UInt16.toNat_inj.mp (Int.ofNat_inj.mp hint)
  · intro heq
    refine ⟨_, i, hget, ?_⟩
    rw [hlimit, hproduct, heq]

theorem current_limit_t825 :
    ∃ t', TicUsb.connect (.ok [.t825]) "" "" (TicUsb.construct (.ok ()) []) = some t' ∧
      DeliversLimit (fun _ _ k => UInt8.ofNat k) ticProductIdT825 (fun _ _ => 0x55) "" t' := by
  obtain ⟨t', hconn, hhandle⟩ :
      ∃ t', TicUsb.connect (.ok [.t825]) "" "" (TicUsb.construct (.ok ()) []) = some t' ∧ t'.io.handle = some 0 :=
    ⟨_, rfl, rfl⟩
  have h := current_limit_iff (.construct (.ok ()) []) hconn hhandle (d := .t825) rfl rfl
    (fun _ _ k => UInt8.ofNat k) (fun _ _ => 0x55) ""
  exact ⟨t', hconn, h.mpr (.inl (.inl rfl))⟩

def UsbDevice.t249 : UsbDevice where
  descriptor := .ok ⟨ticVendorId, ticProductIdT249, 3⟩
  opens := .ok ()
  serial := .ok "00221123"

/-- A T249 set to 400 mA, reported with 320. -/
theorem t249_misreported :
    ∃ t', TicUsb.connect (.ok [.t249]) "" "" (TicUsb.construct (.ok ()) []) = some t' ∧ t'.io.handle = some 0 ∧
      ¬ DeliversLimit (fun _ _ _ => 10) ticProductIdT249 (fun _ _ => 0x55) "" t' := by
  refine ⟨_, rfl, rfl, ?_⟩
  intro ⟨vars, i, hvars, hcur⟩
  have hcurrent := congrArg (fun out => out.map fun out => out.1.map TicVariables.currentLimit) hvars
  have h320 : some (some (320 : Int32)) = some (some vars.currentLimit) := hcurrent
  simp only [Option.some.injEq] at h320
  rw [← h320] at hcur
  exact absurd hcur (by decide)

end TicFocuserNG
