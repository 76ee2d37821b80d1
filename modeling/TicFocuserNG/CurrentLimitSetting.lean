import Mathlib.Order.Bounds.Defs
import TicFocuserNG.Transports

/- Setting the current limit: `TicBase::setCurrentLimit`.

   A limit in mA becomes the code of a current the product can be set to, which the
   transports carry in a byte or, over `TicSerial`, in seven bits.

     1. `limit_set_iff`: the code that the Tic is asked for is the greatest whose current
        is not above the limit, exactly when the limit is within reach of the codes the
        transport carries; past it the code wraps.
        Even then it stands for no more than was asked for.
     2. `limit_set_again`: a limit that was read is set again as it was. -/
namespace TicFocuserNG

namespace TicBase

/-! ## The code of a limit -/

/-- The loop over the table of the T500, from the `i`-th entry on. -/
def tableCode (limit : UInt16) : (i : Nat) → List UInt16 → (code : UInt8) → UInt8
  | _, [], code => code
  | i, current :: table, code => if current ≤ limit then tableCode limit (i + 1) table (UInt8.ofNat i) else code

/-- The branch of the 36v4. The computation is one of 32 bits, and within them. -/
def code36v4 (limit : UInt16) : UInt8 :=
  if limit < 72 then 0
  else if 9095 ≤ limit then 127
  else
    let code := UInt8.ofNat ((limit.toNat * 768 - 55000 / 2) / 55000)
    if code < 127 ∧ (55000 * (code.toNat + 1) + 384) / 768 ≤ limit.toNat then code + 1 else code

/-- The code that `setCurrentLimit` hands to `commandW7`. -/
def codeOfCurrent (product : TicProduct) (limit : UInt16) : UInt8 :=
  match product with
  | .t500 => tableCode limit 0 tic03aCurrentTable 0
  | .t249 => UInt8.ofNat (limit.toNat / 40)
  | .tic36v4 => code36v4 limit
  | _ => UInt8.ofNat (limit.toNat / 32)

def setCurrentLimit {τ : Type} (T : TicBase τ) (limit : UInt16) (t : Tic τ) : Tic τ :=
  T.commandW7 .setCurrentLimit (codeOfCurrent t.product limit) t

/-- How many codes a product has, on a transport that carries `n`. -/
def codes (n : Nat) : TicProduct → Nat
  | .t500 => 33
  | .tic36v4 => 128
  | _ => n

/-- `code` is the greatest whose current is not above the limit. -/
def Sets (n : Nat) (product : TicProduct) (limit : UInt16) (code : UInt8) : Prop :=
  IsGreatest {k : UInt8 | k.toNat < codes n product ∧ currentOfCode product k ≤ limit} code

/-- The current for a code, with no bound on the code. -/
def current : TicProduct → Nat → Nat
  | .t500, k => (tic03aCurrentTable.getD (min k 32) 0).toNat
  | .t249, k => k * 40
  | .tic36v4, k => (55000 * k + 384) / 768
  | _, k => k * 32

theorem toNat_currentOfCode (product : TicProduct) (k : UInt8) :
    (currentOfCode product k).toNat = current product k.toNat := by
  have hk := k.toNat_lt
  cases product with
  | t500 =>
    have hcap : (if 32 < k then 32 else k).toNat = min k.toNat 32 := by
      by_cases h : 32 < k
      · have h' : 32 < k.toNat := UInt8.lt_iff_toNat_lt.mp h
        rw [if_pos h, Nat.min_eq_right (Nat.le_of_lt h')]
        rfl
      · have h' : ¬ 32 < k.toNat := fun hlt => h (UInt8.lt_iff_toNat_lt.mpr hlt)
        rw [if_neg h, Nat.min_eq_left (by omega)]
    show (tic03aCurrentTable.getD (if 32 < k then 32 else k).toNat 0).toNat = _
    rw [hcap]
    rfl
  | t249 =>
    show (UInt16.ofNat (k.toNat * 40)).toNat = k.toNat * 40
    rw [UInt16.toNat_ofNat', Nat.mod_eq_of_lt (by omega)]
  | tic36v4 =>
    show (UInt16.ofNat ((55000 * k.toNat + 384) / 768)).toNat = (55000 * k.toNat + 384) / 768
    rw [UInt16.toNat_ofNat', Nat.mod_eq_of_lt (by omega)]
  | _ =>
    show (UInt16.ofNat (k.toNat * 32)).toNat = k.toNat * 32
    rw [UInt16.toNat_ofNat', Nat.mod_eq_of_lt (by omega)]

/-! ## The code that fits -/

/-- In a list in order, what is not above `x` comes first. -/
theorem lt_length_takeWhile {xs : List Nat} (hsorted : xs.Pairwise (· ≤ ·)) (x : Nat) {k : Nat} (hk : k < xs.length) :
    k < (xs.takeWhile (· ≤ x)).length ↔ xs[k] ≤ x := by
  induction xs generalizing k with
  | nil => exact absurd hk (Nat.not_lt_zero k)
  | cons y xs ih =>
    obtain ⟨hfirst, hrest⟩ := List.pairwise_cons.mp hsorted
    by_cases hy : y ≤ x
    · rw [List.takeWhile_cons_of_pos (by simpa using hy), List.length_cons]
      cases k with
      | zero => exact iff_of_true (Nat.succ_pos _) hy
      | succ k =>
        rw [Nat.add_lt_add_iff_right, List.getElem_cons_succ]
        exact ih hrest (Nat.lt_of_succ_lt_succ hk)
    · rw [List.takeWhile_cons_of_neg (by simpa using hy)]
      refine iff_of_false (Nat.not_lt_zero k) ?_
      cases k with
      | zero => exact hy
      | succ k =>
        rw [List.getElem_cons_succ]
        intro hle
        exact hy (Nat.le_trans (hfirst _ (List.getElem_mem _)) hle)

def tableCurrents : List Nat := tic03aCurrentTable.map UInt16.toNat

theorem tableCode_eq (limit : UInt16) (i : Nat) (table : List UInt16) (code : UInt8) :
    tableCode limit i table code =
      if ((table.map UInt16.toNat).takeWhile (· ≤ limit.toNat)).length = 0 then code
      else UInt8.ofNat (i + ((table.map UInt16.toNat).takeWhile (· ≤ limit.toNat)).length - 1) := by
  induction table generalizing i code with
  | nil => rfl
  | cons current table ih =>
    rw [tableCode, List.map_cons]
    by_cases h : current ≤ limit
    · have h' : current.toNat ≤ limit.toNat := UInt16.le_iff_toNat_le.mp h
      rw [if_pos h, ih, List.takeWhile_cons_of_pos (by simpa using h'), List.length_cons]
      split
      · next hzero =>
        rw [hzero]
        rfl
      · rw [if_neg (by omega)]
        congr 1
        omega
    · have h' : ¬ current.toNat ≤ limit.toNat := fun hle => h (UInt16.le_iff_toNat_le.mpr hle)
      rw [if_neg h, List.takeWhile_cons_of_neg (by simpa using h')]
      rfl

/-- The greatest code that fits a limit, with no bound on the code but that of a
    table. -/
def level : TicProduct → Nat → Nat
  | .t500, limit => (tableCurrents.takeWhile (· ≤ limit)).length - 1
  | .t249, limit => limit / 40
  | .tic36v4, limit => (768 * limit + 383) / 55000
  | _, limit => limit / 32

theorem length_fitting (limit : Nat) :
    0 < (tableCurrents.takeWhile (· ≤ limit)).length ∧ (tableCurrents.takeWhile (· ≤ limit)).length ≤ 33 := by
  refine ⟨?_, (List.takeWhile_prefix _).length_le⟩
  rw [lt_length_takeWhile (by decide) limit (by decide)]
  exact Nat.zero_le limit

theorem current_le_iff (product : TicProduct) (limit : Nat) {k : Nat} (hk : k < codes 256 product) :
    current product k ≤ limit ↔ k ≤ level product limit := by
  cases product with
  | t500 =>
    have hk' : k < tableCurrents.length := hk
    have hentry : current .t500 k = tableCurrents[k] := by
      have hcap : min k 32 = k := Nat.min_eq_left (Nat.le_of_lt_succ hk)
      rw [current, hcap, List.getD_eq_getElem?_getD, List.getElem?_eq_getElem hk]
      exact (List.getElem_map _).symm
    have hsome := (length_fitting limit).1
    rw [hentry, ← lt_length_takeWhile (by decide) limit hk', level]
    omega
  | t249 => exact (Nat.le_div_iff_mul_le (by decide)).symm
  | tic36v4 =>
    rw [current, level]
    omega
  | _ => exact (Nat.le_div_iff_mul_le (by decide)).symm

theorem toNat_code36v4 (limit : UInt16) : (code36v4 limit).toNat = min (level .tic36v4 limit.toNat) 127 := by
  have hlimit := limit.toNat_lt
  simp only [code36v4, level]
  by_cases hlow : limit < 72
  · have hlow' : limit.toNat < 72 := UInt16.lt_iff_toNat_lt.mp hlow
    have hzero : (0 : UInt8).toNat = 0 := rfl
    rw [if_pos hlow, hzero]
    omega
  · have hlow' : ¬ limit.toNat < 72 := fun h => hlow (UInt16.lt_iff_toNat_lt.mpr h)
    rw [if_neg hlow]
    by_cases hhigh : 9095 ≤ limit
    · have hhigh' : 9095 ≤ limit.toNat := UInt16.le_iff_toNat_le.mp hhigh
      have hlast : (127 : UInt8).toNat = 127 := rfl
      rw [if_pos hhigh, hlast]
      omega
    · have hhigh' : ¬ 9095 ≤ limit.toNat := fun h => hhigh (UInt16.le_iff_toNat_le.mpr h)
      rw [if_neg hhigh]
      -- the division falls short of the code by one at most
      have hfits : (limit.toNat * 768 - 55000 / 2) / 55000 < 127 := by omega
      generalize hq : (limit.toNat * 768 - 55000 / 2) / 55000 = q at hfits ⊢
      have hcode : (UInt8.ofNat q).toNat = q := by rw [UInt8.toNat_ofNat', Nat.mod_eq_of_lt (by omega)]
      have hlt : UInt8.ofNat q < 127 := UInt8.lt_iff_toNat_lt.mpr (by rw [hcode]; exact hfits)
      rw [hcode]
      by_cases hnext : (55000 * (q + 1) + 384) / 768 ≤ limit.toNat
      · have hone : (1 : UInt8).toNat = 1 := rfl
        rw [if_pos ⟨hlt, hnext⟩, UInt8.toNat_add, hcode, hone, Nat.mod_eq_of_lt (by omega)]
        omega
      · rw [if_neg fun h => hnext h.2, hcode]
        omega

/-- The current is the code in a unit of the product, for any code. -/
def InUnits : TicProduct → Prop
  | .t500 => False
  | .tic36v4 => False
  | _ => True

theorem codes_inUnits {product : TicProduct} (h : InUnits product) (n : Nat) : codes n product = n := by
  cases product with
  | t500 => exact h.elim
  | tic36v4 => exact h.elim
  | _ => rfl

/-- The code is the level, but modulo 256 for a product with a unit. -/
theorem toNat_codeOfCurrent (product : TicProduct) (limit : UInt16) :
    ¬ InUnits product ∧ (codeOfCurrent product limit).toNat = min (level product limit.toNat) (codes 256 product - 1) ∨
      InUnits product ∧ (codeOfCurrent product limit).toNat = level product limit.toNat % 256 := by
  cases product with
  | t500 =>
    refine .inl ⟨id, ?_⟩
    obtain ⟨hsome, hbound⟩ := length_fitting limit.toNat
    have hlast : codes 256 .t500 - 1 = 32 := rfl
    rw [codeOfCurrent, tableCode_eq, level, hlast]
    unfold tableCurrents at hsome hbound ⊢
    rw [if_neg (by omega), UInt8.toNat_ofNat', Nat.mod_eq_of_lt (by omega)]
    omega
  | tic36v4 => exact .inl ⟨id, toNat_code36v4 limit⟩
  | _ => exact .inr ⟨trivial, UInt8.toNat_ofNat' ..⟩

/-- The greatest code is the level, or the last code. -/
theorem sets_iff {n : Nat} (hn : n ≤ 256) (hpos : 0 < n) (product : TicProduct) (limit : UInt16) (c : UInt8) :
    Sets n product limit c ↔ c.toNat = min (level product limit.toNat) (codes n product - 1) := by
  have hcodes : 0 < codes n product ∧ codes n product ≤ codes 256 product ∧ codes 256 product ≤ 256 := by
    cases product <;> simp only [codes] <;> omega
  have hfits : ∀ k : UInt8, k.toNat < codes n product ∧ currentOfCode product k ≤ limit ↔
      k.toNat ≤ min (level product limit.toNat) (codes n product - 1) := by
    intro k
    rw [UInt16.le_iff_toNat_le, toNat_currentOfCode]
    apply Iff.intro
    · intro h
      have hle := (current_le_iff product limit.toNat (Nat.lt_of_lt_of_le h.1 hcodes.2.1)).mp h.2
      omega
    · intro h
      have hlt : k.toNat < codes n product := by omega
      exact ⟨hlt, (current_le_iff product limit.toNat (Nat.lt_of_lt_of_le hlt hcodes.2.1)).mpr (by omega)⟩
  apply Iff.intro
  · intro h
    have hle := (hfits c).mp h.1
    have htop : (UInt8.ofNat (min (level product limit.toNat) (codes n product - 1))).toNat =
        min (level product limit.toNat) (codes n product - 1) := by
      rw [UInt8.toNat_ofNat', Nat.mod_eq_of_lt (by omega)]
    have hge := UInt8.le_iff_toNat_le.mp (h.2 ((hfits _).mpr (Nat.le_of_eq htop)))
    omega
  · intro h
    refine ⟨(hfits c).mpr (Nat.le_of_eq h), ?_⟩
    intro k hk
    rw [UInt8.le_iff_toNat_le, h]
    exact (hfits k).mp hk

/-- The code of the limit is one that the transport carries; or what the transport
    makes of it is the last of these. -/
def Reaches (n : Nat) (product : TicProduct) (limit : UInt16) : Prop :=
  InUnits product → level product limit.toNat < n ∨ level product limit.toNat % n = n - 1

/-- What arrives of a code over a transport that carries it modulo `n`. -/
theorem arrives_iff {n : Nat} (hn : n ∣ 256) (hpos : 127 < n) (product : TicProduct) (limit : UInt16) {c : UInt8}
    (hc : c.toNat = (codeOfCurrent product limit).toNat % n) :
    (Sets n product limit c ↔ Reaches n product limit) ∧ currentOfCode product c ≤ limit := by
  have hle : n ≤ 256 := Nat.le_of_dvd (by omega) hn
  rw [sets_iff hle (by omega), UInt16.le_iff_toNat_le, toNat_currentOfCode]
  rcases toNat_codeOfCurrent product limit with ⟨hnot, hcode⟩ | ⟨hin, hcode⟩
  · have hcodes : codes n product = codes 256 product ∧ 0 < codes 256 product ∧ codes 256 product ≤ 128 := by
      cases product with
      | t500 => exact ⟨rfl, by decide, by decide⟩
      | tic36v4 => exact ⟨rfl, by decide, by decide⟩
      | _ => exact absurd trivial hnot
    rw [hcode, Nat.mod_eq_of_lt (by omega)] at hc
    refine ⟨iff_of_true (by rw [hc, hcodes.1]) (fun hin => absurd hin hnot), ?_⟩
    exact (current_le_iff product limit.toNat (by omega)).mpr (by omega)
  · have hcodes := codes_inUnits hin
    rw [hcode, Nat.mod_mod_of_dvd _ hn] at hc
    have hbelow : c.toNat ≤ level product limit.toNat := by
      rw [hc]
      exact Nat.mod_le ..
    refine ⟨?_, (current_le_iff product limit.toNat (by rw [hcodes]; exact c.toNat_lt)).mpr hbelow⟩
    rw [hcodes, hc, Reaches]
    by_cases hlt : level product limit.toNat < n
    · rw [Nat.mod_eq_of_lt hlt]
      exact iff_of_true (by omega) (fun _ => .inl hlt)
    · rw [Nat.min_eq_right (by omega)]
      exact ⟨fun h _ => .inr h, fun h => (h hin).resolve_left hlt⟩

/-- With this product, `setCurrentLimit` asks the Tic for the code `c` next. -/
def Asks {τ : Type} (T : TicBase τ) (I : List TicOp → Tic τ → Prop) (product : TicProduct) (limit : UInt16)
    (c : UInt8) : Prop :=
  ∀ ops t, I ops t → t.product = product → I (ops ++ [.w7 .setCurrentLimit c.toNat]) (T.setCurrentLimit limit t)

theorem usb_asks (fw : Firmware) (product : TicProduct) (limit : UInt16) :
    Asks (TicUsb.base (usbTic fw)) OnBus product limit (codeOfCurrent product limit) := by
  intro ops t h hproduct
  subst hproduct
  obtain ⟨t', hcall, -, -, hI⟩ := usb_carries fw (.w7 .setCurrentLimit (codeOfCurrent t.product limit)) [] rfl h
  obtain rfl : (TicUsb.base (usbTic fw)).setCurrentLimit limit t = t' := congrArg Prod.snd (Option.some.inj hcall)
  have hbyte : (codeOfCurrent t.product limit).toNat % Wire.usb.val = (codeOfCurrent t.product limit).toNat :=
    Nat.mod_eq_of_lt (UInt8.toNat_lt _)
  simp only [Call.op, hbyte] at hI
  exact hI

theorem serial_asks (fw : Firmware) (found : Nat → Nat) (product : TicProduct) (limit : UInt16) :
    Asks (TicSerial.base (StreamBT.stream (serialTic fw found)) 255) OnLine product limit
      (codeOfCurrent product limit &&& 0x7F) := by
  intro ops t h hproduct
  subst hproduct
  obtain ⟨t', hcall, -, -, hI⟩ :=
    h.call fw found (.w7 .setCurrentLimit (codeOfCurrent t.product limit)) (fun _ _ _ _ => nofun) []
  obtain rfl : (TicSerial.base (StreamBT.stream (serialTic fw found)) 255).setCurrentLimit limit t = t' :=
    congrArg Prod.snd (Option.some.inj hcall)
  rw [toNat_low7]
  exact hI

/-- **The greatest limit not above what was asked for** is set, over `TicUsb`, which
    carries the byte of the code, and over `TicSerial`, which carries seven bits of it,
    exactly when the limit is within their reach; and never more than was asked for. -/
theorem limit_set_iff (fw : Firmware) (found : Nat → Nat) (product : TicProduct) (limit : UInt16) :
    Asks (TicUsb.base (usbTic fw)) OnBus product limit (codeOfCurrent product limit) ∧
      Asks (TicSerial.base (StreamBT.stream (serialTic fw found)) 255) OnLine product limit
        (codeOfCurrent product limit &&& 0x7F) ∧
      (Sets 256 product limit (codeOfCurrent product limit) ↔ Reaches 256 product limit) ∧
      (Sets 128 product limit (codeOfCurrent product limit &&& 0x7F) ↔ Reaches 128 product limit) ∧
      currentOfCode product (codeOfCurrent product limit) ≤ limit ∧
      currentOfCode product (codeOfCurrent product limit &&& 0x7F) ≤ limit := by
  have husb := arrives_iff (n := 256) (by decide) (by decide) product limit (c := codeOfCurrent product limit)
    (Nat.mod_eq_of_lt (UInt8.toNat_lt _)).symm
  have hserial := arrives_iff (n := 128) (by decide) (by decide) product limit (toNat_low7 _)
  exact ⟨usb_asks fw product limit, serial_asks fw found product limit, husb.1, hserial.1, husb.2, hserial.2⟩

/-- 3 A for a T825 is within reach of both; 5 A is not over serial, where 896 mA are
    set instead. -/
example : codeOfCurrent .t825 3000 &&& 0x7F = 93 ∧ currentOfCode .t825 (codeOfCurrent .t825 5000 &&& 0x7F) = 896 := by
  decide

theorem level_current (product : TicProduct) {k : Nat} (hk : k < codes 256 product) :
    level product (current product k) = k := by
  cases product with
  | t500 =>
    have htable : ∀ k < 33, level .t500 (current .t500 k) = k := by decide
    exact htable k hk
  | t249 => exact Nat.mul_div_cancel k (by decide)
  | tic36v4 =>
    have hk' : k < 128 := hk
    rw [current, level]
    omega
  | _ => exact Nat.mul_div_cancel k (by decide)

theorem arrives_again {n : Nat} (hn : n ∣ 256) (hpos : 127 < n) {product : TicProduct} {k c : UInt8}
    (hk : k.toNat < codes n product)
    (hc : c.toNat = (codeOfCurrent product (currentOfCode product k)).toNat % n) : c = k := by
  have hle : n ≤ 256 := Nat.le_of_dvd (by omega) hn
  have hall : codes n product ≤ codes 256 product := by cases product <;> simp only [codes] <;> omega
  have hlevel : level product (currentOfCode product k).toNat = k.toNat := by
    rw [toNat_currentOfCode]
    exact level_current product (Nat.lt_of_lt_of_le hk hall)
  have hreach : Reaches n product (currentOfCode product k) := by
    intro hin
    left
    have hcodes := codes_inUnits hin n
    rw [hlevel]
    omega
  have hset := (arrives_iff hn hpos product _ hc).1.mpr hreach
  rw [sets_iff hle (by omega), hlevel] at hset
  apply UInt8.toNat_inj.mp
  omega

/-- **What was read is set again as it was**, over either transport, for every code of
    the product that it carries. -/
theorem limit_set_again (fw : Firmware) (found : Nat → Nat) (product : TicProduct) (k : UInt8) :
    (k.toNat < codes 256 product → codeOfCurrent product (currentOfCode product k) = k ∧
      Asks (TicUsb.base (usbTic fw)) OnBus product (currentOfCode product k) k) ∧
      (k.toNat < codes 128 product → codeOfCurrent product (currentOfCode product k) &&& 0x7F = k ∧
        Asks (TicSerial.base (StreamBT.stream (serialTic fw found)) 255) OnLine product
          (currentOfCode product k) k) := by
  apply And.intro
  · intro hk
    have hagain : codeOfCurrent product (currentOfCode product k) = k :=
      arrives_again (n := 256) (by decide) (by decide) hk (Nat.mod_eq_of_lt (UInt8.toNat_lt _)).symm
    have hasks := usb_asks fw product (currentOfCode product k)
    rw [hagain] at hasks
    exact ⟨hagain, hasks⟩
  · intro hk
    have hagain : codeOfCurrent product (currentOfCode product k) &&& 0x7F = k :=
      arrives_again (n := 128) (by decide) (by decide) hk (toNat_low7 _)
    have hasks := serial_asks fw found product (currentOfCode product k)
    rw [hagain] at hasks
    exact ⟨hagain, hasks⟩

/-- 2976 mA, read from a T825. -/
theorem limit_set_again_t825 :
    (codeOfCurrent .t825 (currentOfCode .t825 93) = 93 ∧
        Asks (TicUsb.base (usbTic fun _ _ _ => 0)) OnBus .t825 (currentOfCode .t825 93) 93) ∧
      codeOfCurrent .t825 (currentOfCode .t825 93) &&& 0x7F = 93 ∧
        Asks (TicSerial.base (StreamBT.stream (serialTic (fun _ _ _ => 0) fun _ => 1)) 255) OnLine .t825
          (currentOfCode .t825 93) 93 :=
  ⟨(limit_set_again _ (fun _ => 1) .t825 93).1 (by decide), (limit_set_again _ _ .t825 93).2 (by decide)⟩

end TicBase

end TicFocuserNG
