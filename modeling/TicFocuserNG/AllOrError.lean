import TicFocuserNG.ReadLoopsEnd
import TicFocuserNG.Transports

/- `getVariables`, when some of its register reads fail.

   A register read succeeds (`Succeed`) if it ends without an error and with the bytes
   that were brought for it. Each of the eight reads overwrites the last error, which is
   looked at after the first two only: `all_or_error_iff`, over `TicUsb` and over
   `TicSerial` with both streams.

     1. Over `TicUsb` and `StreamBT` a read tells whether it was brought all its bytes
        (`Tells`), so that the poll succeeds where the first two were, whatever becomes
        of the others. The buffer of a read that failed holds what was there before over
        `TicUsb`, and zeros over `TicSerial`.
     2. Over `StreamSerial` the count of a read is twice what its reads brought, less two
        for each that failed (`Tallied`). A register of one byte is never read without an
        error, and one of four is where two bytes more came than reads failed. -/
namespace TicFocuserNG

open TiclibInterface (variablesOf)
open Posix.replaying (net idle)

/-- The registers `getVariables` reads, with their sizes, in order. -/
def registers : List (UInt8 × VarOffset) :=
  [(4, .targetPosition), (4, .currentPosition), (2, .vinVoltage), (1, .currentLimit), (1, .miscFlags1), (1, .stepMode),
    (1, .operationState), (2, .errorStatus)]

section
variable {τ : Type} (T : TicBase τ) (u : Uninit) (own : τ → τ → List UInt8)

/-- The reads of the registers, one after the other, succeed: each ends without an error,
    and its buffer holds the bytes that were brought for it (`own`). `bytes` are these. -/
def Succeed : List (UInt8 × VarOffset) → Tic τ → (bytes : List (List UInt8)) → Prop
  | [], _, bytes => bytes = []
  | (n, offset) :: regs, t, bytes => ∃ buffer t' rest, T.getVar n u offset t = some (buffer, t') ∧
      t'.lastError = 0 ∧ buffer = own t.io t'.io ∧ bytes = buffer :: rest ∧ Succeed regs t' rest

/-- The reads of the registers, one after the other, are brought all their bytes. -/
def Full : List (UInt8 × VarOffset) → Tic τ → Prop
  | [], _ => True
  | (n, offset) :: regs, t => ∃ buffer t', T.getVar n u offset t = some (buffer, t') ∧
      (own t.io t'.io).length = n.toNat ∧ Full regs t'

/-- The variables in the bytes of the eight registers. -/
def decoded (product : TicProduct) (bytes : List (List UInt8)) : TicVariables :=
  let register (k : Nat) := bytes.getD k []
  variablesOf product (register 0) (register 1) (register 2) (register 3) (register 4) (register 5) (register 6)
    (register 7)

/-- A poll from the state `t`: it returns, true for all the reads and only then, and the
    variables then are those in the bytes brought. -/
def AllOrError (t : Tic τ) (out : Option (Option TicVariables × TiclibInterface τ)) : Prop :=
  ∃ vars i, out = some (vars, i) ∧ (vars.isSome = true ↔ ∃ bytes, Succeed T u own registers t bytes) ∧
    ∀ v, vars = some v → ∃ bytes, Succeed T u own registers t bytes ∧ v = decoded t.product bytes

variable {T u own} {n : UInt8} {offset : VarOffset} {t t' : Tic τ} {buffer : List UInt8}
  {regs : List (UInt8 × VarOffset)}

theorem succeed_cons (h : T.getVar n u offset t = some (buffer, t')) {bytes : List (List UInt8)} :
    Succeed T u own ((n, offset) :: regs) t bytes ↔ t'.lastError = 0 ∧ buffer = own t.io t'.io ∧
      ∃ rest, bytes = buffer :: rest ∧ Succeed T u own regs t' rest := by
  apply Iff.intro
  · intro ⟨b, s, rest, hget, herr, hown, hbytes, hrest⟩
    rw [h, Option.some.injEq, Prod.mk.injEq] at hget
    obtain ⟨rfl, rfl⟩ := hget
    exact ⟨herr, hown, rest, hbytes, hrest⟩
  · intro ⟨herr, hown, rest, hbytes, hrest⟩
    exact ⟨buffer, t', rest, h, herr, hown, hbytes, hrest⟩

theorem full_cons (h : T.getVar n u offset t = some (buffer, t')) :
    Full T u own ((n, offset) :: regs) t ↔ (own t.io t'.io).length = n.toNat ∧ Full T u own regs t' := by
  apply Iff.intro
  · intro ⟨b, s, hget, hlen, hrest⟩
    rw [h, Option.some.injEq, Prod.mk.injEq] at hget
    obtain ⟨rfl, rfl⟩ := hget
    exact ⟨hlen, hrest⟩
  · intro ⟨hlen, hrest⟩
    exact ⟨buffer, t', h, hlen, hrest⟩

end

/-! ## Transports that tell -/

/-- A read of a register returns; it reports an error exactly where it was not brought all
    its bytes, and without one its buffer holds these. -/
def Tells {τ : Type} (T : TicBase τ) (own : τ → τ → List UInt8) : Prop :=
  ∀ (n : UInt8) (u : Uninit) (offset : VarOffset) (t : Tic τ), 0 < n.toNat ∧ n.toNat ≤ 4 →
    ∃ buffer t', T.getVar n u offset t = some (buffer, t') ∧ t'.product = t.product ∧
      (t'.lastError = 0 ↔ (own t.io t'.io).length = n.toNat) ∧ (t'.lastError = 0 → buffer = own t.io t'.io)

namespace Tells
variable {τ : Type} {T : TicBase τ} {own : τ → τ → List UInt8} (hT : Tells T own) (u : Uninit)
include hT

theorem succeed_iff {regs : List (UInt8 × VarOffset)} (hregs : ∀ reg ∈ regs, 0 < reg.1.toNat ∧ reg.1.toNat ≤ 4)
    (t : Tic τ) : (∃ bytes, Succeed T u own regs t bytes) ↔ Full T u own regs t := by
  induction regs generalizing t with
  | nil => exact iff_of_true ⟨[], rfl⟩ trivial
  | cons reg regs ih =>
    obtain ⟨n, offset⟩ := reg
    obtain ⟨buffer, t', hget, -, herr, hown⟩ := hT n u offset t (hregs _ List.mem_cons_self)
    have hrest := ih (fun reg hreg => hregs reg (List.mem_cons_of_mem _ hreg)) t'
    simp only [succeed_cons hget, full_cons hget, ← hrest, ← herr]
    apply Iff.intro
    · intro ⟨_, hzero, _, rest, _, hsucceed⟩
      exact ⟨hzero, rest, hsucceed⟩
    · intro ⟨hzero, rest, hsucceed⟩
      exact ⟨buffer :: rest, hzero, hown hzero, rest, rfl, hsucceed⟩

/-- What a poll comes to: it is true where the first two reads are brought all their
    bytes, and the variables are those in the bytes of reads that succeed. -/
theorem getVariables (t : Tic τ) (msg : String) :
    ∃ vars i, TiclibInterface.getVariables T u ⟨t, msg⟩ = some (vars, i) ∧
      (vars.isSome = true ↔ Full T u own (registers.take 2) t) ∧
      ∀ v bytes, vars = some v → Succeed T u own registers t bytes → v = decoded t.product bytes := by
  obtain ⟨b₁, t₁, r₁, p₁, h₁, -⟩ := hT 4 u .targetPosition t (by decide)
  obtain ⟨b₂, t₂, r₂, p₂, h₂, -⟩ := hT 4 u .currentPosition t₁ (by decide)
  obtain ⟨b₃, t₃, r₃, p₃, -, -⟩ := hT 2 u .vinVoltage t₂ (by decide)
  obtain ⟨b₄, t₄, r₄, p₄, -, -⟩ := hT 1 u .currentLimit t₃ (by decide)
  obtain ⟨b₅, t₅, r₅, p₅, -, -⟩ := hT 1 u .miscFlags1 t₄ (by decide)
  obtain ⟨b₆, t₆, r₆, p₆, -, -⟩ := hT 1 u .stepMode t₅ (by decide)
  obtain ⟨b₇, t₇, r₇, p₇, -, -⟩ := hT 1 u .operationState t₆ (by decide)
  obtain ⟨b₈, t₈, r₈, p₈, -, -⟩ := hT 2 u .errorStatus t₇ (by decide)
  have htwo : Full T u own (registers.take 2) t ↔ t₁.lastError = 0 ∧ t₂.lastError = 0 := by
    rw [registers, List.take_succ_cons, full_cons r₁, ← h₁, List.take_succ_cons, full_cons r₂, ← h₂, List.take_zero]
    exact and_congr_right' (and_iff_left trivial)
  rw [htwo]
  -- only the first two last errors are looked at
  by_cases hfirst : t₁.lastError = 0
  · by_cases hsecond : t₂.lastError = 0
    · rw [TiclibInterface.getVariables_ok r₁ hfirst r₂ hsecond r₃ r₄ r₅ r₆ r₇ r₈]
      refine ⟨_, _, rfl, iff_of_true rfl ⟨hfirst, hsecond⟩, ?_⟩
      intro v bytes hv hsucceed
      simp only [registers, succeed_cons r₁, succeed_cons r₂, succeed_cons r₃, succeed_cons r₄, succeed_cons r₅,
        succeed_cons r₆, succeed_cons r₇, succeed_cons r₈] at hsucceed
      obtain ⟨-, -, _, rfl, -, -, _, rfl, -, -, _, rfl, -, -, _, rfl, -, -, _, rfl, -, -, _, rfl, -, -, _, rfl, -, -, _,
        rfl, -⟩ := hsucceed
      have hproduct : t₄.product = t.product := by rw [p₄, p₃, p₂, p₁]
      rw [← Option.some.inj hv, hproduct]
      rfl
    · rw [TiclibInterface.getVariables_current_error r₁ hfirst r₂ hsecond]
      refine ⟨_, _, rfl, iff_of_false (by decide) (fun h => hsecond h.2), ?_⟩
      intro v bytes hv
      cases hv
  · rw [TiclibInterface.getVariables_target_error r₁ hfirst]
    refine ⟨_, _, rfl, iff_of_false (by decide) (fun h => hfirst h.1), ?_⟩
    intro v bytes hv
    cases hv

theorem allOrError_iff (t : Tic τ) (msg : String) :
    AllOrError T u own t (TiclibInterface.getVariables T u ⟨t, msg⟩) ↔
      (Full T u own (registers.take 2) t → Full T u own registers t) := by
  obtain ⟨vars, i, hout, htrue, hvars⟩ := hT.getVariables u t msg
  have hall := hT.succeed_iff u (by decide : ∀ reg ∈ registers, 0 < reg.1.toNat ∧ reg.1.toNat ≤ 4) t
  have hfirst : Full T u own registers t → Full T u own (registers.take 2) t := by
    intro ⟨b₁, t₁, r₁, h₁, b₂, t₂, r₂, h₂, _⟩
    exact ⟨b₁, t₁, r₁, h₁, b₂, t₂, r₂, h₂, trivial⟩
  rw [hout]
  apply Iff.intro
  · intro ⟨vars', i', hsame, hiff, _⟩ htwo
    rw [Option.some.injEq, Prod.mk.injEq] at hsame
    rw [← hsame.1, htrue, hall] at hiff
    exact hiff.mp htwo
  · intro h
    refine ⟨vars, i, rfl, by rw [htrue, hall]; exact ⟨h, hfirst⟩, ?_⟩
    intro v hv
    have htwo : Full T u own (registers.take 2) t := htrue.mp (by rw [hv]; rfl)
    obtain ⟨bytes, hsucceed⟩ := hall.mpr (h htwo)
    exact ⟨bytes, hsucceed, hvars v bytes hv hsucceed⟩

end Tells

/-! ## TicUsb -/

/-- A bus on which the `k`-th transfer fails, or brings the bytes `outs k` as far as
    asked for. The state lists what the transfers brought. -/
def Libusb.replying (outs : Nat → Except LibusbError (List UInt8)) : Libusb (List (List UInt8)) where
  controlTransfer _ _ _ _ _ wLength s :=
    match outs s.length with
    | .error e => ((e.code, ⟨[], length_nil_le _⟩), s ++ [[]])
    | .ok bs =>
      ((Int32.ofNat (bs.take wLength.toNat).length, ⟨bs.take wLength.toNat, List.length_take_le _ _⟩),
        s ++ [bs.take wLength.toNat])

namespace TicUsb

/-- The bytes of the transfers from one state to the other. -/
def own (io io' : TicUsb (List (List UInt8))) : List UInt8 := (io'.usb.drop io.usb.length).flatten

/-- What the `k`-th transfer brings. -/
def bytesOf (outs : Nat → Except LibusbError (List UInt8)) (k : Nat) : List UInt8 := (outs k).toOption.getD []

/-- The `k`-th register read of a poll gets all the bytes it asks for. -/
def Arrives (outs : Nat → Except LibusbError (List UInt8)) (k : Nat) : Prop :=
  ((registers.map Prod.fst).getD k 0).toNat ≤ (bytesOf outs k).length

instance (outs : Nat → Except LibusbError (List UInt8)) (k : Nat) : Decidable (Arrives outs k) :=
  inferInstanceAs (Decidable (_ ≤ _))

theorem narrow_code (e : LibusbError) : 4 < (narrow e.code).toNat := by
  cases e <;> decide

/-- A count that is the size of the register, as a byte. -/
theorem count_iff (bs : List UInt8) (n : UInt8) : UInt8.ofNat (bs.take n.toNat).length = n ↔ n.toNat ≤ bs.length := by
  have hlt := n.toNat_lt
  rw [← UInt8.toNat_inj, UInt8.toNat_ofNat', List.length_take]
  omega

theorem not_neg (x : UInt8) : ¬ x < 0 := by
  rw [UInt8.lt_iff_toNat_lt]
  exact Nat.not_lt_zero _

section
variable {outs : Nat → Except LibusbError (List UInt8)} {t : Tic (TicUsb (List (List UInt8)))} (cmd : TicCommand)
  (offset : UInt8) {n : UInt8} (buffer : List UInt8)

/-- The buffer stays as it was, and the error is that of the count. -/
theorem getSegment_error {e : LibusbError} (hout : outs t.io.usb.length = .error e) (hn : n.toNat ≤ 4) :
    getSegment (.replying outs) cmd offset n buffer t =
      some (poke buffer 0 [], { t with lastError := narrow (-99), io := { t.io with usb := t.io.usb ++ [[]] } }) := by
  have hcode := narrow_code e
  have hne : narrow e.code ≠ n := by
    intro h
    rw [h] at hcode
    omega
  simp only [getSegment, Libusb.replying, hout, not_neg, if_false]
  rw [if_pos hne]

theorem getSegment_bytes {bs : List UInt8} (hout : outs t.io.usb.length = .ok bs) :
    getSegment (.replying outs) cmd offset n buffer t =
      some (poke buffer 0 (bs.take n.toNat), { t with
        lastError := if UInt8.ofNat (bs.take n.toNat).length ≠ n then narrow (-99) else 0
        io := { t.io with usb := t.io.usb ++ [bs.take n.toNat] } }) := by
  have hsmall : (UInt8.ofNat (bs.take n.toNat).length).toNat = (bs.take n.toNat).length := by
    have hlt := n.toNat_lt
    rw [UInt8.toNat_ofNat', List.length_take]
    omega
  have hnarrow : narrow (Int32.ofNat (bs.take n.toNat).length) = UInt8.ofNat (bs.take n.toNat).length := by
    rw [← narrow_ofNat (UInt8.ofNat _), hsmall]
  simp only [getSegment, Libusb.replying, hout, UInt8.toNat_toUInt16, hnarrow, not_neg, if_false]

end

/-- A transfer more. -/
theorem own_concat (io : TicUsb (List (List UInt8))) (bs : List UInt8) :
    own io { io with usb := io.usb ++ [bs] } = bs := by
  rw [own, List.drop_left, List.flatten_singleton]

/-- The read of a register is one transfer. -/
theorem getVar_replying (outs : Nat → Except LibusbError (List UInt8)) {n : UInt8} (hn : 0 < n.toNat ∧ n.toNat ≤ 4)
    (u : Uninit) (offset : VarOffset) (t : Tic (TicUsb (List (List UInt8)))) :
    ∃ buffer lastError, (base (.replying outs)).getVar n u offset t = some (buffer, { t with
        lastError, io := { t.io with usb := t.io.usb ++ [(bytesOf outs t.io.usb.length).take n.toNat] } }) ∧
      (lastError = 0 ↔ n.toNat ≤ (bytesOf outs t.io.usb.length).length) ∧
      (lastError = 0 → buffer = (bytesOf outs t.io.usb.length).take n.toNat) := by
  show ∃ buffer lastError, getSegment (.replying outs) .getVariable offset.code n (u.buffer offset n.toNat) t = _ ∧ _
  rw [bytesOf]
  cases hout : outs t.io.usb.length with
  | error e =>
    have hnone : (Except.error e : Except LibusbError (List UInt8)).toOption.getD [] = [] := rfl
    rw [hnone, List.take_nil, List.length_nil, getSegment_error _ _ _ hout hn.2]
    exact ⟨_, narrow (-99), rfl, iff_of_false (by decide) (by omega), fun h => absurd h (by decide)⟩
  | ok bs =>
    have hbytes : (Except.ok bs : Except LibusbError (List UInt8)).toOption.getD [] = bs := rfl
    rw [hbytes, getSegment_bytes _ _ _ hout]
    by_cases hall : n.toNat ≤ bs.length
    · have hpoke : poke (u.buffer offset n.toNat) 0 (bs.take n.toNat) = bs.take n.toNat := by
        apply poke_zero
        rw [length_buffer, List.length_take, Nat.min_eq_left hall]
      rw [hpoke, if_neg (not_not.mpr ((count_iff bs n).mpr hall))]
      exact ⟨_, 0, rfl, iff_of_true rfl hall, fun _ => rfl⟩
    · rw [if_pos (mt (count_iff bs n).mp hall)]
      exact ⟨_, narrow (-99), rfl, iff_of_false (by decide) hall, fun h => absurd h (by decide)⟩

theorem tells (outs : Nat → Except LibusbError (List UInt8)) : Tells (base (.replying outs)) own := by
  intro n u offset t hn
  obtain ⟨buffer, lastError, hget, herr, hown⟩ := getVar_replying outs hn u offset t
  refine ⟨buffer, _, hget, rfl, ?_, ?_⟩
  · rw [own_concat, List.length_take, herr]
    omega
  · rw [own_concat]
    exact hown

/-- The `k`-th read of a poll is brought what the `k`-th transfer brings. -/
theorem full_iff (outs : Nat → Except LibusbError (List UInt8)) (u : Uninit) {regs : List (UInt8 × VarOffset)}
    (hregs : ∀ reg ∈ regs, 0 < reg.1.toNat ∧ reg.1.toNat ≤ 4) (t : Tic (TicUsb (List (List UInt8)))) :
    Full (base (.replying outs)) u own regs t ↔ ∀ k < regs.length,
      ((regs.map Prod.fst).getD k 0).toNat ≤ (bytesOf outs (t.io.usb.length + k)).length := by
  induction regs generalizing t with
  | nil => exact iff_of_true trivial (fun k hk => absurd hk (Nat.not_lt_zero k))
  | cons reg regs ih =>
    obtain ⟨n, offset⟩ := reg
    obtain ⟨buffer, lastError, hget, -, -⟩ := getVar_replying outs (hregs _ List.mem_cons_self) u offset t
    rw [full_cons hget, own_concat, ih (fun reg hreg => hregs reg (List.mem_cons_of_mem _ hreg))]
    have hfirst : ((bytesOf outs t.io.usb.length).take n.toNat).length = n.toNat ↔
        n.toNat ≤ (bytesOf outs t.io.usb.length).length := by
      rw [List.length_take]
      omega
    have hrest : ∀ k, t.io.usb.length + 1 + k = t.io.usb.length + (k + 1) := fun k => by omega
    simp only [List.length_append, List.length_singleton, hrest]
    rw [hfirst]
    apply Iff.intro
    · intro ⟨h0, h⟩ k hk
      cases k with
      | zero => exact h0
      | succ k => exact h k (Nat.lt_of_succ_lt_succ hk)
    · intro h
      exact ⟨h 0 (Nat.succ_pos _), fun k hk => h (k + 1) (Nat.succ_lt_succ hk)⟩

theorem allOrError_iff (outs : Nat → Except LibusbError (List UInt8)) (handle : Option Nat) (u : Uninit)
    (lastError : UInt8) (product : TicProduct) (msg : String) :
    AllOrError (base (.replying outs)) u own ⟨lastError, product, ⟨handle, []⟩⟩
        (TiclibInterface.getVariables (base (.replying outs)) u ⟨⟨lastError, product, ⟨handle, []⟩⟩, msg⟩) ↔
      (Arrives outs 0 → Arrives outs 1 → ∀ k < 8, Arrives outs k) := by
  rw [(tells outs).allOrError_iff u, full_iff outs u (by decide), full_iff outs u (by decide)]
  simp only [List.length_nil, Nat.zero_add]
  apply Iff.intro
  · intro h h0 h1
    apply h
    intro k hk
    cases k with
    | zero => exact h0
    | succ k =>
      obtain rfl : k = 0 := Nat.lt_one_iff.mp (Nat.lt_of_succ_lt_succ hk)
      exact h1
  · intro h htwo
    exact h (htwo 0 (by decide)) (htwo 1 (by decide))

end TicUsb

/-! ## StreamBT -/

namespace StreamBT
variable {σ : Type} (os : Posix σ)

/-- The bytes of the `::read`s from one state to the other. -/
def own (io io' : StreamBT × List Syscall × σ) : List UInt8 := delivered ((reads io'.2.1).drop (reads io.2.1).length)

/-- Writing reads nothing, the `reconnect`s in between included. -/
theorem reads_writeLoop (byte : UInt8) (tries : Nat) (c : Int) (b : StreamBT) (s : List Syscall × σ) :
    reads (writeLoop os.traced byte tries c b s).2.2.1 = reads s.1 := by
  induction tries generalizing c b s with
  | zero => rfl
  | succ tries ih =>
    have hwrite : reads (os.traced.write b.btSocket byte s).2.1 = reads s.1 := by
      rw [traced_write, reads_append]
      exact List.append_nil _
    rw [writeLoop]
    simp only
    split
    · exact hwrite
    · rw [ih, reads_reconnect, hwrite]

theorem reads_putAll (bytes : List UInt8) (io : StreamBT × List Syscall × σ) :
    reads (TicSerial.putAll (stream os.traced) bytes io).2.1 = reads io.2.1 := by
  induction bytes generalizing io with
  | nil => rfl
  | cons byte bytes ih => exact (ih _).trans (reads_writeLoop os byte 3 0 io.1 io.2)

/-- The read of a register, with the bytes of its `::read`s. -/
theorem tells (deviceNumber : UInt8) : Tells (TicSerial.base (stream os.traced) deviceNumber) own := by
  intro n u offset t hn
  obtain ⟨out, hret⟩ := readBytes_returns os.traced (u.buffer offset n.toNat) n.toNat
    (TicSerial.putAll (stream os.traced)
      (TicSerial.headerBytes deviceNumber .getVariable ++ TicSerial.segmentBytes offset.code n) t.io)
  obtain ⟨numZeros, outs, hreads, hI, -⟩ := readLoop_exact os hret
  rw [reads_putAll] at hreads
  have hget : (TicSerial.base (stream os.traced) deviceNumber).getVar n u offset t =
      TicSerial.getSegment (stream os.traced) deviceNumber .getVariable offset.code n (u.buffer offset n.toNat) t := rfl
  have hread : (stream os.traced).readBytes = readBytes os.traced := rfl
  have hown : own t.io out.2.2 = delivered outs := by
    rw [own, hreads, List.drop_left]
  have hcount : UInt8.ofNat out.1 = n ↔ (delivered outs).length = n.toNat := by
    have hfits := hI.fits
    have hlt := n.toNat_lt
    rw [← hI.count, ← UInt8.toNat_inj, UInt8.toNat_ofNat', Nat.mod_eq_of_lt (by omega)]
  rw [hget, TicSerial.getSegment_eq, mask_length (by omega), hread, hret, Option.map_some]
  by_cases hall : UInt8.ofNat out.1 = n
  · rw [if_neg (not_not.mpr hall)]
    refine ⟨_, _, rfl, rfl, iff_of_true rfl ?_, fun _ => ?_⟩
    · rw [hown]
      exact hcount.mp hall
    · rw [hown, hI.filled]
      apply poke_zero
      rw [length_buffer]
      exact hcount.mp hall
  · rw [if_pos hall]
    have hfifty : (50 : UInt8) ≠ 0 := by decide
    refine ⟨_, _, rfl, rfl, iff_of_false hfifty ?_, fun h => absurd h hfifty⟩
    rw [hown]
    exact mt hcount.mpr hall

end StreamBT

/-! ## StreamSerial -/

namespace StreamSerial

/-- The outcomes of `::read` from the `k`-th on. -/
def later (outs : Nat → Option (List UInt8)) (k : Nat) : Nat → Option (List UInt8) := fun j => outs (k + j)

/-- The loop goes on after `k` reads: no more of them failed than bytes came, less than half
    of `length` bytes more came than reads failed, and the last five were not all empty. -/
def Goes (outs : Nat → Option (List UInt8)) (length k : Nat) : Prop :=
  0 ≤ net outs k ∧ 2 * net outs k < length ∧ idle outs k < 5

/-- It makes `k` reads. -/
def Stops (outs : Nat → Option (List UInt8)) (length k : Nat) : Prop :=
  (∀ j < k, Goes outs length j) ∧ ¬ Goes outs length k

instance (outs : Nat → Option (List UInt8)) (length k : Nat) : Decidable (Goes outs length k) :=
  inferInstanceAs (Decidable (_ ∧ _))
instance (outs : Nat → Option (List UInt8)) (length k : Nat) : Decidable (Stops outs length k) :=
  inferInstanceAs (Decidable (_ ∧ _))

/-- The loop is over, or goes on, with the outcomes so far. Only the last read can have
    been cut short, and only where it brings more than is left. -/
structure Tallied (outs : Nat → Option (List UInt8)) (length readC numZeros k : Nat) : Prop where
  run : numZeros = idle outs k
  count : readC ≤ 2 * length ∨ readC = 2 ^ 64 - 2
  going : Goes outs length k → readC = 2 * net outs k
  full : readC = length ↔ 2 * net outs k = length
  ended : ¬ Goes outs length k → ¬ (readC < length ∧ numZeros < 5)

variable {outs : Nat → Option (List UInt8)} {fd : Int} {length fuel readC numZeros i k : Nat} {buffer : List UInt8}
  {calls : List Syscall}

theorem Tallied.start (hpos : 0 < length) : Tallied outs length 0 0 0 where
  run := rfl
  count := .inl (Nat.zero_le _)
  going _ := rfl
  full := by
    rw [net]
    omega
  ended h := absurd ⟨Int.le_refl 0, by rw [net]; omega, (by decide : 0 < 5)⟩ h

theorem net_failed (outs : Nat → Option (List UInt8)) (h : outs k = none) : net outs (k + 1) = net outs k - 1 := by
  simp only [net, h]
  omega

theorem net_brought (outs : Nat → Option (List UInt8)) {bs : List UInt8} (h : outs k = some bs) :
    net outs (k + 1) = net outs k + bs.length := by
  simp only [net, h]

theorem Tallied.go (h : Tallied outs length readC numZeros k) (hgo : Goes outs length k) :
    (readC : Int) = 2 * net outs k ∧ readC < length ∧ numZeros < 5 := by
  have hcount := h.going hgo
  obtain ⟨-, hlt, hrun⟩ := hgo
  rw [h.run]
  omega

/-- One turn of the loop. -/
theorem Tallied.turn (hlen : length < 2 ^ 62) (h : Tallied (later outs i) length readC numZeros k)
    (hgo : Goes (later outs i) length k) (fd : Int) (fuel : Nat) (buffer : List UInt8) (calls : List Syscall) :
    ∃ readC' numZeros' buffer' calls', Tallied (later outs i) length readC' numZeros' (k + 1) ∧
      readLoop (Posix.replaying outs).traced fd length (fuel + 1) readC numZeros buffer (calls, i + k) =
        readLoop (Posix.replaying outs).traced fd length fuel readC' numZeros' buffer' (calls', i + (k + 1)) := by
  obtain ⟨hcount, hlt, hfive⟩ := h.go hgo
  have hrun := h.run
  rw [readLoop, if_pos ⟨hlt, hfive⟩, traced_read]
  cases hout : outs (i + k) with
  | none =>
    have hnet := net_failed (later outs i) hout
    have hidle : idle (later outs i) (k + 1) = 0 := by simp [idle, later, hout]
    have hpos : 0 < 2 ^ 64 - 1 := by omega
    refine ⟨((readC + (2 ^ 64 - 1)) % 2 ^ 64 + (2 ^ 64 - 1)) % 2 ^ 64, 0, buffer, calls ++ [.read fd none], ?_, ?_⟩
    · constructor
      · exact hidle.symm
      · omega
      · rw [Goes, hnet]
        omega
      · rw [hnet]
        omega
      · rw [Goes, hnet, hidle]
        omega
    · simp only [Posix.replaying, hout, Option.map_none, hpos, if_true, Nat.add_assoc]
  | some bs =>
    have hnet := net_brought (later outs i) hout
    have hchunk : (bs.take (length - readC)).length = min (length - readC) bs.length := List.length_take ..
    by_cases hbs : bs = []
    · have hnone : bs.length = 0 := by rw [hbs, List.length_nil]
      have hidle : idle (later outs i) (k + 1) = idle (later outs i) k + 1 := by simp [idle, later, hout, hbs]
      refine ⟨(readC + 0) % 2 ^ 64, numZeros + 1, poke buffer readC (bs.take (length - readC)),
        calls ++ [.read fd (some (bs.take (length - readC)))], ?_, ?_⟩
      · constructor
        · rw [hidle, hrun]
        · omega
        · rw [Goes, hnet]
          omega
        · rw [hnet]
          omega
        · rw [Goes, hnet, hidle]
          omega
      · have hzero : (bs.take (length - readC)).length = 0 := by omega
        simp only [Posix.replaying, hout, Option.map_some, hzero, Nat.lt_irrefl, if_false, Nat.add_assoc]
    · have hpos : 0 < bs.length := List.length_pos_iff.mpr hbs
      have hidle : idle (later outs i) (k + 1) = 0 := by simp [idle, later, hout, hbs]
      refine ⟨((readC + (bs.take (length - readC)).length) % 2 ^ 64 + (bs.take (length - readC)).length) % 2 ^ 64, 0,
        poke buffer readC (bs.take (length - readC)), calls ++ [.read fd (some (bs.take (length - readC)))], ?_, ?_⟩
      · constructor
        · exact hidle.symm
        · omega
        · rw [Goes, hnet]
          omega
        · rw [hnet]
          omega
        · rw [Goes, hnet, hidle]
          omega
      · have hsome : 0 < (bs.take (length - readC)).length := by omega
        simp only [Posix.replaying, hout, Option.map_some, hsome, if_true, Nat.add_assoc]

theorem readLoop_tallied_end (h : ¬ Goes outs length k) (hI : Tallied outs length readC numZeros k) {σ : Type}
    (os : Posix σ) (s : σ) : readLoop os fd length fuel readC numZeros buffer s = some (readC, buffer, s) := by
  have hend := hI.ended h
  cases fuel <;> rw [readLoop, if_neg hend]

/-- Where the loop returns, it stops there. -/
theorem readLoop_tallied (hlen : length < 2 ^ 62) (hlive : ∀ j < k, Goes (later outs i) length j)
    (hI : Tallied (later outs i) length readC numZeros k) {n : Nat} {buffer' : List UInt8} {s' : List Syscall × Nat}
    (h : readLoop (Posix.replaying outs).traced fd length fuel readC numZeros buffer (calls, i + k) =
      some (n, buffer', s')) :
    ∃ m numZeros', Stops (later outs i) length m ∧ s'.2 = i + m ∧ Tallied (later outs i) length n numZeros' m := by
  induction fuel generalizing k readC numZeros buffer calls with
  | zero =>
    by_cases hgo : Goes (later outs i) length k
    · obtain ⟨-, hlt, hfive⟩ := hI.go hgo
      rw [readLoop, if_pos ⟨hlt, hfive⟩] at h
      cases h
    · rw [readLoop_tallied_end hgo hI] at h
      cases h
      exact ⟨k, numZeros, ⟨hlive, hgo⟩, rfl, hI⟩
  | succ fuel ih =>
    by_cases hgo : Goes (later outs i) length k
    · obtain ⟨readC', numZeros', buffer'', calls', hI', hturn⟩ := hI.turn hlen hgo fd fuel buffer calls
      rw [hturn] at h
      refine ih ?_ hI' h
      intro j hj
      rcases Nat.lt_succ_iff_lt_or_eq.mp hj with hlt | heq
      · exact hlive j hlt
      · rwa [heq]
    · rw [readLoop_tallied_end hgo hI] at h
      cases h
      exact ⟨k, numZeros, ⟨hlive, hgo⟩, rfl, hI⟩

/-- Where it stops, it returns. -/
theorem readLoop_of_stops (fd : Int) (buffer : List UInt8) (calls : List Syscall) (hlen : length < 2 ^ 62) {m : Nat}
    (hstop : Stops (later outs i) length m) (hk : k ≤ m)
    (hI : Tallied (later outs i) length readC numZeros k) (hfuel : m ≤ k + fuel) :
    ∃ out, readLoop (Posix.replaying outs).traced fd length fuel readC numZeros buffer (calls, i + k) = some out := by
  induction fuel generalizing k readC numZeros buffer calls with
  | zero =>
    obtain rfl : k = m := by omega
    exact ⟨_, readLoop_tallied_end hstop.2 hI (Posix.replaying outs).traced (calls, i + k)⟩
  | succ fuel ih =>
    rcases Nat.lt_or_eq_of_le hk with hlt | heq
    · obtain ⟨readC', numZeros', buffer', calls', hI', hturn⟩ := hI.turn hlen (hstop.1 k hlt) fd fuel buffer calls
      rw [hturn]
      exact ih buffer' calls' hlt hI' (by omega)
    · subst heq
      exact ⟨_, readLoop_tallied_end hstop.2 hI (Posix.replaying outs).traced (calls, i + k)⟩

/-- The bytes of the `::read`s from one state to the other. -/
def own {σ : Type} (io io' : List Syscall × σ) : List UInt8 := delivered ((reads io'.1).drop (reads io.1).length)

/-- `TicSerial` on a line with these outcomes. -/
abbrev ticBase (outs : Nat → Option (List UInt8)) (fd : Int) (fuel : Nat) (deviceNumber : UInt8) :
    TicBase (List Syscall × Nat) :=
  TicSerial.base (stream (Posix.replaying outs).traced fd fuel) deviceNumber

section
variable {deviceNumber n : UInt8} {u : Uninit} {offset : VarOffset} {t t' : Tic (List Syscall × Nat)} {m : Nat}

theorem putAll_replaying (outs : Nat → Option (List UInt8)) (fd : Int) (fuel : Nat) (bytes : List UInt8)
    (io : List Syscall × Nat) :
    (TicSerial.putAll (stream (Posix.replaying outs).traced fd fuel) bytes io).2 = io.2 := by
  induction bytes generalizing io with
  | nil => rfl
  | cons byte bytes ih => exact ih _

/-- The read of a register is a turn of the loop after the request. -/
theorem getVar_eq (outs : Nat → Option (List UInt8)) (fd : Int) (fuel : Nat) (deviceNumber : UInt8) (u : Uninit)
    (offset : VarOffset) (hn : n.toNat < 64) (t : Tic (List Syscall × Nat)) :
    ∃ calls, (ticBase outs fd fuel deviceNumber).getVar n u offset t =
      (readLoop (Posix.replaying outs).traced fd n.toNat fuel 0 0 (u.buffer offset n.toNat) (calls, t.io.2 + 0)).map
        fun out => if UInt8.ofNat out.1 ≠ n then
            (List.replicate n.toNat 0 ++ out.2.1.drop n.toNat, { t with lastError := 50, io := out.2.2 })
          else (out.2.1, { t with lastError := 0, io := out.2.2 }) := by
  have hget : (ticBase outs fd fuel deviceNumber).getVar n u offset t =
      TicSerial.getSegment (stream (Posix.replaying outs).traced fd fuel) deviceNumber .getVariable offset.code n
        (u.buffer offset n.toNat) t := rfl
  have hio := putAll_replaying outs fd fuel
    (TicSerial.headerBytes deviceNumber .getVariable ++ TicSerial.segmentBytes offset.code n) t.io
  rw [hget, TicSerial.getSegment_eq, mask_length hn, Nat.add_zero, ← hio]
  exact ⟨_, rfl⟩

/-- It makes as many reads as its loop, and reports no error exactly where half of the
    register more bytes came than reads failed. -/
theorem getVar_stops (hn : 0 < n.toNat ∧ n.toNat < 64)
    (h : (ticBase outs fd fuel deviceNumber).getVar n u offset t = some (buffer, t')) :
    ∃ m, Stops (later outs t.io.2) n.toNat m ∧ t'.io.2 = t.io.2 + m ∧
      (t'.lastError = 0 ↔ 2 * net (later outs t.io.2) m = n.toNat) := by
  obtain ⟨calls, hget⟩ := getVar_eq outs fd fuel deviceNumber u offset hn.2 t
  rw [hget, Option.map_eq_some_iff] at h
  obtain ⟨⟨count, buffer', s'⟩, hloop, hout⟩ := h
  obtain ⟨m, numZeros, hstop, hs, hI⟩ := readLoop_tallied (by omega) (fun j hj => absurd hj (Nat.not_lt_zero j))
    (Tallied.start hn.1) hloop
  have hbyte : UInt8.ofNat count = n ↔ count = n.toNat := by
    have hcount := hI.count
    rw [← UInt8.toNat_inj, UInt8.toNat_ofNat']
    omega
  have hfifty : (50 : UInt8) ≠ 0 := by decide
  refine ⟨m, hstop, ?_⟩
  rw [← hI.full, ← hbyte]
  by_cases hall : UInt8.ofNat count = n
  · rw [if_neg (not_not.mpr hall), Prod.mk.injEq] at hout
    rw [← hout.2]
    exact ⟨hs, iff_of_true rfl hall⟩
  · rw [if_pos hall, Prod.mk.injEq] at hout
    rw [← hout.2]
    exact ⟨hs, iff_of_false hfifty hall⟩

theorem getVar_of_stops (fd : Int) (deviceNumber : UInt8) (u : Uninit) (offset : VarOffset)
    (hn : 0 < n.toNat ∧ n.toNat < 64) (hstop : Stops (later outs t.io.2) n.toNat m)
    (hfuel : m ≤ fuel) : ∃ buffer t', (ticBase outs fd fuel deviceNumber).getVar n u offset t = some (buffer, t') := by
  obtain ⟨calls, hget⟩ := getVar_eq outs fd fuel deviceNumber u offset hn.2 t
  obtain ⟨out, hloop⟩ := readLoop_of_stops fd (u.buffer offset n.toNat) calls (by omega)
    hstop (Nat.zero_le m) (Tallied.start hn.1) (by omega : m ≤ 0 + fuel)
  rw [hget, hloop]
  exact ⟨_, _, rfl⟩

end

theorem later_zero (outs : Nat → Option (List UInt8)) : later outs 0 = outs := by
  funext k
  rw [later, Nat.zero_add]

theorem Stops.unique {length j k : Nat} (hj : Stops outs length j) (hk : Stops outs length k) : j = k := by
  rcases Nat.lt_trichotomy j k with h | h | h
  · exact absurd (hk.1 j h) hj.2
  · exact h
  · exact absurd (hj.1 k h) hk.2

/-- The position reads end, and at most one of them with two bytes more than reads that
    failed. -/
def Refused (outs : Nat → Option (List UInt8)) : Prop :=
  ∃ k, Stops outs 4 k ∧ (net outs k = 2 → ∃ k', Stops (later outs k) 4 k' ∧ net (later outs k) k' ≠ 2)

section
variable {deviceNumber : UInt8} {u : Uninit} {lastError : UInt8} {product : TicProduct}

/-- A register of one byte is never read without an error. -/
theorem not_succeed {t : Tic (List Syscall × Nat)} {bytes : List (List UInt8)} :
    ¬ Succeed (ticBase outs fd fuel deviceNumber) u own registers t bytes := by
  intro ⟨_, t₁, _, _, _, _, _, _, t₂, _, _, _, _, _, _, t₃, _, _, _, _, _, _, t₄, _, hread, herr, _⟩
  obtain ⟨m, -, -, hbyte⟩ := getVar_stops (by decide) hread
  have hone : 2 * net (later outs t₃.io.2) m = 1 := hbyte.mp herr
  omega

/-- A poll is false where one of the position reads reports an error. -/
theorem getVariables_false_iff {τ : Type} {T : TicBase τ} {t : Tic τ} {msg : String} :
    (∃ i, TiclibInterface.getVariables T u ⟨t, msg⟩ = some (none, i)) ↔
      ∃ b₁ t₁, T.getVar 4 u .targetPosition t = some (b₁, t₁) ∧ (t₁.lastError = 0 →
        ∃ b₂ t₂, T.getVar 4 u .currentPosition t₁ = some (b₂, t₂) ∧ t₂.lastError ≠ 0) := by
  apply Iff.intro
  · intro h
    obtain ⟨i, h⟩ := h
    cases r₁ : T.getVar 4 u .targetPosition t with
    | none => simp [TiclibInterface.getVariables, TicBase.getTargetPosition, TicBase.getVar32, r₁] at h
    | some out₁ =>
      refine ⟨out₁.1, out₁.2, rfl, ?_⟩
      intro e₁
      cases r₂ : T.getVar 4 u .currentPosition out₁.2 with
      | none =>
        simp [TiclibInterface.getVariables, TicBase.getTargetPosition, TicBase.getCurrentPosition, TicBase.getVar32,
          r₁, e₁, r₂] at h
      | some out₂ =>
        refine ⟨out₂.1, out₂.2, rfl, ?_⟩
        intro e₂
        simp [TiclibInterface.getVariables, TicBase.getTargetPosition, TicBase.getCurrentPosition, TicBase.getVar32,
          r₁, e₁, r₂, e₂, Option.bind_eq_some_iff] at h
  · intro h
    obtain ⟨b₁, t₁, r₁, h₁⟩ := h
    by_cases e₁ : t₁.lastError = 0
    · obtain ⟨b₂, t₂, r₂, e₂⟩ := h₁ e₁
      exact ⟨_, TiclibInterface.getVariables_current_error r₁ e₁ r₂ e₂⟩
    · exact ⟨_, TiclibInterface.getVariables_target_error r₁ e₁⟩

theorem allOrError_iff (outs : Nat → Option (List UInt8)) (fd : Int) (deviceNumber : UInt8) (u : Uninit)
    (lastError : UInt8) (product : TicProduct) (msg : String) :
    (∃ fuel, AllOrError (ticBase outs fd fuel deviceNumber) u own ⟨lastError, product, ([], 0)⟩
      (TiclibInterface.getVariables (ticBase outs fd fuel deviceNumber) u ⟨⟨lastError, product, ([], 0)⟩, msg⟩)) ↔
      Refused outs := by
  have hfalse : ∀ fuel, AllOrError (ticBase outs fd fuel deviceNumber) u own ⟨lastError, product, ([], 0)⟩
      (TiclibInterface.getVariables (ticBase outs fd fuel deviceNumber) u ⟨⟨lastError, product, ([], 0)⟩, msg⟩) ↔
      ∃ i, TiclibInterface.getVariables (ticBase outs fd fuel deviceNumber) u ⟨⟨lastError, product, ([], 0)⟩, msg⟩ =
        some (none, i) := by
    intro fuel
    have hnone : ¬ ∃ bytes, Succeed (ticBase outs fd fuel deviceNumber) u own registers
        ⟨lastError, product, ([], 0)⟩ bytes := fun ⟨_, h⟩ => not_succeed h
    apply Iff.intro
    · intro ⟨vars, i, hout, hiff, _⟩
      cases vars with
      | none => exact ⟨i, hout⟩
      | some v => exact absurd (hiff.mp rfl) hnone
    · intro ⟨i, hout⟩
      exact ⟨none, i, hout, iff_of_false (by decide) hnone, fun v hv => nomatch hv⟩
  simp only [hfalse, getVariables_false_iff]
  apply Iff.intro
  · intro ⟨fuel, b₁, t₁, r₁, h₁⟩
    obtain ⟨k, hstop, hio, herr⟩ := getVar_stops (by decide) r₁
    rw [later_zero] at hstop herr
    refine ⟨k, hstop, ?_⟩
    intro htwo
    obtain ⟨b₂, t₂, r₂, h₂⟩ := h₁ (herr.mpr (by rw [htwo]; rfl))
    obtain ⟨k', hstop', -, herr'⟩ := getVar_stops (by decide) r₂
    rw [hio, Nat.zero_add] at hstop' herr'
    refine ⟨k', hstop', ?_⟩
    intro htwo'
    exact h₂ (herr'.mpr (by rw [htwo']; rfl))
  · intro ⟨k, hstop, h⟩
    obtain ⟨fuel, hfuel, hnext⟩ : ∃ fuel, k ≤ fuel ∧ (net outs k = 2 → ∃ k' ≤ fuel, Stops (later outs k) 4 k' ∧
        net (later outs k) k' ≠ 2) := by
      by_cases htwo : net outs k = 2
      · obtain ⟨k', hstop', hnot⟩ := h htwo
        exact ⟨k + k', Nat.le_add_right k k', fun _ => ⟨k', Nat.le_add_left k' k, hstop', hnot⟩⟩
      · exact ⟨k, Nat.le_refl k, fun h => absurd h htwo⟩
    have hstart : Stops (later outs 0) 4 k := by rwa [later_zero]
    obtain ⟨b₁, t₁, r₁⟩ := getVar_of_stops (t := ⟨lastError, product, ([], 0)⟩) (n := 4) fd deviceNumber u
      .targetPosition (by decide) hstart hfuel
    obtain ⟨m, hm, hio, herr⟩ := getVar_stops (by decide) r₁
    obtain rfl := hm.unique hstart
    refine ⟨fuel, b₁, t₁, r₁, ?_⟩
    intro e₁
    have hfour : 2 * net (later outs 0) m = 4 := herr.mp e₁
    rw [later_zero] at hfour
    obtain ⟨k', hk', hstop', hnot⟩ := hnext (by omega)
    have hio' : t₁.io.2 = m := hio.trans (Nat.zero_add m)
    rw [← hio'] at hstop' hnot
    obtain ⟨b₂, t₂, r₂⟩ := getVar_of_stops (t := t₁) (n := 4) fd deviceNumber u .currentPosition (by decide) hstop' hk'
    obtain ⟨m', hm', -, herr'⟩ := getVar_stops (by decide) r₂
    obtain rfl := hm'.unique hstop'
    refine ⟨b₂, t₂, r₂, ?_⟩
    intro e₂
    have hfour' : 2 * net (later outs t₁.io.2) m' = 4 := herr'.mp e₂
    omega

end

end StreamSerial

/-! ## All or an error -/

/-- Polls whose third read, of the supply voltage, fails: with a transfer, or with five
    empty `::read`s. -/
def noVoltageUsb (k : Nat) : Except LibusbError (List UInt8) := if k = 2 then .error .timeout else .ok [0, 0, 0, 0]
def noVoltage (k : Nat) : Option (List UInt8) := if 2 ≤ k ∧ k < 7 then some [] else some [0, 0, 0, 0]

/-- The last errors that the reads leave. -/
def lastErrors {τ : Type} (T : TicBase τ) (u : Uninit) : List (UInt8 × VarOffset) → Tic τ → List UInt8
  | [], _ => []
  | (n, offset) :: regs, t => ((T.getVar n u offset t).elim [] fun out => out.2.lastError :: lastErrors T u regs out.2)

theorem Succeed.lastErrors {τ : Type} {T : TicBase τ} {u : Uninit} {own : τ → τ → List UInt8}
    {regs : List (UInt8 × VarOffset)} {t : Tic τ} {bytes : List (List UInt8)} (h : Succeed T u own regs t bytes) :
    ∀ e ∈ lastErrors T u regs t, e = 0 := by
  induction regs generalizing t bytes with
  | nil => simp [TicFocuserNG.lastErrors]
  | cons reg regs ih =>
    obtain ⟨n, offset⟩ := reg
    obtain ⟨buffer, t', rest, hget, herr, -, -, hrest⟩ := h
    intro e he
    simp only [TicFocuserNG.lastErrors, hget, Option.elim_some, List.mem_cons] at he
    rcases he with rfl | he
    · exact herr
    · exact ih hrest e he

/-- A poll that is true after a read that failed. -/
theorem not_allOrError {τ : Type} {T : TicBase τ} {u : Uninit} {own : τ → τ → List UInt8} {t : Tic τ} {v : TicVariables}
    {out : Option (Option TicVariables × TiclibInterface τ)} (hout : out.map Prod.fst = some (some v)) {e : UInt8}
    (he : e ∈ lastErrors T u registers t) (hne : e ≠ 0) : ¬ AllOrError T u own t out := by
  intro ⟨vars, i, hsame, htrue, _⟩
  rw [hsame, Option.map_some, Option.some.injEq] at hout
  have hvars : vars = some v := hout
  obtain ⟨bytes, hsucceed⟩ := htrue.mp (by rw [hvars]; rfl)
  exact hne (hsucceed.lastErrors e he)

/-- The variables hold 0x55 before. -/
def fives : Uninit := fun _ _ => 0x55

def pollUsb := TiclibInterface.getVariables (TicUsb.base (Libusb.replying noVoltageUsb)) fives
  ⟨⟨0, .t825, ⟨some 1, []⟩⟩, ""⟩

def pollBT :=
  TiclibInterface.getVariables (TicSerial.base (StreamBT.stream (Posix.replaying noVoltage).traced) 14) fives
  ⟨⟨0, .t825, ({}, [], 0)⟩, ""⟩

/-- On a line that brings one byte a `::read`. -/
def pollSerial (fuel : Nat) := TiclibInterface.getVariables
  (TicSerial.base (StreamSerial.stream (Posix.replaying fun _ => some [1]).traced 3 fuel) 14) fives
  ⟨⟨0, .t825, ([], 0)⟩, ""⟩

end TicFocuserNG
