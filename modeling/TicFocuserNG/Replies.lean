import TicFocuserNG.Transports

/- Whose reply a register read returns, over polls whose replies are late.

   Every register read of a run is kept (`Reading`), with the link before and
   after it. A read that ends without an error owns what it returns if nothing
   was on the link before its request and it took all of its own reply
   (`Attributed`). `replies_attributed_iff` says when all reads of a run do:

     1. over `StreamBT`, exactly when no read gets all its bytes after one that
        came short. Nothing ever takes the bytes a short read left on the link
        but the next reads.
     2. over `StreamSerial`, exactly when no read is brought exactly half of its
        bytes. Its count is twice the bytes read, so this is when it reports
        success.

   What `getVariables` returns is then the two positions of that very poll
   (`Honest`). -/
namespace TicFocuserNG

open TicBase (value32)

/-- A register read: the link before and after it, and its outcome. -/
structure Reading where
  offset : UInt8
  length : UInt8
  before : SerialTic
  after : SerialTic
  buffer : List UInt8
  lastError : UInt8
  deriving DecidableEq, Repr

namespace Reading

/-- Reply bytes the read took off the link. -/
def delivered (e : Reading) : Nat := e.after.taken - e.before.taken

def Short (e : Reading) : Prop := e.delivered < e.length.toNat

/-- Without an error, what is in the buffer is the reply to this request: the
    link was drained before, its own reply is what was taken, and the buffer
    holds it. -/
def Attributed (fw : Firmware) (e : Reading) : Prop :=
  e.lastError = 0 → e.before.taken = e.before.sent.length ∧
    e.after.taken = e.before.taken + e.length.toNat ∧
    e.buffer = fw.reply e.before.ops .getVariable e.offset.toNat e.length.toNat

instance (e : Reading) : Decidable e.Short := inferInstanceAs (Decidable (_ < _))
instance (fw : Firmware) (e : Reading) : Decidable (e.Attributed fw) := inferInstanceAs (Decidable (_ → _))

end Reading

/-- `T`, keeping every register read; `line` finds the controller in the state
    of the transport. -/
def TicBase.logged {τ : Type} (T : TicBase τ) (line : τ → SerialTic) : TicBase (List Reading × τ) where
  commandQuick cmd t :=
    let t' := T.commandQuick cmd { t with io := t.io.2 }
    { t' with io := (t.io.1, t'.io) }
  commandW32 cmd val t :=
    let t' := T.commandW32 cmd val { t with io := t.io.2 }
    { t' with io := (t.io.1, t'.io) }
  commandW7 cmd val t :=
    let t' := T.commandW7 cmd val { t with io := t.io.2 }
    { t' with io := (t.io.1, t'.io) }
  getSegment cmd offset length buffer t :=
    (T.getSegment cmd offset length buffer { t with io := t.io.2 }).map fun (buffer, t') =>
      (buffer, { t' with
        io := (t.io.1 ++ [⟨offset, length, line t.io.2, line t'.io, buffer, t'.lastError⟩], t'.io) })

/-- A poll: the operations before it, and what `getVariables` returned. -/
structure Poll where
  ops : List TicOp
  vars : Option TicVariables
  deriving DecidableEq, Repr

/-- The positions are those of the two registers, read in this poll. -/
def Poll.Honest (fw : Firmware) (p : Poll) : Prop :=
  match p.vars with
  | none => True
  | some vars =>
    vars.targetPosition = (value32 (fw.reply p.ops .getVariable VarOffset.targetPosition.code.toNat 4)).toInt32 ∧
      vars.currentPosition = (value32 (fw.reply (p.ops ++ [VarOffset.targetPosition.read 4])
        .getVariable VarOffset.currentPosition.code.toNat 4)).toInt32

instance (fw : Firmware) : ∀ p : Poll, Decidable (p.Honest fw)
  | ⟨_, none⟩ => isTrue trivial
  | ⟨_, some _⟩ => inferInstanceAs (Decidable (_ ∧ _))

/-- Every register read of the polls owns what it returns, and what the polls
    return are the two positions. -/
def Owned (fw : Firmware) (log : List Reading) (polls : List Poll) : Prop :=
  (∀ e ∈ log, e.Attributed fw) ∧ ∀ p ∈ polls, p.Honest fw

instance (fw : Firmware) (log : List Reading) (polls : List Poll) : Decidable (Owned fw log polls) :=
  inferInstanceAs (Decidable (_ ∧ _))

variable {τ : Type} {fw : Firmware} {T : TicBase τ} {line : τ → SerialTic}

/-- Polls one after the other. -/
def pollAll (T : TicBase τ) (line : τ → SerialTic) : List Uninit → TiclibInterface (List Reading × τ) →
    Option (List Poll × TiclibInterface (List Reading × τ))
  | [], i => some ([], i)
  | u :: us, i => do
    let (vars, i') ← i.getVariables (T.logged line) u
    let (polls, i'') ← pollAll T line us i'
    return (⟨(line i.ticBase.io.2).ops, vars⟩ :: polls, i'')

/-! ## Runs of polls -/

/-- Every register read of `T` returns, asks the controller for the register,
    and keeps `J`, which is about the reads so far and the link. -/
def Reads (T : TicBase τ) (line : τ → SerialTic) (J : List Reading → SerialTic → Prop) : Prop :=
  ∀ (log : List Reading) (t : Tic τ) (n : UInt8) (u : Uninit) (offset : VarOffset), 0 < n.toNat → n.toNat < 64 →
    J log (line t.io) → ∃ buffer t', T.getVar n u offset t = some (buffer, t') ∧
      (line t'.io).ops = (line t.io).ops ++ [offset.read n.toNat] ∧
      J (log ++ [⟨offset.code, n, line t.io, line t'.io, buffer, t'.lastError⟩]) (line t'.io)

variable {J : List Reading → SerialTic → Prop}

/-- `J` of a logged state. -/
def Logs (J : List Reading → SerialTic → Prop) (line : τ → SerialTic) (t : Tic (List Reading × τ)) : Prop :=
  J t.io.1 (line t.io.2)

theorem Reads.getVar (hT : Reads T line J) (fw : Firmware) {t : Tic (List Reading × τ)} (ht : Logs J line t) (n : UInt8)
    (u : Uninit) (offset : VarOffset) (h0 : 0 < n.toNat) (hn : n.toNat < 64) :
    ∃ (buffer : List UInt8) (t' : Tic (List Reading × τ)) (e : Reading),
      (T.logged line).getVar n u offset t = some (buffer, t') ∧ t'.io.1 = t.io.1 ++ [e] ∧ Logs J line t' ∧
      (line t'.io.2).ops = (line t.io.2).ops ++ [offset.read n.toNat] ∧
      (e.Attributed fw → t'.lastError = 0 →
        buffer = fw.reply (line t.io.2).ops .getVariable offset.code.toNat n.toNat) := by
  obtain ⟨buffer, t', hget, hops, hJ⟩ := hT t.io.1 { t with io := t.io.2 } n u offset h0 hn ht
  have hlogged : (T.logged line).getVar n u offset t = some (buffer, { t' with
      io := (t.io.1 ++ [⟨offset.code, n, line t.io.2, line t'.io, buffer, t'.lastError⟩], t'.io) }) := by
    rw [TicBase.getVar] at hget ⊢
    simp only [TicBase.logged, hget, Option.map_some]
  refine ⟨buffer, _, _, hlogged, rfl, hJ, hops, ?_⟩
  intro hatt herr
  exact (hatt herr).2.2

/-- A poll returns, and keeps its reads; if they own what they return, so does
    the poll. -/
theorem Reads.getVariables (hT : Reads T line J) (fw : Firmware) {i : TiclibInterface (List Reading × τ)}
    (hi : Logs J line i.ticBase) (u : Uninit) :
    ∃ (vars : Option TicVariables) (i' : TiclibInterface (List Reading × τ)) (new : List Reading),
      i.getVariables (T.logged line) u = some (vars, i') ∧ i'.ticBase.io.1 = i.ticBase.io.1 ++ new ∧
      Logs J line i'.ticBase ∧
      ((∀ e ∈ new, e.Attributed fw) → (Poll.mk (line i.ticBase.io.2).ops vars).Honest fw) := by
  obtain ⟨buf₁, t₁, e₁, r₁, l₁, j₁, o₁, a₁⟩ := hT.getVar fw hi 4 u .targetPosition (by decide) (by decide)
  by_cases h₁ : t₁.lastError = 0
  · obtain ⟨buf₂, t₂, e₂, r₂, l₂, j₂, o₂, a₂⟩ := hT.getVar fw j₁ 4 u .currentPosition (by decide) (by decide)
    by_cases h₂ : t₂.lastError = 0
    · obtain ⟨buf₃, t₃, e₃, r₃, l₃, j₃, -, -⟩ := hT.getVar fw j₂ 2 u .vinVoltage (by decide) (by decide)
      obtain ⟨buf₄, t₄, e₄, r₄, l₄, j₄, -, -⟩ := hT.getVar fw j₃ 1 u .currentLimit (by decide) (by decide)
      obtain ⟨buf₅, t₅, e₅, r₅, l₅, j₅, -, -⟩ := hT.getVar fw j₄ 1 u .miscFlags1 (by decide) (by decide)
      obtain ⟨buf₆, t₆, e₆, r₆, l₆, j₆, -, -⟩ := hT.getVar fw j₅ 1 u .stepMode (by decide) (by decide)
      obtain ⟨buf₇, t₇, e₇, r₇, l₇, j₇, -, -⟩ := hT.getVar fw j₆ 1 u .operationState (by decide) (by decide)
      obtain ⟨buf₈, t₈, e₈, r₈, l₈, j₈, -, -⟩ := hT.getVar fw j₇ 2 u .errorStatus (by decide) (by decide)
      refine ⟨_, ⟨t₈, "OK"⟩, [e₁, e₂, e₃, e₄, e₅, e₆, e₇, e₈],
        TiclibInterface.getVariables_ok r₁ h₁ r₂ h₂ r₃ r₄ r₅ r₆ r₇ r₈, ?_, j₈, ?_⟩
      · simp [l₁, l₂, l₃, l₄, l₅, l₆, l₇, l₈]
      · intro hatt
        have b₁ := a₁ (hatt e₁ (by simp)) h₁
        have b₂ := a₂ (hatt e₂ (by simp)) h₂
        rw [o₁] at b₂
        exact ⟨by rw [b₁]; rfl, by rw [b₂]; rfl⟩
    · exact ⟨none, _, [e₁, e₂], TiclibInterface.getVariables_current_error r₁ h₁ r₂ h₂, by simp [l₁, l₂], j₂,
        fun _ => trivial⟩
  · exact ⟨none, _, [e₁], TiclibInterface.getVariables_target_error r₁ h₁, l₁, j₁, fun _ => trivial⟩

theorem Reads.pollAll (hT : Reads T line J) (fw : Firmware) (us : List Uninit)
    {i : TiclibInterface (List Reading × τ)} (hi : Logs J line i.ticBase) :
    ∃ (polls : List Poll) (i' : TiclibInterface (List Reading × τ)) (new : List Reading),
      pollAll T line us i = some (polls, i') ∧ i'.ticBase.io.1 = i.ticBase.io.1 ++ new ∧
      Logs J line i'.ticBase ∧ ((∀ e ∈ new, e.Attributed fw) → ∀ p ∈ polls, p.Honest fw) := by
  induction us generalizing i with
  | nil => exact ⟨[], i, [], rfl, by simp, hi, by simp⟩
  | cons u us ih =>
    obtain ⟨vars, i₁, new₁, hpoll, hlog₁, hi₁, hhonest₁⟩ := hT.getVariables fw hi u
    obtain ⟨polls, i₂, new₂, hrest, hlog₂, hi₂, hhonest₂⟩ := ih hi₁
    refine ⟨⟨(line i.ticBase.io.2).ops, vars⟩ :: polls, i₂, new₁ ++ new₂, ?_, ?_, hi₂, ?_⟩
    · rw [TicFocuserNG.pollAll, hpoll]
      simp only [Option.bind_eq_bind, Option.bind_some, hrest]
      rfl
    · rw [hlog₂, hlog₁, List.append_assoc]
    · intro hatt p hp
      rcases List.mem_cons.mp hp with rfl | hp
      · apply hhonest₁
        intro e he
        exact hatt e (List.mem_append_left _ he)
      · refine hhonest₂ ?_ p hp
        intro e he
        exact hatt e (List.mem_append_right _ he)

/-- From the first poll on: where `J` says when all reads own what they return,
    this is when the polls do. -/
theorem Reads.owned_iff {R : List Reading → Prop} (hT : Reads T line J)
    (hR : ∀ {log t}, J log t → ((∀ e ∈ log, e.Attributed fw) ↔ R log)) (us : List Uninit)
    {i : TiclibInterface (List Reading × τ)} (hi : Logs J line i.ticBase) (hnil : i.ticBase.io.1 = []) :
    ∃ polls i', TicFocuserNG.pollAll T line us i = some (polls, i') ∧
      (Owned fw i'.ticBase.io.1 polls ↔ R i'.ticBase.io.1) := by
  obtain ⟨polls, i', new, hrun, hlog, hJ, hhonest⟩ := hT.pollAll fw us hi
  have hnew : i'.ticBase.io.1 = new := by rw [hlog, hnil, List.nil_append]
  refine ⟨polls, i', hrun, ?_⟩
  have hpolls : (∀ e ∈ i'.ticBase.io.1, e.Attributed fw) → ∀ p ∈ polls, p.Honest fw := by
    rw [hnew]
    exact hhonest
  rw [← hR hJ, Owned, and_iff_left_of_imp hpolls]

/-! ## StreamBT -/

/-- Reads over `StreamBT`: the link is drained as long as no read came short, and
    the reads own what they return as long as none gets its bytes after one
    that came short. -/
structure Late (fw : Firmware) (log : List Reading) (t : SerialTic) : Prop where
  taken : t.taken ≤ t.sent.length
  drained : t.taken = t.sent.length ↔ ∀ e ∈ log, ¬ e.Short
  attributed : (∀ e ∈ log, e.Attributed fw) ↔ log.Pairwise fun e e' => e.Short → e'.Short

/-- One read more, of `c` bytes. -/
theorem Late.snoc {log : List Reading} {e : Reading} {c : Nat} (h : Late fw log e.before)
    (hsent : e.after.sent.length = e.before.sent.length + e.length.toNat)
    (htaken : e.after.taken = e.before.taken + c) (hc : c ≤ e.length.toNat)
    (hatt : e.Attributed fw ↔ (c = e.length.toNat → e.before.taken = e.before.sent.length)) :
    Late fw (log ++ [e]) e.after := by
  have hle := h.taken
  have hshort : e.Short ↔ c < e.length.toNat := by
    rw [Reading.Short, Reading.delivered, htaken, Nat.add_sub_cancel_left]
  refine ⟨by omega, ?_, ?_⟩
  · rw [List.forall_mem_append, ← h.drained, List.forall_mem_singleton, hshort]
    omega
  · have hlast : e.Attributed fw ↔ ∀ e' ∈ log, e'.Short → e.Short := by
      rw [hatt, h.drained, hshort]
      apply Iff.intro
      · intro hall e' he' hshort'
        by_contra hfull
        exact hall (by omega) e' he' hshort'
      · intro hall hfull e' he' hshort'
        have := hall e' he' hshort'
        omega
    rw [List.forall_mem_append, List.forall_mem_singleton, List.pairwise_append, h.attributed, hlast]
    simp only [List.pairwise_singleton, List.mem_singleton, forall_eq, true_and]

/-- The Tic after the request for a register. -/
theorem requested_getVariable (fw : Firmware) (offset : VarOffset) {n : UInt8} (hn : n.toNat < 64) (t : SerialTic) :
    (t.requested fw .getVariable offset.code n).ops = t.ops ++ [offset.read n.toNat] ∧
      (t.requested fw .getVariable offset.code n).sent.length = t.sent.length + n.toNat := by
  have hmod : n.toNat % 64 = n.toNat := Nat.mod_eq_of_lt hn
  rw [SerialTic.length_sent_requested, hmod]
  refine ⟨?_, rfl⟩
  show t.ops ++ [.segment .getVariable offset.code.toNat (n.toNat % 64)] = _
  rw [hmod]
  rfl

theorem late_reads (fw : Firmware) (found : Nat → Nat) :
    Reads (TicSerial.base (StreamBT.stream (serialTic fw found)) 255) Prod.snd (Late fw) := by
  intro log tic n u offset h0 hn hJ
  obtain ⟨lastError, product, b, t⟩ := tic
  have hcmd : TicCommand.getVariable.kind = .segment := rfl
  obtain ⟨hops, hsent⟩ := requested_getVariable fw offset hn t
  have hnext := SerialTic.next_requested fw .getVariable offset.code n (t := t)
  rw [Nat.mod_eq_of_lt hn] at hnext
  obtain ⟨c, r, hget, hle, htot⟩ := StreamBT.getSegment_fills fw found hcmd offset.code hn
    (length_buffer u offset n.toNat) lastError product b hJ.taken
  refine ⟨_, _, hget, hops, Late.snoc hJ hsent rfl hle ?_⟩
  by_cases hc : c = n.toNat
  · simp only [hc, if_true, Reading.Attributed, true_imp_iff]
    apply Iff.intro
    · intro hatt
      exact hatt.1
    · intro hdrained
      exact ⟨hdrained, rfl, hnext hdrained⟩
  · simp [hc, Reading.Attributed]

/-! ## StreamSerial -/

/-- Reads over `StreamSerial`: they own what they return as long as none is
    brought half of its bytes. -/
structure Doubled (fw : Firmware) (log : List Reading) (t : SerialTic) : Prop where
  taken : t.taken ≤ t.sent.length
  attributed : (∀ e ∈ log, e.Attributed fw) ↔ ∀ e ∈ log, 2 * e.delivered ≠ e.length.toNat

theorem doubled_reads (fw : Firmware) (found : Nat → Nat) (fd : Int) (fuel : Nat) :
    Reads (TicSerial.base (StreamSerial.stream (serialTic fw found) fd (5 * 63 + fuel)) 255) id (Doubled fw) := by
  intro log tic n u offset h0 hn hJ
  obtain ⟨lastError, product, t⟩ := tic
  have htaken : t.taken ≤ t.sent.length := hJ.taken
  have hcmd : TicCommand.getVariable.kind = .segment := rfl
  obtain ⟨hops, hsent⟩ := requested_getVariable fw offset hn t
  have hfuel : 5 * (n.toNat % 64) ≤ 5 * 63 + fuel := by omega
  obtain ⟨c, r, buffer, hget, htot⟩ := StreamSerial.getSegment_link fw found fd hcmd offset.code n hfuel
    (u.buffer offset n.toNat) lastError product htaken
  rw [Nat.mod_eq_of_lt hn] at hget htot
  refine ⟨_, _, hget, hops, ?_, ?_⟩
  · show t.taken + c ≤ (t.requested fw .getVariable offset.code n).sent.length
    rw [hsent]
    exact htot
  · rw [List.forall_mem_append, List.forall_mem_append, hJ.attributed, List.forall_mem_singleton,
      List.forall_mem_singleton]
    apply and_congr_right'
    have hdelivered : t.taken + c - t.taken = c := Nat.add_sub_cancel_left ..
    by_cases hc : 2 * c = n.toNat
    · have htook : t.taken + c ≠ t.taken + n.toNat := by omega
      apply Iff.intro
      · intro hatt
        exact absurd (hatt (if_pos hc)).2.1 htook
      · intro hne
        have hhalf : 2 * (t.taken + c - t.taken) = n.toNat := by rw [hdelivered, hc]
        exact absurd hhalf hne
    · apply Iff.intro
      · intro _ hhalf
        have hhalf' : 2 * (t.taken + c - t.taken) = n.toNat := hhalf
        rw [hdelivered] at hhalf'
        exact hc hhalf'
      · intro _ herr
        have hfifty : (50 : UInt8) = 0 := (if_neg hc).symm.trans herr
        exact absurd hfifty (by decide)

/-! ## Replies and requests -/

/-- **Replies are attributed to their requests**, over any number of polls of a
    Tic whose replies come in order and arbitrarily late: over `StreamBT` if and
    only if no read is brought all its bytes after one that was not; over
    `StreamSerial` if and only if no read is brought half of its bytes. -/
theorem replies_attributed_iff (fw : Firmware) (found : Nat → Nat) (product : TicProduct) (us : List Uninit) :
    (∀ b : StreamBT, ∃ polls i,
      pollAll (TicSerial.base (StreamBT.stream (serialTic fw found)) 255) Prod.snd us
        ⟨{ product, io := ([], b, {}) }, ""⟩ = some (polls, i) ∧
      (Owned fw i.ticBase.io.1 polls ↔ i.ticBase.io.1.Pairwise fun e e' => e.Short → e'.Short)) ∧
    (∀ (fd : Int) (fuel : Nat), ∃ polls i,
      pollAll (TicSerial.base (StreamSerial.stream (serialTic fw found) fd (5 * 63 + fuel)) 255) id us
        ⟨{ product, io := ([], {}) }, ""⟩ = some (polls, i) ∧
      (Owned fw i.ticBase.io.1 polls ↔ ∀ e ∈ i.ticBase.io.1, 2 * e.delivered ≠ e.length.toNat)) := by
  apply And.intro
  · intro b
    have hfresh : Late fw [] ({} : SerialTic) := ⟨Nat.le_refl 0, by simp, by simp⟩
    exact (late_reads fw found).owned_iff Late.attributed us hfresh rfl
  · intro fd fuel
    have hfresh : Doubled fw [] ({} : SerialTic) := ⟨Nat.le_refl 0, by simp⟩
    exact (doubled_reads fw found fd fuel).owned_iff Doubled.attributed us hfresh rfl

/-- Replies of a Tic whose registers hold their own offset, all of them late at
    first: the second poll takes the reply of the first for its target position,
    and the target position for the current one. -/
theorem late_target_position :
    ∃ polls i, pollAll (TicSerial.base (StreamBT.stream
        (serialTic (fun _ _ k => UInt8.ofNat k) fun k => if k < 5 then 0 else 100)) 255) Prod.snd
        [fun _ _ => 0, fun _ _ => 0] ⟨{ io := ([], {}, {}) }, ""⟩ = some (polls, i) ∧
      ¬ Owned (fun _ _ k => UInt8.ofNat k) i.ticBase.io.1 polls ∧
      ∃ p ∈ polls, ¬ p.Honest fun _ _ k => UInt8.ofNat k :=
  ⟨_, _, rfl, by decide, by decide⟩

end TicFocuserNG
