import TicFocuserNG.Streams

/- `StreamBT::readBytes`, over any outcomes of `::read` and of the `reconnect`s in
   between.

     1. `reads_readLoop`: the calls the loop makes (`readCalls`) are those in the list
        of system calls.
     2. `StreamBT.readLoop_exact`: every turn keeps the count, the buffer and the
        counter what the outcomes so far make of them (`Exact`).
     3. `read_exactly`: `readBytes` returns what it read, wherever reads fail. -/
namespace TicFocuserNG

/-- The outcomes of the reads among system calls. -/
def reads (calls : List Syscall) : List (Option (List UInt8)) :=
  calls.filterMap fun c => match c with
    | .read _ bytes => some bytes
    | _ => none

/-- The bytes a read brought. -/
def brought (outcome : Option (List UInt8)) : List UInt8 := outcome.getD []

/-- The bytes of all of them, in order. -/
def delivered (outcomes : List (Option (List UInt8))) : List UInt8 := outcomes.flatMap brought

/-- The last `k` brought nothing. -/
def EndsVain (k : Nat) (outcomes : List (Option (List UInt8))) : Prop :=
  ∃ before last, outcomes = before ++ last ∧ last.length = k ∧ ∀ outcome ∈ last, brought outcome = []

/-- A call of `::read`: where in the buffer it is asked to write, and how many bytes. -/
structure ReadCall where
  offset : Nat
  count : Nat
  outcome : Option (List UInt8)
  deriving DecidableEq, Repr

theorem reads_append (calls calls' : List Syscall) : reads (calls ++ calls') = reads calls ++ reads calls' :=
  List.filterMap_append

theorem delivered_concat (outcomes : List (Option (List UInt8))) (outcome : Option (List UInt8)) :
    delivered (outcomes ++ [outcome]) = delivered outcomes ++ brought outcome := by
  rw [delivered, List.flatMap_append, List.flatMap_singleton, delivered]

theorem EndsVain.append {k : Nat} {outcomes : List (Option (List UInt8))} {outcome : Option (List UInt8)}
    (h : EndsVain k outcomes) (hvain : brought outcome = []) : EndsVain (k + 1) (outcomes ++ [outcome]) := by
  obtain ⟨before, last, rfl, hlen, hlast⟩ := h
  refine ⟨before, last ++ [outcome], List.append_assoc .., by rw [List.length_append, hlen]; rfl, ?_⟩
  intro o ho
  rcases List.mem_append.mp ho with hmem | hmem
  · exact hlast o hmem
  · rw [List.mem_singleton.mp hmem]
    exact hvain

/-- A read that brought something is among the last. -/
theorem not_endsVain {k : Nat} (outcomes : List (Option (List UInt8))) {outcome : Option (List UInt8)}
    (hne : brought outcome ≠ []) : ¬ EndsVain (k + 1) (outcomes ++ [outcome]) := by
  intro ⟨before, last, heq, hlen, hlast⟩
  have hlast' : last ≠ [] := List.ne_nil_of_length_eq_add_one hlen
  have hsame := congrArg List.getLast? heq
  rw [List.getLast?_append_of_ne_nil before hlast', List.getLast?_concat] at hsame
  exact hne (hlast outcome (List.mem_of_getLast? hsame.symm))

namespace StreamBT
variable {σ : Type} (os : Posix σ)

/-- The calls of `::read` that the loop of `readBytes` makes. -/
def readCalls (length : Nat) : (fuel readC numZeros : Nat) → StreamBT → σ → List ReadCall
  | 0, _, _, _, _ => []
  | fuel + 1, readC, numZeros, b, s =>
    if readC < length ∧ numZeros < 5 then
      match os.read b.btSocket (length - readC) s with
      | (none, s) =>
        let (_, b, s) := reconnect os b s
        ⟨readC, length - readC, none⟩ :: readCalls length fuel readC (numZeros + 1) b s
      | (some c, s) =>
        ⟨readC, length - readC, some c⟩ ::
          if 0 < c.val.length then readCalls length fuel (readC + c.val.length) 0 b s
          else readCalls length fuel readC (numZeros + 1) b s
    else []

/-- No read is asked to write outside the buffer. -/
theorem readCalls_inside (length fuel readC numZeros : Nat) (b : StreamBT) (s : σ) :
    ∀ c ∈ readCalls os length fuel readC numZeros b s, c.offset + c.count = length := by
  induction fuel generalizing readC numZeros b s with
  | zero => simp [readCalls]
  | succ fuel ih =>
    rw [readCalls]
    split
    · next hgo =>
      have hhere : readC + (length - readC) = length := by omega
      rcases os.read b.btSocket (length - readC) s with ⟨_ | c, s'⟩
      · simp only [List.mem_cons, forall_eq_or_imp]
        exact ⟨hhere, ih _ _ _ _⟩
      · simp only [List.mem_cons, forall_eq_or_imp]
        refine ⟨hhere, ?_⟩
        split
        · exact ih _ _ _ _
        · exact ih _ _ _ _
    · simp

theorem length_readCalls (length fuel readC numZeros : Nat) (b : StreamBT) (s : σ) :
    (readCalls os length fuel readC numZeros b s).length ≤ fuel := by
  induction fuel generalizing readC numZeros b s with
  | zero => simp [readCalls]
  | succ fuel ih =>
    rw [readCalls]
    split
    · rcases os.read b.btSocket (length - readC) s with ⟨_ | c, s'⟩
      · exact Nat.succ_le_succ (ih _ _ _ _)
      · simp only [List.length_cons]
        split
        · exact Nat.succ_le_succ (ih _ _ _ _)
        · exact Nat.succ_le_succ (ih _ _ _ _)
    · exact Nat.zero_le _

/-- The outcome of a read joins those before. -/
theorem reads_read {fd : Int} {n : Nat} {s s' : List Syscall × σ} {r : Option { bs : List UInt8 // bs.length ≤ n }}
    (h : os.traced.read fd n s = (r, s')) : reads s'.1 = reads s.1 ++ [r.map Subtype.val] := by
  rw [traced_read, Prod.mk.injEq] at h
  obtain ⟨hr, hs⟩ := h
  rw [← hs, ← hr, reads_append]
  rfl

/-- A `reconnect` reads nothing. -/
theorem reads_reconnect (b : StreamBT) (s : List Syscall × σ) :
    reads (reconnect os.traced b s).2.2.1 = reads s.1 := by
  have hkeep : Keeping os.traced fun s' => reads s'.1 = reads s.1 := by
    constructor <;> intros <;> simp_all [reads]
  exact hkeep.reconnect b rfl

/-- They are the reads among the system calls. -/
theorem reads_readLoop {length fuel readC numZeros n : Nat} {buffer buffer' : List UInt8} {b b' : StreamBT}
    {s s' : List Syscall × σ}
    (h : readLoop os.traced length fuel readC numZeros buffer b s = some (n, buffer', b', s')) :
    reads s'.1 = reads s.1 ++ (readCalls os.traced length fuel readC numZeros b s).map ReadCall.outcome := by
  induction fuel generalizing readC numZeros buffer b s with
  | zero =>
    rw [readLoop] at h
    split at h
    · cases h
    · cases h
      rw [readCalls, List.map_nil, List.append_nil]
  | succ fuel ih =>
    rw [readLoop] at h
    rw [readCalls]
    split at h
    · next hgo =>
      rw [if_pos hgo]
      rw [traced_read] at h ⊢
      rcases hr : os.read b.btSocket (length - readC) s.2 with ⟨_ | c, s''⟩
      · simp only [hr] at h ⊢
        rw [ih h, reads_reconnect, reads_append, List.map_cons, List.append_assoc]
        rfl
      · simp only [hr] at h ⊢
        split at h
        · next hc =>
          rw [if_pos hc, ih h, reads_append, List.map_cons, List.append_assoc]
          rfl
        · next hc =>
          rw [if_neg hc, ih h, reads_append, List.map_cons, List.append_assoc]
          rfl
    · next hend =>
      cases h
      rw [if_neg hend, List.map_nil, List.append_nil]

/-- The count, the buffer and the counter of the loop, from the outcomes so far. -/
structure Exact (length : Nat) (start : List UInt8) (readC numZeros : Nat) (buffer : List UInt8)
    (outs : List (Option (List UInt8))) : Prop where
  count : readC = (delivered outs).length
  fits : readC ≤ length
  filled : buffer = poke start 0 (delivered outs)
  five : numZeros ≤ 5
  vain : EndsVain numZeros outs
  pending : 0 < numZeros → readC < length
  fresh : numZeros = 0 → ∀ k, ¬ EndsVain (k + 1) outs

variable {length readC numZeros : Nat} {start buffer : List UInt8} {outs : List (Option (List UInt8))}

theorem Exact.initial (length : Nat) (buffer : List UInt8) : Exact length buffer 0 0 buffer [] where
  count := rfl
  fits := Nat.zero_le _
  filled := by simp [poke, delivered]
  five := Nat.zero_le _
  vain := ⟨[], [], rfl, rfl, by simp⟩
  pending := fun h => absurd h (Nat.lt_irrefl 0)
  fresh := by
    intro _ k hvain
    obtain ⟨before, last, heq, hlen, -⟩ := hvain
    have hnil := (List.append_eq_nil_iff.mp heq.symm).2
    rw [hnil] at hlen
    cases hlen

/-- A read in vain, failed or empty. -/
theorem Exact.idle {outcome : Option (List UInt8)} (h : Exact length start readC numZeros buffer outs)
    (hlt : readC < length) (hfive : numZeros < 5) (hvain : brought outcome = []) :
    Exact length start readC (numZeros + 1) buffer (outs ++ [outcome]) := by
  have hsame : delivered (outs ++ [outcome]) = delivered outs := by
    rw [delivered_concat, hvain, List.append_nil]
  exact {
    count := by rw [hsame, h.count]
    fits := h.fits
    filled := by rw [hsame, h.filled]
    five := hfive
    vain := h.vain.append hvain
    pending := fun _ => hlt
    fresh := fun hzero => absurd hzero (Nat.succ_ne_zero _) }

/-- A read that brings a chunk, which goes behind those before it. -/
theorem Exact.more {chunk : List UInt8} (h : Exact length start readC numZeros buffer outs) (hlt : readC < length)
    (hne : chunk ≠ []) (hfit : chunk.length ≤ length - readC) :
    Exact length start (readC + chunk.length) 0 (poke buffer readC chunk) (outs ++ [some chunk]) := by
  have hmore : delivered (outs ++ [some chunk]) = delivered outs ++ chunk := delivered_concat outs (some chunk)
  have hfilled : poke buffer readC chunk = poke start 0 (delivered outs ++ chunk) := by
    rw [h.filled, h.count, ← poke_poke (Nat.zero_le start.length) chunk, Nat.zero_add]
  exact {
    count := by rw [hmore, List.length_append, h.count]
    fits := by omega
    filled := by rw [hmore, hfilled]
    five := Nat.zero_le _
    vain := ⟨outs ++ [some chunk], [], (List.append_nil _).symm, rfl, by simp⟩
    pending := fun hpos => absurd hpos (Nat.lt_irrefl 0)
    fresh := fun _ _ => not_endsVain outs hne }

theorem Exact.front (h : Exact length start readC numZeros buffer outs) : buffer.take readC = delivered outs := by
  rw [h.filled, h.count, poke, List.take_zero, List.nil_append, List.take_left]

/-- The loop adds the outcomes of its reads to those before. -/
theorem readLoop_exact {fuel : Nat} {b : StreamBT} {s : List Syscall × σ}
    {out : Nat × List UInt8 × StreamBT × List Syscall × σ}
    (h : readLoop os.traced length fuel 0 0 buffer b s = some out) :
    ∃ numZeros outs, reads out.2.2.2.1 = reads s.1 ++ outs ∧ Exact length buffer out.1 numZeros out.2.1 outs ∧
      ¬ (out.1 < length ∧ numZeros < 5) := by
  suffices hrun : ∃ numZeros, (∃ outs, reads out.2.2.2.1 = reads s.1 ++ outs ∧
      Exact length buffer out.1 numZeros out.2.1 outs) ∧ ¬ (out.1 < length ∧ numZeros < 5) by
    obtain ⟨numZeros, ⟨outs, hreads, hI⟩, hend⟩ := hrun
    exact ⟨numZeros, outs, hreads, hI, hend⟩
  refine readLoop_run (I := fun readC numZeros buffer' _ s' => ∃ outs, reads s'.1 = reads s.1 ++ outs ∧
    Exact length buffer readC numZeros buffer' outs) ?_ ?_ ?_ h ?_
  · intro readC numZeros buffer' b s₁ s₂ ⟨outs, hreads, hI⟩ hlt hfive hr
    refine ⟨outs ++ [none], ?_, hI.idle hlt hfive rfl⟩
    rw [reads_reconnect, reads_read os hr, hreads, List.append_assoc]
    rfl
  · intro readC numZeros buffer' b s₁ s₂ c ⟨outs, hreads, hI⟩ hlt hfive hr hempty
    refine ⟨outs ++ [some c.val], ?_, hI.idle hlt hfive hempty⟩
    rw [reads_read os hr, hreads, List.append_assoc]
    rfl
  · intro readC numZeros buffer' b s₁ s₂ c ⟨outs, hreads, hI⟩ hlt _ hr hne
    refine ⟨outs ++ [some c.val], ?_, hI.more hlt hne c.property⟩
    rw [reads_read os hr, hreads, List.append_assoc]
    rfl
  · exact ⟨[], (List.append_nil _).symm, Exact.initial length buffer⟩

/-- The loop ends short exactly after five reads in vain. -/
theorem Exact.short_iff (h : Exact length start readC numZeros buffer outs) (hend : ¬ (readC < length ∧ numZeros < 5)) :
    readC < length ↔ EndsVain 5 outs := by
  apply Iff.intro
  · intro hlt
    have hfive := h.five
    have hnum : numZeros = 5 := by omega
    rw [← hnum]
    exact h.vain
  · intro hvain
    by_contra hge
    have hzero : numZeros = 0 := Nat.eq_zero_of_not_pos (mt h.pending hge)
    exact h.fresh hzero 4 hvain

end StreamBT

open StreamBT in
/-- **Reads are exact**, for every length, and over any system. -/
theorem read_exactly {σ : Type} (os : Posix σ) (b : StreamBT) (s : σ) (buffer : List UInt8) (length : Nat) :
    ∃ n buffer' b' calls s', StreamBT.readBytes os.traced buffer length (b, [], s) = some (n, buffer', b', calls, s') ∧
      (readCalls os.traced length (5 * length) 0 0 b ([], s)).map ReadCall.outcome = reads calls ∧
      (∀ c ∈ readCalls os.traced length (5 * length) 0 0 b ([], s), c.offset + c.count ≤ length) ∧
      n = (delivered (reads calls)).length ∧ n ≤ length ∧ buffer'.take n = delivered (reads calls) ∧
      (n < length ↔ EndsVain 5 (reads calls)) := by
  obtain ⟨⟨n, buffer', b', calls, s'⟩, hret⟩ := StreamBT.readBytes_returns os.traced buffer length (b, [], s)
  obtain ⟨numZeros, outs, houts, hI, hend⟩ := readLoop_exact os hret
  obtain rfl : outs = reads calls := houts.symm
  have hcalls := reads_readLoop os hret
  refine ⟨n, buffer', b', calls, s', hret, hcalls.symm, ?_, hI.count, hI.fits, hI.front, hI.short_iff hend⟩
  intro c hc
  exact Nat.le_of_eq (readCalls_inside os.traced length (5 * length) 0 0 b ([], s) c hc)

end TicFocuserNG
