import TicFocuserNG.BtReads

/- Whether the read loops end, for every infinite sequence of outcomes of `::read`.

   `StreamBT` counts a read in vain and nothing else, so that it ends within five
   reads a byte. `StreamSerial` stores the result of `::read` in an unsigned variable
   and adds it twice: a failed read takes two off the count, and resets the counter of
   empty reads like one that brought something.

     1. `StreamSerial.readLoop_turn`: the count and the counter are those of the
        outcomes so far (`counted`, `idle`).
     2. `read_loops_end_iff`: both loops end within `5 * length` reads exactly when
        the count reaches `length`, or five reads in a row are empty, among these.
     3. `serial_hangs`: a sequence over which `StreamSerial::readBytes` never returns.
     4. `serial_ends_of_read`, `serial_always_ends_iff`: it ends in time where no read
        fails, and over every sequence only for up to two bytes. -/
namespace TicFocuserNG

/-- A system whose `k`-th `::read` has the outcome `outs k`, as far as asked for.
    The state counts the reads. -/
def Posix.replaying (outs : Nat → Option (List UInt8)) : Posix Nat where
  read _ n k := ((outs k).map fun bs => ⟨bs.take n, List.length_take_le n bs⟩, k + 1)
  write _ _ s := (1, s)
  socket s := (none, s)
  setsockopt _ _ s := (0, s)
  bind _ s := (0, s)
  connect _ _ s := (0, s)
  close _ s := s

namespace Posix.replaying

/-- The bytes the first `k` reads bring, less those of the reads that fail. -/
def net (outs : Nat → Option (List UInt8)) : Nat → Int
  | 0 => 0
  | k + 1 => net outs k + match outs k with
    | none => -1
    | some bs => bs.length

/-- Twice that, as a `size_t`. -/
def counted (outs : Nat → Option (List UInt8)) (k : Nat) : Nat := toSize (2 * net outs k)

/-- The empty reads in a row before the `k`-th. -/
def idle (outs : Nat → Option (List UInt8)) : Nat → Nat
  | 0 => 0
  | k + 1 => if outs k = some [] then idle outs k + 1 else 0

/-- After `k` reads, the count has reached `length`, or five reads were empty. -/
def Over (outs : Nat → Option (List UInt8)) (length k : Nat) : Prop :=
  length ≤ counted outs k ∨ 5 ≤ idle outs k

/-- The loop makes its first `k` reads. -/
def Live (outs : Nat → Option (List UInt8)) (length k : Nat) : Prop := ∀ j < k, ¬ Over outs length j

/-- No read that is made brings more than it is asked for. -/
def Fits (outs : Nat → Option (List UInt8)) (length : Nat) : Prop :=
  ∀ k bs, outs k = some bs → Live outs length (k + 1) → bs.length ≤ length - counted outs k

instance (outs : Nat → Option (List UInt8)) (length k : Nat) : Decidable (Over outs length k) :=
  inferInstanceAs (Decidable (_ ∨ _))

variable {outs : Nat → Option (List UInt8)} {length k : Nat}

theorem Live.succ (h : Live outs length k) (hk : ¬ Over outs length k) : Live outs length (k + 1) := by
  intro j hj
  rcases Nat.lt_succ_iff_lt_or_eq.mp hj with hlt | heq
  · exact h j hlt
  · rwa [heq]

theorem counted_lt (outs : Nat → Option (List UInt8)) (k : Nat) : counted outs k < 2 ^ 64 := by
  rw [counted, toSize]
  omega

theorem counted_failed (h : outs k = none) : counted outs (k + 1) = (counted outs k + 2 ^ 64 - 2) % 2 ^ 64 := by
  simp only [counted, toSize, net, h]
  omega

theorem counted_brought {bs : List UInt8} (h : outs k = some bs) :
    counted outs (k + 1) = (counted outs k + 2 * bs.length) % 2 ^ 64 := by
  simp only [counted, toSize, net, h]
  omega

end Posix.replaying

open Posix.replaying

namespace StreamSerial
variable {outs : Nat → Option (List UInt8)} {fd : Int} {length fuel k : Nat} {buffer : List UInt8}

/-! The loop, after `k` reads. -/

theorem readLoop_over (h : Over outs length k) :
    readLoop (.replaying outs) fd length fuel (counted outs k) (idle outs k) buffer k =
      some (counted outs k, buffer, k) := by
  have hend : ¬ (counted outs k < length ∧ idle outs k < 5) := by
    rw [Over] at h
    omega
  cases fuel <;> rw [readLoop, if_neg hend]

theorem readLoop_turn (fd : Int) (fuel : Nat) (buffer : List UInt8) (hfit : Fits outs length)
    (hlive : Live outs length (k + 1)) :
    ∃ buffer', readLoop (.replaying outs) fd length (fuel + 1) (counted outs k) (idle outs k) buffer k =
      readLoop (.replaying outs) fd length fuel (counted outs (k + 1)) (idle outs (k + 1)) buffer' (k + 1) := by
  have hgo : counted outs k < length ∧ idle outs k < 5 := by
    have h := hlive k (Nat.lt_succ_self k)
    rw [Over] at h
    omega
  have hlt := counted_lt outs k
  rw [readLoop, if_pos hgo]
  cases hout : outs k with
  | none =>
    have hcount : ((counted outs k + (2 ^ 64 - 1)) % 2 ^ 64 + (2 ^ 64 - 1)) % 2 ^ 64 = counted outs (k + 1) := by
      rw [counted_failed hout]
      omega
    have hidle : idle outs (k + 1) = 0 := by simp [idle, hout]
    have hpos : 0 < 2 ^ 64 - 1 := by omega
    refine ⟨buffer, ?_⟩
    simp only [Posix.replaying, hout, Option.map_none, hpos, if_true, hcount, hidle]
  | some bs =>
    have htake : bs.take (length - counted outs k) = bs := List.take_of_length_le (hfit k bs hout hlive)
    refine ⟨poke buffer (counted outs k) bs, ?_⟩
    by_cases hbs : bs = []
    · have hzero : bs.length = 0 := by rw [hbs, List.length_nil]
      have hcount : (counted outs k + 0) % 2 ^ 64 = counted outs (k + 1) := by rw [counted_brought hout, hzero]
      have hidle : idle outs (k + 1) = idle outs k + 1 := by simp [idle, hout, hbs]
      simp only [Posix.replaying, hout, Option.map_some, htake, hzero, Nat.lt_irrefl, if_false, hcount, hidle]
    · have hpos : 0 < bs.length := List.length_pos_iff.mpr hbs
      have hcount : ((counted outs k + bs.length) % 2 ^ 64 + bs.length) % 2 ^ 64 = counted outs (k + 1) := by
        rw [counted_brought hout]
        omega
      have hidle : idle outs (k + 1) = 0 := by simp [idle, hout, hbs]
      simp only [Posix.replaying, hout, Option.map_some, htake, hpos, if_true, hcount, hidle]

/-- It stops only where it is over. -/
theorem readLoop_stops (hfit : Fits outs length) (hlive : Live outs length k) {n k' : Nat} {buffer' : List UInt8}
    (h : readLoop (.replaying outs) fd length fuel (counted outs k) (idle outs k) buffer k = some (n, buffer', k')) :
    Over outs length k' := by
  induction fuel generalizing k buffer with
  | zero =>
    rw [readLoop] at h
    split at h
    · cases h
    · next hend =>
      cases h
      rw [Over]
      omega
  | succ fuel ih =>
    by_cases hover : Over outs length k
    · rw [readLoop_over hover] at h
      cases h
      exact hover
    · obtain ⟨buffer'', hturn⟩ := readLoop_turn fd fuel buffer hfit (hlive.succ hover)
      rw [hturn] at h
      exact ih (hlive.succ hover) h

/-- Where it is over after `m` reads, it makes no more than these. -/
theorem readLoop_ends (fd : Int) (fuel : Nat) (buffer : List UInt8) {m : Nat} (hfit : Fits outs length)
    (hlive : Live outs length k) (hk : k ≤ m) (hover : Over outs length m) (hfuel : m ≤ k + fuel) :
    ∃ n buffer' k', readLoop (.replaying outs) fd length fuel (counted outs k) (idle outs k) buffer k =
      some (n, buffer', k') ∧ k' ≤ m := by
  induction fuel generalizing k buffer with
  | zero =>
    have hsame : k = m := by omega
    rw [hsame]
    exact ⟨_, _, _, readLoop_over hover, Nat.le_refl m⟩
  | succ fuel ih =>
    by_cases hhere : Over outs length k
    · exact ⟨_, _, _, readLoop_over hhere, hk⟩
    · obtain ⟨buffer'', hturn⟩ := readLoop_turn fd fuel buffer hfit (hlive.succ hhere)
      have hne : k ≠ m := by
        intro heq
        rw [heq] at hhere
        exact hhere hover
      rw [hturn]
      exact ih buffer'' (hlive.succ hhere) (by omega) (by omega)

/-- `readBytes` returns, having made `m` reads at most. -/
def EndsWithin (outs : Nat → Option (List UInt8)) (length m : Nat) : Prop :=
  ∀ fd buffer, ∃ fuel n buffer' k, readBytes (.replaying outs) fd fuel buffer length 0 = some (n, buffer', k) ∧ k ≤ m

theorem endsWithin_iff (hfit : Fits outs length) (m : Nat) : EndsWithin outs length m ↔ ∃ k ≤ m, Over outs length k := by
  have hlive : Live outs length 0 := fun j hj => absurd hj (Nat.not_lt_zero j)
  apply Iff.intro
  · intro h
    obtain ⟨fuel, n, buffer', k, hret, hk⟩ := h 0 []
    exact ⟨k, hk, readLoop_stops hfit hlive hret⟩
  · intro ⟨k, hk, hover⟩ fd buffer
    obtain ⟨n, buffer', k', hret, hk'⟩ := readLoop_ends fd k buffer hfit hlive (Nat.zero_le k) hover (by omega)
    exact ⟨k, n, buffer', k', hret, Nat.le_trans hk' hk⟩

end StreamSerial

/-- `readBytes` returns, having made `m` reads at most, over any system. -/
def StreamBT.EndsWithin (length m : Nat) : Prop :=
  ∀ (σ : Type) (os : Posix σ) (b : StreamBT) (s : σ) (buffer : List UInt8), ∃ n buffer' b' calls s',
    readBytes os.traced buffer length (b, [], s) = some (n, buffer', b', calls, s') ∧ (reads calls).length ≤ m

theorem StreamBT.endsWithin (length : Nat) : EndsWithin length (5 * length) := by
  intro σ os b s buffer
  obtain ⟨⟨n, buffer', b', calls, s'⟩, hret⟩ := readBytes_returns os.traced buffer length (b, [], s)
  refine ⟨n, buffer', b', calls, s', hret, ?_⟩
  have hreads : reads calls = _ := reads_readLoop os hret
  rw [hreads, reads, List.filterMap_nil, List.nil_append, List.length_map]
  exact length_readCalls os.traced length (5 * length) 0 0 b ([], s)

/-- **The read loops end**, both, for every sequence of outcomes. -/
theorem read_loops_end_iff (outs : Nat → Option (List UInt8)) (length : Nat) (hfit : Fits outs length) :
    StreamSerial.EndsWithin outs length (5 * length) ∧ StreamBT.EndsWithin length (5 * length) ↔
      ∃ k ≤ 5 * length, Over outs length k := by
  rw [StreamSerial.endsWithin_iff hfit]
  exact and_iff_left (StreamBT.endsWithin length)

/-- A byte, a failure, an empty read, and two bytes whenever it is asked again. -/
def interrupted : Nat → Option (List UInt8)
  | 0 => some [7]
  | 1 => none
  | 2 => some []
  | _ => some [8, 9]

/-- The failure takes back what the byte before it added, and the two bytes count as the
    four that are asked for. -/
theorem read_loops_end_interrupted :
    Fits interrupted 4 ∧ StreamSerial.EndsWithin interrupted 4 (5 * 4) ∧ StreamBT.EndsWithin 4 (5 * 4) := by
  have hfit : Fits interrupted 4 := by
    intro k bs hbs hlive
    rcases k with _ | _ | _ | _ | k
    · cases hbs
      decide
    · cases hbs
    · cases hbs
      decide
    · cases hbs
      decide
    · exact absurd (.inl (by decide)) (hlive 4 (by omega))
  exact ⟨hfit, (read_loops_end_iff interrupted 4 hfit).mpr ⟨4, by decide, by decide⟩⟩

/-! ## A sequence that does not end -/

/-- A byte, and a failure, and so on. -/
def alternating (k : Nat) : Option (List UInt8) := if k % 2 = 0 then some [7] else none

/-- Each failure takes back what the byte before it added. -/
theorem net_alternating (k : Nat) : net alternating k = (k % 2 : Nat) := by
  induction k with
  | zero => rfl
  | succ k ih =>
    rw [net, ih, alternating]
    by_cases hk : k % 2 = 0
    · have hone : (([7] : List UInt8).length : Int) = 1 := rfl
      simp only [hk, if_true, hone]
      omega
    · simp only [hk, if_false]
      omega

theorem idle_alternating (k : Nat) : idle alternating k = 0 := by
  cases k with
  | zero => rfl
  | succ k =>
    rw [idle, alternating]
    by_cases hk : k % 2 = 0
    · simp [hk]
    · simp [hk]

theorem not_over_alternating {length : Nat} (hlen : 2 < length) (k : Nat) : ¬ Over alternating length k := by
  rw [Over, counted, net_alternating, idle_alternating, toSize]
  omega

theorem fits_alternating {length : Nat} (hlen : 2 < length) : Fits alternating length := by
  intro k bs hbs _
  rw [alternating] at hbs
  by_cases hk : k % 2 = 0
  · rw [if_pos hk, Option.some.injEq] at hbs
    rw [← hbs, counted, net_alternating, hk, List.length_singleton]
    exact Nat.sub_pos_of_lt (by rw [toSize]; omega)
  · rw [if_neg hk] at hbs
    cases hbs

/-- **A hang.** The loop for a register of four bytes never returns. -/
theorem serial_hangs :
    Fits alternating 4 ∧
    (∀ fd fuel buffer, StreamSerial.readBytes (.replaying alternating) fd fuel buffer 4 0 = none) ∧
    ¬ (StreamSerial.EndsWithin alternating 4 (5 * 4) ∧ StreamBT.EndsWithin 4 (5 * 4)) := by
  have hfit : Fits alternating 4 := fits_alternating (by decide)
  have hlive : Live alternating 4 0 := fun j hj => absurd hj (Nat.not_lt_zero j)
  have hnone : ∀ fd fuel buffer, StreamSerial.readBytes (.replaying alternating) fd fuel buffer 4 0 = none := by
    intro fd fuel buffer
    rw [Option.eq_none_iff_forall_ne_some]
    intro ⟨n, buffer', k⟩ hret
    exact not_over_alternating (by decide) k (StreamSerial.readLoop_stops hfit hlive hret)
  refine ⟨hfit, hnone, ?_⟩
  intro ⟨hserial, _⟩
  obtain ⟨fuel, n, buffer', k, hret, -⟩ := hserial 0 []
  rw [hnone] at hret
  cases hret

/-! ## Reads that do not fail, and short buffers -/

/-- Five reads for each byte at most, the count going up with every one that brings
    something. -/
theorem five_a_byte {outs : Nat → Option (List UInt8)} {length m : Nat} (hfit : Fits outs length) (hlen : length < 2 ^ 63)
    (hread : ∀ k, outs k ≠ none) (hnever : ∀ k ≤ m, ¬ Over outs length k) {k : Nat} (hk : k ≤ m) :
    0 ≤ net outs k ∧ 2 * net outs k < length ∧ k ≤ 5 * net outs k + idle outs k ∧ idle outs k < 5 := by
  have hgo : ∀ k ≤ m, counted outs k < length ∧ idle outs k < 5 := by
    intro k hk
    have h := hnever k hk
    rw [Over] at h
    omega
  induction k with
  | zero =>
    have h := (hgo 0 hk).1
    rw [net, idle]
    omega
  | succ k ih =>
    obtain ⟨hnet, hlt, hfive, hrun⟩ := ih (by omega)
    obtain ⟨hlt', hrun'⟩ := hgo (k + 1) hk
    have hcount : counted outs k = 2 * net outs k := by
      rw [counted, toSize]
      omega
    cases hout : outs k with
    | none => exact absurd hout (hread k)
    | some bs =>
      have hbs := hfit k bs hout fun j hj => hnever j (by omega)
      have hnet' : net outs (k + 1) = net outs k + bs.length := by simp only [net, hout]
      rw [counted_brought hout] at hlt'
      by_cases hempty : bs = []
      · have hidle : idle outs (k + 1) = idle outs k + 1 := by simp [idle, hout, hempty]
        have hzero : bs.length = 0 := by rw [hempty, List.length_nil]
        omega
      · have hidle : idle outs (k + 1) = 0 := by simp [idle, hout, hempty]
        have hpos : 0 < bs.length := List.length_pos_iff.mpr hempty
        omega

/-- Where no read fails, `StreamSerial` ends in time as `StreamBT` does. -/
theorem serial_ends_of_read {outs : Nat → Option (List UInt8)} {length : Nat} (hfit : Fits outs length)
    (hlen : length < 2 ^ 63) (hread : ∀ k, outs k ≠ none) : StreamSerial.EndsWithin outs length (5 * length) := by
  rw [StreamSerial.endsWithin_iff hfit]
  by_contra hnone
  have hnever : ∀ k ≤ 5 * length, ¬ Over outs length k := fun k hk hover => hnone ⟨k, hk, hover⟩
  obtain ⟨hnet, hlt, hfive, hrun⟩ := five_a_byte hfit hlen hread hnever (Nat.le_refl (5 * length))
  omega

/-- A loop for at most two bytes is over with the first read that is not empty. -/
theorem over_first {outs : Nat → Option (List UInt8)} {length k : Nat} (hfit : Fits outs length) (hlen : length ≤ 2)
    (hlive : Live outs length (k + 1)) (hnet : net outs k = 0) (hk : outs k ≠ some []) : Over outs length (k + 1) := by
  left
  have hzero : counted outs k = 0 := by
    rw [counted, hnet]
    rfl
  cases hout : outs k with
  | none =>
    rw [counted_failed hout, hzero]
    omega
  | some bs =>
    have hbs := hfit k bs hout hlive
    have hpos : bs.length ≠ 0 := by
      intro hnil
      rw [hout, List.eq_nil_of_length_eq_zero hnil] at hk
      exact hk rfl
    rw [counted_brought hout, hzero]
    omega

/-- `StreamSerial` ends in time whatever the reads come to only where it is to read
    no more than two bytes. -/
theorem serial_always_ends_iff (length : Nat) :
    (∀ outs, Fits outs length → StreamSerial.EndsWithin outs length (5 * length)) ↔ length ≤ 2 := by
  apply Iff.intro
  · intro h
    by_contra hlen
    have hlen' : 2 < length := Nat.lt_of_not_le hlen
    have hends := h alternating (fits_alternating hlen')
    rw [StreamSerial.endsWithin_iff (fits_alternating hlen')] at hends
    obtain ⟨k, -, hover⟩ := hends
    exact not_over_alternating hlen' k hover
  · intro hlen outs hfit
    rw [StreamSerial.endsWithin_iff hfit]
    by_contra hnone
    have hnever : ∀ k ≤ 5 * length, ¬ Over outs length k := fun k hk hover => hnone ⟨k, hk, hover⟩
    have hpos : 0 < length := Nat.pos_of_ne_zero fun hzero => hnever 0 (Nat.zero_le _) (.inl (by omega))
    -- so all of the first five reads are empty, and the loop is over
    have hidle : ∀ k ≤ 5, net outs k = 0 ∧ idle outs k = k := by
      intro k
      induction k with
      | zero => exact fun _ => ⟨rfl, rfl⟩
      | succ k ih =>
        intro hk
        obtain ⟨hnet, hrun⟩ := ih (by omega)
        have hempty : outs k = some [] := by
          by_contra hne
          exact hnever (k + 1) (by omega) (over_first hfit hlen (fun j hj => hnever j (by omega)) hnet hne)
        simp [net, idle, hempty, hnet, hrun]
    exact hnever 5 (by omega) (.inr (Nat.le_of_eq (hidle 5 (Nat.le_refl 5)).2.symm))

end TicFocuserNG
