import TicFocuserNG.Frames

/- `StreamSerial::readBytes`, and `getSegment` of `TicSerial` over it, on a serial
   line that does not fail.

   The loop adds what a read brought to its counter twice (`Tally`), so that the
   counter is offset, remaining length and result of twice the bytes there are.
   `serial_reads_iff`: what `readBytes` returns is what it read exactly when nothing
   was asked for or nothing came; and `getSegment` reports success exactly when all
   the bytes arrived unless the line brings half of them, or all of them at once. -/
namespace TicFocuserNG

/-- A serial line whose `k`-th `::read` brings `chunks k`, as far as asked for.
    The state lists what the reads brought. -/
def Posix.delivering (chunks : Nat → List UInt8) : Posix (List (List UInt8)) where
  read _ n s := (some ⟨(chunks s.length).take n, List.length_take_le n _⟩, s ++ [(chunks s.length).take n])
  write _ _ s := (1, s)
  socket s := (none, s)
  setsockopt _ _ s := (0, s)
  bind _ s := (0, s)
  connect _ _ s := (0, s)
  close _ s := s

/-- `readBytes` returns, and it returns what it read: the count, the first bytes of
    the buffer, and fewer than asked for only after five empty reads. -/
def StreamSerial.ReadsExactly (chunks : Nat → List UInt8) (fd : Int) (buffer : List UInt8) (length : Nat) : Prop :=
  ∃ fuel n buffer' reads,
    StreamSerial.readBytes (.delivering chunks) fd fuel buffer length [] = some (n, buffer', reads) ∧
    n = reads.flatten.length ∧ n ≤ length ∧ buffer'.take n = reads.flatten ∧
    (n < length → ∃ before, reads = before ++ List.replicate 5 [])

/-- `getSegment` returns, and it reports success exactly when all the bytes it asks
    for arrived. -/
def TicSerial.ReportsArrival (chunks : Nat → List UInt8) (fd : Int) (deviceNumber : UInt8) (cmd : TicCommand)
    (offset length : UInt8) (buffer : List UInt8) (lastError : UInt8) (product : TicProduct) : Prop :=
  ∃ fuel buffer' t,
    TicSerial.getSegment (StreamSerial.stream (.delivering chunks) fd fuel) deviceNumber cmd offset length buffer
      ⟨lastError, product, []⟩ = some (buffer', t) ∧
    (t.lastError = 0 ↔ t.io.flatten.length = (length &&& 0x3F).toNat)

/-! The line. -/

namespace Posix.delivering

/-- The bytes in the first `k` chunks. -/
def arrived (chunks : Nat → List UInt8) : Nat → Nat
  | 0 => 0
  | k + 1 => arrived chunks k + (chunks k).length

/-- The empty chunks in a row before the `k`-th. -/
def emptyRun (chunks : Nat → List UInt8) : Nat → Nat
  | 0 => 0
  | k + 1 => if chunks k = [] then emptyRun chunks k + 1 else 0

/-- No five empty chunks in a row before the `k`-th. -/
def Lively (chunks : Nat → List UInt8) (k : Nat) : Prop := ∀ j ≤ k, emptyRun chunks j < 5

/-- Before five empty chunks in a row, the line has brought half of `length` bytes,
    or brings its first bytes, and at least `length` of them. -/
def HalfOrAll (chunks : Nat → List UInt8) (length : Nat) : Prop :=
  ∃ k, Lively chunks k ∧
    (2 * arrived chunks k = length ∨ arrived chunks k = 0 ∧ length ≤ (chunks k).length)

variable {chunks : Nat → List UInt8}

theorem arrived_mono {j k : Nat} (h : j ≤ k) : arrived chunks j ≤ arrived chunks k := by
  induction h with
  | refl => exact Nat.le_refl _
  | step _ ih => exact Nat.le_trans ih (Nat.le_add_right _ _)

end Posix.delivering

open Posix.delivering

/-! One turn of the loop. -/

namespace StreamSerial
variable {chunks : Nat → List UInt8} {fd : Int} {length fuel readC numZeros n : Nat}
  {buffer buffer' : List UInt8} {s s' : List (List UInt8)}

theorem readLoop_empty (hgo : readC < length ∧ numZeros < 5) (h : chunks s.length = []) :
    readLoop (.delivering chunks) fd length (fuel + 1) readC numZeros buffer s =
      readLoop (.delivering chunks) fd length fuel (readC % 2 ^ 64) (numZeros + 1) buffer (s ++ [[]]) := by
  have hpoke : poke buffer readC [] = buffer := by simp [poke]
  rw [readLoop, if_pos hgo]
  simp [Posix.delivering, h, hpoke]

theorem readLoop_bytes (hgo : readC < length ∧ numZeros < 5) (h : chunks s.length ≠ []) :
    readLoop (.delivering chunks) fd length (fuel + 1) readC numZeros buffer s =
      readLoop (.delivering chunks) fd length fuel
        ((readC + 2 * min (length - readC) (chunks s.length).length) % 2 ^ 64) 0
        (poke buffer readC ((chunks s.length).take (length - readC)))
        (s ++ [(chunks s.length).take (length - readC)]) := by
  have hpos : 0 < (chunks s.length).length := List.length_pos_iff.mpr h
  have hc : 0 < min (length - readC) (chunks s.length).length := by omega
  have hsum : ((readC + min (length - readC) (chunks s.length).length) % 2 ^ 64 +
      min (length - readC) (chunks s.length).length) % 2 ^ 64 =
      (readC + 2 * min (length - readC) (chunks s.length).length) % 2 ^ 64 := by omega
  rw [readLoop, if_pos hgo]
  simp only [Posix.delivering, List.length_take, hc, if_true, hsum]

theorem readLoop_end (hend : ¬ (readC < length ∧ numZeros < 5)) :
    readLoop (.delivering chunks) fd length fuel readC numZeros buffer s = some (readC, buffer, s) := by
  cases fuel <;> rw [readLoop, if_neg hend]

/-- What every turn keeps holds where the loop returns. -/
theorem readLoop_run {I : Nat → Nat → List (List UInt8) → Prop}
    (hempty : ∀ {readC numZeros s}, I readC numZeros s → readC < length ∧ numZeros < 5 → chunks s.length = [] →
      I (readC % 2 ^ 64) (numZeros + 1) (s ++ [[]]))
    (hbytes : ∀ {readC numZeros s}, I readC numZeros s → readC < length ∧ numZeros < 5 → chunks s.length ≠ [] →
      I ((readC + 2 * min (length - readC) (chunks s.length).length) % 2 ^ 64) 0
        (s ++ [(chunks s.length).take (length - readC)]))
    (h : readLoop (.delivering chunks) fd length fuel readC numZeros buffer s = some (n, buffer', s'))
    (hI : I readC numZeros s) :
    ∃ numZeros', I n numZeros' s' ∧ ¬ (n < length ∧ numZeros' < 5) := by
  induction fuel generalizing readC numZeros buffer s with
  | zero =>
    by_cases hgo : readC < length ∧ numZeros < 5
    · rw [readLoop, if_pos hgo] at h
      cases h
    · rw [readLoop_end hgo] at h
      cases h
      exact ⟨numZeros, hI, hgo⟩
  | succ fuel ih =>
    by_cases hgo : readC < length ∧ numZeros < 5
    · by_cases hc : chunks s.length = []
      · rw [readLoop_empty hgo hc] at h
        exact ih h (hempty hI hgo hc)
      · rw [readLoop_bytes hgo hc] at h
        exact ih h (hbytes hI hgo hc)
    · rw [readLoop_end hgo] at h
      cases h
      exact ⟨numZeros, hI, hgo⟩

/-! ## The count -/

/-- The counter is twice what the reads brought, as a `size_t`. -/
structure Tally (chunks : Nat → List UInt8) (readC numZeros : Nat) (s : List (List UInt8)) : Prop where
  twice : readC = 2 * s.flatten.length % 2 ^ 64
  idle : s.flatten.length = 0 → numZeros = s.length ∧ ∀ k < s.length, chunks k = []

theorem readLoop_tally
    (h : readLoop (.delivering chunks) fd length fuel 0 0 buffer [] = some (n, buffer', s')) :
    ∃ numZeros', Tally chunks n numZeros' s' ∧ ¬ (n < length ∧ numZeros' < 5) := by
  refine readLoop_run ?_ ?_ h ⟨by simp, by simp⟩
  · intro readC numZeros s hI hgo hc
    have hsame : (s ++ [[]]).flatten.length = s.flatten.length := by simp
    apply Tally.mk
    · rw [hsame, hI.twice, Nat.mod_mod]
    · intro hzero
      rw [hsame] at hzero
      obtain ⟨hnum, hall⟩ := hI.idle hzero
      rw [List.length_append, hnum]
      refine ⟨rfl, ?_⟩
      intro k hk
      rcases Nat.lt_succ_iff_lt_or_eq.mp hk with hlt | heq
      · exact hall k hlt
      · rw [heq]
        exact hc
  · intro readC numZeros s hI hgo hc
    have hmore : (s ++ [(chunks s.length).take (length - readC)]).flatten.length =
        s.flatten.length + min (length - readC) (chunks s.length).length := by simp
    have hpos : 0 < (chunks s.length).length := List.length_pos_iff.mpr hc
    apply Tally.mk
    · rw [hmore, hI.twice]
      omega
    · rw [hmore]
      intro hzero
      omega

/-- Empty reads, up to the fifth. -/
theorem readLoop_idle (hpos : 0 < length) {k : Nat} (hnum : numZeros + k = 5)
    (hall : ∀ i < k, chunks (s.length + i) = []) :
    readLoop (.delivering chunks) fd length k 0 numZeros buffer s = some (0, buffer, s ++ List.replicate k []) := by
  induction k generalizing numZeros s with
  | zero =>
    have hend : ¬ (0 < length ∧ numZeros < 5) := by omega
    rw [readLoop_end hend, List.replicate_zero, List.append_nil]
  | succ k ih =>
    rw [readLoop_empty ⟨hpos, by omega⟩ (hall 0 (Nat.succ_pos k)), Nat.zero_mod, ih (by omega)]
    · rw [List.append_assoc, List.singleton_append, List.replicate_succ]
    · intro i hi
      rw [List.length_append, List.length_singleton, Nat.add_assoc, Nat.add_comm 1 i]
      exact hall (i + 1) (by omega)

theorem readsExactly_iff : ReadsExactly chunks fd buffer length ↔ length = 0 ∨ ∀ k < 5, chunks k = [] := by
  apply Iff.intro
  · intro h
    obtain ⟨fuel, n, buffer', reads, hret, hn, -⟩ := h
    obtain ⟨numZeros, hI, hend⟩ := readLoop_tally hret
    have htwice := hI.twice
    -- a count equal to twice itself, below `2^64`
    have hzero : reads.flatten.length = 0 := by omega
    obtain ⟨hnum, hall⟩ := hI.idle hzero
    by_cases hlen : length = 0
    · exact .inl hlen
    · right
      intro k hk
      exact hall k (by omega)
  · intro h
    by_cases hlen : length = 0
    · subst hlen
      exact ⟨0, 0, buffer, [], rfl, rfl, Nat.le_refl _, rfl, fun h => absurd h (Nat.lt_irrefl _)⟩
    · have hpos : 0 < length := Nat.pos_of_ne_zero hlen
      have hall : ∀ k < 5, chunks k = [] := h.resolve_left hlen
      refine ⟨5, 0, buffer, List.replicate 5 [], ?_, rfl, Nat.zero_le _, rfl, fun _ => ⟨[], rfl⟩⟩
      apply readLoop_idle hpos rfl
      intro i hi
      rw [List.length_nil, Nat.zero_add]
      exact hall i hi

/-! ## Where the loop stops -/

/-- Below `2^63` bytes nothing wraps, and only the last read can have been cut
    short. -/
structure Progress (chunks : Nat → List UInt8) (length readC numZeros : Nat) (s : List (List UInt8)) : Prop where
  twice : readC = 2 * s.flatten.length
  run : numZeros = emptyRun chunks s.length
  going : ∀ j < s.length, 2 * arrived chunks j < length ∧ emptyRun chunks j < 5
  last : s.length = 0 ∧ s.flatten.length = 0 ∨
    ∃ k, s.length = k + 1 ∧
      s.flatten.length = arrived chunks k + min (length - 2 * arrived chunks k) (chunks k).length

theorem Progress.whole (h : Progress chunks length readC numZeros s) (hlt : readC < length) :
    s.flatten.length = arrived chunks s.length := by
  have htwice := h.twice
  rcases h.last with ⟨hnone, hzero⟩ | ⟨k, hk, hlast⟩
  · rw [hzero, hnone, arrived]
  · have hgoing := (h.going k (by omega)).1
    rw [hk, arrived]
    omega

theorem Progress.le_arrived (h : Progress chunks length readC numZeros s) :
    s.flatten.length ≤ arrived chunks s.length := by
  rcases h.last with ⟨-, hzero⟩ | ⟨k, hk, hlast⟩
  · rw [hzero]
    exact Nat.zero_le _
  · rw [hk, arrived]
    omega

/-- A turn was taken at every read so far, the one now made included. -/
theorem Progress.going_succ (h : Progress chunks length readC numZeros s) (hgo : readC < length ∧ numZeros < 5) :
    ∀ j < s.length + 1, 2 * arrived chunks j < length ∧ emptyRun chunks j < 5 := by
  intro j hj
  rcases Nat.lt_succ_iff_lt_or_eq.mp hj with hlt | heq
  · exact h.going j hlt
  · rw [heq, ← h.whole hgo.1, ← h.twice, ← h.run]
    exact hgo

theorem readLoop_progress (hlen : length < 2 ^ 63)
    (h : readLoop (.delivering chunks) fd length fuel 0 0 buffer [] = some (n, buffer', s')) :
    ∃ numZeros', Progress chunks length n numZeros' s' ∧ ¬ (n < length ∧ numZeros' < 5) := by
  refine readLoop_run ?_ ?_ h ⟨by simp, by simp [emptyRun], by simp, by simp⟩
  · intro readC numZeros s hI hgo hc
    have hsame : (s ++ [[]]).flatten.length = s.flatten.length := by simp
    have hlength : (s ++ [([] : List UInt8)]).length = s.length + 1 := by simp
    apply Progress.mk
    · rw [hsame, ← hI.twice]
      exact Nat.mod_eq_of_lt (by omega)
    · rw [hlength, emptyRun, if_pos hc, ← hI.run]
    · rw [hlength]
      exact hI.going_succ hgo
    · refine .inr ⟨s.length, hlength, ?_⟩
      rw [hsame, hI.whole hgo.1, hc]
      simp
  · intro readC numZeros s hI hgo hc
    have hmore : (s ++ [(chunks s.length).take (length - readC)]).flatten.length =
        s.flatten.length + min (length - readC) (chunks s.length).length := by simp
    have hlength : (s ++ [(chunks s.length).take (length - readC)]).length = s.length + 1 := by simp
    have htwice := hI.twice
    apply Progress.mk
    · rw [hmore]
      omega
    · rw [hlength, emptyRun, if_neg hc]
    · rw [hlength]
      exact hI.going_succ hgo
    · refine .inr ⟨s.length, hlength, ?_⟩
      rw [hmore, ← hI.whole hgo.1, htwice]

theorem readLoop_returns (hlen : length < 2 ^ 63) (hfuel : 5 * (length - readC) ≤ fuel + numZeros) :
    ∃ out, readLoop (.delivering chunks) fd length fuel readC numZeros buffer s = some out := by
  induction fuel generalizing readC numZeros buffer s with
  | zero =>
    have hend : ¬ (readC < length ∧ numZeros < 5) := by omega
    exact ⟨_, readLoop_end hend⟩
  | succ fuel ih =>
    by_cases hgo : readC < length ∧ numZeros < 5
    · by_cases hc : chunks s.length = []
      · rw [readLoop_empty hgo hc]
        apply ih
        omega
      · have hpos : 0 < (chunks s.length).length := List.length_pos_iff.mpr hc
        rw [readLoop_bytes hgo hc]
        apply ih
        omega
    · exact ⟨_, readLoop_end hgo⟩

/-! ## What the count comes to -/

section
variable {numZeros' : Nat} (h : Progress chunks length n numZeros' s') (hend : ¬ (n < length ∧ numZeros' < 5))
include h hend

/-- The line has given out before any place that comes after five empty reads. -/
theorem Progress.full {j : Nat} (hj : Lively chunks j) (hle : s'.length ≤ j) : length ≤ n := by
  have hrun := hj s'.length hle
  rw [← h.run] at hrun
  omega

theorem Progress.count_iff (hpos : 0 < length) :
    n = length ↔ ∃ k, Lively chunks k ∧ 2 * arrived chunks k = length := by
  have htwice := h.twice
  apply Iff.intro
  · intro hn
    rcases h.last with ⟨-, hzero⟩ | ⟨k, hk, hlast⟩
    · omega
    · have hgoing := (h.going k (by omega)).1
      -- the last read brought something, or the count would not have got here
      have hne : chunks k ≠ [] := by
        intro hc
        rw [hc] at hlast
        simp only [List.length_nil] at hlast
        omega
      refine ⟨k + 1, ?_, ?_⟩
      · intro j hj
        rcases Nat.lt_succ_iff_lt_or_eq.mp (Nat.lt_succ_of_le hj) with hlt | heq
        · exact (h.going j (by omega)).2
        · rw [heq, emptyRun, if_neg hne]
          decide
      · rw [arrived]
        omega
  · intro ⟨j, hlive, hhalf⟩
    have hle : s'.length ≤ j := by
      by_contra hlt
      have hgoing := (h.going j (by omega)).1
      omega
    have hfull := h.full hend hlive hle
    have hbound : s'.flatten.length ≤ arrived chunks j := calc
      s'.flatten.length ≤ arrived chunks s'.length := h.le_arrived
      _ ≤ arrived chunks j := arrived_mono hle
    omega

theorem Progress.arrived_iff (hpos : 0 < length) :
    s'.flatten.length = length ↔
      ∃ k, Lively chunks k ∧ arrived chunks k = 0 ∧ length ≤ (chunks k).length := by
  have htwice := h.twice
  apply Iff.intro
  · intro hall
    rcases h.last with ⟨-, hzero⟩ | ⟨k, hk, hlast⟩
    · omega
    · have hgoing := (h.going k (by omega)).1
      refine ⟨k, ?_, by omega, by omega⟩
      intro j hj
      exact (h.going j (by omega)).2
  · intro ⟨j, hlive, hnone, hlong⟩
    -- the loop stops right after the chunk that brings all
    rcases Nat.lt_trichotomy (j + 1) s'.length with hlt | heq | hgt
    · have hgoing := (h.going (j + 1) hlt).1
      rw [arrived] at hgoing
      omega
    · rcases h.last with ⟨hzero, -⟩ | ⟨k, hk, hlast⟩
      · omega
      · obtain rfl : k = j := by omega
        omega
    · have hle : s'.length ≤ j := by omega
      have hfull := h.full hend hlive hle
      have hbound : s'.flatten.length ≤ arrived chunks j := calc
        s'.flatten.length ≤ arrived chunks s'.length := h.le_arrived
        _ ≤ arrived chunks j := arrived_mono hle
      omega

end

end StreamSerial

/-! ## getSegment -/

namespace TicSerial
variable {chunks : Nat → List UInt8} {fd : Int} {deviceNumber : UInt8} {cmd : TicCommand} {offset length : UInt8}
  {buffer : List UInt8} {lastError : UInt8} {product : TicProduct}

theorem putAll_delivering (fuel : Nat) (bytes : List UInt8) (s : List (List UInt8)) :
    putAll (StreamSerial.stream (.delivering chunks) fd fuel) bytes s = s := by
  induction bytes generalizing s with
  | nil => rfl
  | cons byte bytes ih => exact ih s

theorem getSegment_delivering (fuel : Nat) :
    getSegment (StreamSerial.stream (.delivering chunks) fd fuel) deviceNumber cmd offset length buffer
        ⟨lastError, product, []⟩ =
      (StreamSerial.readBytes (.delivering chunks) fd fuel buffer (length &&& 0x3F).toNat []).map fun out =>
        if UInt8.ofNat out.1 ≠ length &&& 0x3F then
          (List.replicate (length &&& 0x3F).toNat 0 ++ out.2.1.drop (length &&& 0x3F).toNat, ⟨50, product, out.2.2⟩)
        else (out.2.1, ⟨0, product, out.2.2⟩) := by
  rw [getSegment_eq, putAll_delivering]
  rfl

/-- The count is compared as a byte. -/
theorem reportsArrival_iff_read :
    ReportsArrival chunks fd deviceNumber cmd offset length buffer lastError product ↔
      ∃ fuel n buffer' reads,
        StreamSerial.readBytes (.delivering chunks) fd fuel buffer (length &&& 0x3F).toNat [] =
          some (n, buffer', reads) ∧
        (UInt8.ofNat n = length &&& 0x3F ↔ reads.flatten.length = (length &&& 0x3F).toNat) := by
  unfold ReportsArrival
  simp only [getSegment_delivering, Option.map_eq_some_iff]
  apply Iff.intro
  · intro ⟨fuel, buffer', t, ⟨⟨n, b, reads⟩, hread, hout⟩, harr⟩
    refine ⟨fuel, n, b, reads, hread, ?_⟩
    by_cases hn : UInt8.ofNat n = length &&& 0x3F
    · simp only [hn, ne_eq, not_true, if_false, Prod.mk.injEq] at hout
      rw [← hout.2] at harr
      exact iff_of_true hn (harr.mp rfl)
    · simp only [hn, ne_eq, not_false_iff, if_true, Prod.mk.injEq] at hout
      rw [← hout.2] at harr
      exact iff_of_false hn (fun hall => absurd (harr.mpr hall) (show (50 : UInt8) ≠ 0 by decide))
  · intro ⟨fuel, n, b, reads, hread, hiff⟩
    by_cases hn : UInt8.ofNat n = length &&& 0x3F
    · refine ⟨fuel, b, ⟨0, product, reads⟩, ⟨(n, b, reads), hread, ?_⟩, iff_of_true rfl (hiff.mp hn)⟩
      simp only [hn, ne_eq, not_true, if_false]
    · refine ⟨fuel, List.replicate (length &&& 0x3F).toNat 0 ++ b.drop (length &&& 0x3F).toNat,
        ⟨50, product, reads⟩, ⟨(n, b, reads), hread, ?_⟩, iff_of_false ?_ (fun hall => hn (hiff.mpr hall))⟩
      · simp only [hn, ne_eq, not_false_iff, if_true]
      · exact show (50 : UInt8) ≠ 0 by decide

/-- What a return shows: half of the bytes count as all of them, and all as twice as
    many. -/
theorem counted_iff {fuel n len : Nat} {b : List UInt8} {reads : List (List UInt8)} (hsmall : len ≤ 63)
    (hread : StreamSerial.readBytes (.delivering chunks) fd fuel buffer len [] = some (n, b, reads)) :
    n ≤ 126 ∧ ((n = len ↔ reads.flatten.length = len) ↔ len = 0 ∨ ¬ HalfOrAll chunks len) := by
  obtain ⟨numZeros, hI, hend⟩ := StreamSerial.readLoop_progress (by omega) hread
  have htwice := hI.twice
  have hle : reads.flatten.length ≤ len := by
    rcases hI.last with ⟨-, hzero⟩ | ⟨k, hk, hlast⟩
    · omega
    · have hgoing := (hI.going k (by omega)).1
      omega
  refine ⟨by omega, ?_⟩
  by_cases hpos : 0 < len
  · have hor : HalfOrAll chunks len ↔ n = len ∨ reads.flatten.length = len := by
      rw [hI.count_iff hend hpos, hI.arrived_iff hend hpos, ← exists_or]
      simp only [HalfOrAll, and_or_left]
    rw [hor]
    omega
  · have hzero : len = 0 := by omega
    omega

theorem reportsArrival_iff :
    ReportsArrival chunks fd deviceNumber cmd offset length buffer lastError product ↔
      length &&& 0x3F = 0 ∨ ¬ HalfOrAll chunks (length &&& 0x3F).toNat := by
  have hsmall : (length &&& 0x3F).toNat ≤ 63 := by
    rw [UInt8.toNat_and]
    exact Nat.and_le_right
  have hempty : length &&& 0x3F = 0 ↔ (length &&& 0x3F).toNat = 0 := UInt8.toNat_inj.symm
  rw [reportsArrival_iff_read, hempty]
  generalize hlen : (length &&& 0x3F).toNat = len at hsmall
  have hbyte : ∀ n, n ≤ 126 → (UInt8.ofNat n = length &&& 0x3F ↔ n = len) := by
    intro n hn
    rw [← UInt8.toNat_inj, hlen, UInt8.toNat_ofNat', Nat.mod_eq_of_lt (by omega)]
  apply Iff.intro
  · intro ⟨fuel, n, b, reads, hread, hiff⟩
    obtain ⟨hn, hcond⟩ := counted_iff hsmall hread
    rw [hbyte n hn] at hiff
    exact hcond.mp hiff
  · intro h
    obtain ⟨⟨n, b, reads⟩, hread⟩ : ∃ out,
        StreamSerial.readBytes (.delivering chunks) fd (5 * len) buffer len [] = some out :=
      StreamSerial.readLoop_returns (by omega) (by omega)
    obtain ⟨hn, hcond⟩ := counted_iff hsmall hread
    refine ⟨5 * len, n, b, reads, hread, ?_⟩
    rw [hbyte n hn]
    exact hcond.mpr h

end TicSerial

/-- **What was read is what is returned.** For every length and every chunking. -/
theorem serial_reads_iff (chunks : Nat → List UInt8) (fd : Int) :
    (∀ buffer length,
      StreamSerial.ReadsExactly chunks fd buffer length ↔ length = 0 ∨ ∀ k < 5, chunks k = []) ∧
    ∀ deviceNumber cmd offset length buffer lastError product,
      TicSerial.ReportsArrival chunks fd deviceNumber cmd offset length buffer lastError product ↔
        length &&& 0x3F = 0 ∨ ¬ HalfOrAll chunks (length &&& 0x3F).toNat :=
  ⟨fun _ _ => StreamSerial.readsExactly_iff, fun _ _ _ _ _ _ _ => TicSerial.reportsArrival_iff⟩

/-- Four bytes, asked for and brought by one read, are counted as eight and
    reported as an error; four asked for and brought one by one, as two are
    there. -/
theorem four_bytes_misread :
    ¬ StreamSerial.ReadsExactly (fun _ => [1, 2, 3, 4]) 3 [0, 0, 0, 0] 4 ∧
    ¬ TicSerial.ReportsArrival (fun _ => [1, 2, 3, 4]) 3 14 .getVariable 0x22 4 [0, 0, 0, 0] 0 .unknown ∧
    ¬ TicSerial.ReportsArrival (fun _ => [1]) 3 14 .getVariable 0x22 4 [0, 0, 0, 0] 0 .unknown := by
  refine ⟨?_, ?_, ?_⟩
  · rw [StreamSerial.readsExactly_iff]
    intro h
    exact absurd (h.resolve_left (by decide) 0 (by decide)) (by decide)
  · rw [TicSerial.reportsArrival_iff]
    intro h
    exact h.resolve_left (by decide) ⟨0, by unfold Lively; decide, by decide⟩
  · rw [TicSerial.reportsArrival_iff]
    intro h
    exact h.resolve_left (by decide) ⟨2, by unfold Lively; decide, by decide⟩

end TicFocuserNG
