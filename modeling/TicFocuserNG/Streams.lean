import Mathlib.Algebra.Group.Int.Defs
import Mathlib.Algebra.Group.Nat.Defs
import Mathlib.Data.List.Basic

/- The byte streams `StreamBT` and `StreamSerial`, over the system calls they
   make.

   `Posix` is an operating system whose state is `σ`: every call takes the state
   and returns its result with the next one, so an arbitrary `Posix` is an
   arbitrary sequence of outcomes. A call that fails with -1 is `none` where
   success has a value to give. The pauses (`usleep`) are not modelled, nor the
   conversion of the MAC address (`str2ba`): `connect` gets the text.

   A read loop takes the number of `::read` calls it may make (`fuel`), and is
   `none` if it has not ended by then. `StreamBT` ends within five reads a byte
   (`StreamBT.readLoop_returns`); `StreamSerial` does while no read fails. -/
namespace TicFocuserNG

inductive SockOpt where
  | rcvtimeo
  | sndtimeo
  deriving DecidableEq, Repr

structure Posix (σ : Type) where
  /-- `::read` of up to `n` bytes; no bytes is a return value of 0. -/
  read : Int → (n : Nat) → σ → Option { bs : List UInt8 // bs.length ≤ n } × σ
  /-- `::write` of one byte. -/
  write : Int → UInt8 → σ → Int × σ
  socket : σ → Option Nat × σ
  /-- With a timeout of one second. -/
  setsockopt : Int → SockOpt → σ → Int × σ
  bind : Int → σ → Int × σ
  connect : Int → (mac : String) → σ → Int × σ
  close : Int → σ → σ

/-- A system where every call succeeds, the next free descriptor as its state. -/
def Posix.obliging : Posix Nat where
  read _ n s := (some ⟨[7].take n, List.length_take_le n [7]⟩, s)
  write _ _ s := (1, s)
  socket s := (some s, s + 1)
  setsockopt _ _ s := (0, s)
  bind _ s := (0, s)
  connect _ _ s := (0, s)
  close _ s := s

/-- `Stream`, over a state `τ`: the values of `write` and `readBytes` are
    `size_t`. `readBytes` gets the buffer as it is and returns it filled. -/
structure Stream (τ : Type) where
  write : UInt8 → τ → Nat × τ
  readBytes : (buffer : List UInt8) → (length : Nat) → τ → Option (Nat × List UInt8 × τ)

/-- `chunk`, written into `buffer` at `i`. -/
def poke (buffer : List UInt8) (i : Nat) (chunk : List UInt8) : List UInt8 :=
  buffer.take i ++ chunk ++ buffer.drop (i + chunk.length)

/-- One chunk after the other. -/
theorem poke_poke {buffer chunk : List UInt8} {i : Nat} (h : i ≤ buffer.length) (chunk' : List UInt8) :
    poke (poke buffer i chunk) (i + chunk.length) chunk' = poke buffer i (chunk ++ chunk') := by
  have hlen : (buffer.take i ++ chunk).length = i + chunk.length := by
    rw [List.length_append, List.length_take, Nat.min_eq_left h]
  have htake : (poke buffer i chunk).take (i + chunk.length) = buffer.take i ++ chunk := by
    rw [poke, ← hlen, List.take_left]
  have hdrop : (poke buffer i chunk).drop (i + chunk.length + chunk'.length) =
      buffer.drop (i + chunk.length + chunk'.length) := by
    rw [poke, ← hlen, ← List.drop_drop, List.drop_left, List.drop_drop]
  rw [poke, htake, hdrop, poke, List.length_append, Nat.add_assoc, List.append_assoc (buffer.take i)]

/-- A chunk as long as the buffer. -/
theorem poke_zero {buffer chunk : List UInt8} (h : chunk.length = buffer.length) : poke buffer 0 chunk = chunk := by
  simp [poke, h]

theorem poke_nil (buffer : List UInt8) (i : Nat) : poke buffer i [] = buffer := by
  simp [poke]

/-- Behind a chunk the buffer is as it was. -/
theorem drop_poke {buffer chunk : List UInt8} {n : Nat} (h : chunk.length ≤ n) :
    (poke buffer 0 chunk).drop n = buffer.drop n := by
  obtain ⟨k, rfl⟩ := Nat.exists_eq_add_of_le h
  simp only [poke, List.take_zero, List.nil_append, Nat.zero_add]
  rw [← List.drop_drop, List.drop_left, List.drop_drop]

/-- A `ssize_t` or `int` as `size_t`. -/
def toSize (c : Int) : Nat := (c % 2 ^ 64).toNat

/-! ## StreamBT -/

structure StreamBT where
  btSocket : Int := -1
  btMacAddress : String := ""
  deriving DecidableEq, Repr

namespace StreamBT
variable {σ : Type} (os : Posix σ)

/-- `reconnect` from the call of `socket` on. -/
def dial (b : StreamBT) (s : σ) : Bool × StreamBT × σ :=
  match os.socket s with
  | (none, s) => (false, { b with btSocket := -1 }, s)
  | (some fd, s) =>
    -- the descriptor held before is not closed; on failure the new one is, and stays in `btSocket`
    let b := { b with btSocket := fd }
    let (r, s) := os.setsockopt fd .rcvtimeo s
    if r ≠ 0 then (false, b, os.close fd s)
    else
      let (r, s) := os.setsockopt fd .sndtimeo s
      if r ≠ 0 then (false, b, os.close fd s)
      else
        let (r, s) := os.bind fd s
        if r < 0 then (false, b, os.close fd s)
        else
          let (r, s) := os.connect fd b.btMacAddress s
          if r < 0 then (false, b, os.close fd s) else (true, b, s)

def reconnect (b : StreamBT) (s : σ) : Bool × StreamBT × σ :=
  if b.btMacAddress.isEmpty then (false, b, s) else dial os b s

def connect (btMacAddress : String) (b : StreamBT) (s : σ) : Bool × StreamBT × σ :=
  reconnect os { b with btMacAddress } s

def disconnect (b : StreamBT) (s : σ) : StreamBT × σ :=
  ({ b with btSocket := -1 }, if 0 ≤ b.btSocket then os.close b.btSocket s else s)

/-- What the calls of `reconnect` keep. -/
structure Keeping (I : σ → Prop) : Prop where
  socket : ∀ {s}, I s → I (os.socket s).2
  setsockopt : ∀ {fd opt s}, I s → I (os.setsockopt fd opt s).2
  bind : ∀ {fd s}, I s → I (os.bind fd s).2
  connect : ∀ {fd mac s}, I s → I (os.connect fd mac s).2
  close : ∀ {fd s}, I s → I (os.close fd s)

variable {os} in
theorem Keeping.dial {I : σ → Prop} (h : Keeping os I) (b : StreamBT) {s : σ} (hs : I s) :
    I (dial os b s).2.2 := by
  have hsock := h.socket hs
  rw [StreamBT.dial]
  split
  · next s' heq => rwa [heq] at hsock
  · next fd s' heq =>
    rw [heq] at hsock
    have hrcv : I (os.setsockopt fd .rcvtimeo s').2 := h.setsockopt hsock
    simp only
    split
    · exact h.close hrcv
    · split
      · exact h.close (h.setsockopt hrcv)
      · split
        · exact h.close (h.bind (h.setsockopt hrcv))
        · split
          · exact h.close (h.connect (h.bind (h.setsockopt hrcv)))
          · exact h.connect (h.bind (h.setsockopt hrcv))

variable {os} in
theorem Keeping.reconnect {I : σ → Prop} (h : Keeping os I) (b : StreamBT) {s : σ} (hs : I s) :
    I (reconnect os b s).2.2 := by
  rw [StreamBT.reconnect]
  split
  · exact hs
  · exact h.dial b hs

/-- The loop of `write`, with `tries` left of three; `c` is the result of the
    last `::write`. -/
def writeLoop (byte : UInt8) : (tries : Nat) → (c : Int) → StreamBT → σ → Int × StreamBT × σ
  | 0, c, b, s => (c, b, s)
  | tries + 1, _, b, s =>
    let (c, s) := os.write b.btSocket byte s
    if 0 < c then (c, b, s)
    else
      let (_, b, s) := reconnect os b s
      writeLoop byte tries c b s

def write (byte : UInt8) (t : StreamBT × σ) : Nat × StreamBT × σ :=
  let (c, t) := writeLoop os byte 3 0 t.1 t.2
  (toSize c, t)

/-- The loop of `readBytes`. -/
def readLoop (length : Nat) : (fuel readC numZeros : Nat) → List UInt8 → StreamBT → σ →
    Option (Nat × List UInt8 × StreamBT × σ)
  | 0, readC, numZeros, buffer, b, s =>
    if readC < length ∧ numZeros < 5 then none else some (readC, buffer, b, s)
  | fuel + 1, readC, numZeros, buffer, b, s =>
    if readC < length ∧ numZeros < 5 then
      match os.read b.btSocket (length - readC) s with
      | (none, s) =>
        -- a failed read counts as an empty one, and reconnects
        let (_, b, s) := reconnect os b s
        readLoop length fuel readC (numZeros + 1) buffer b s
      | (some c, s) =>
        if 0 < c.val.length then
          readLoop length fuel (readC + c.val.length) 0 (poke buffer readC c) b s
        else readLoop length fuel readC (numZeros + 1) buffer b s
    else some (readC, buffer, b, s)

def readBytes (buffer : List UInt8) (length : Nat) (t : StreamBT × σ) :
    Option (Nat × List UInt8 × StreamBT × σ) :=
  readLoop os length (5 * length) 0 0 buffer t.1 t.2

def stream : Stream (StreamBT × σ) where
  write := write os
  readBytes := readBytes os

variable {os} in
/-- The rule of the loop: what every turn keeps (a failed read and the `reconnect`
    after it, an empty one, and one that brings a chunk) holds where it returns. -/
theorem readLoop_run {I : Nat → Nat → List UInt8 → StreamBT → σ → Prop} {length : Nat}
    (hfail : ∀ {readC numZeros buffer b s s'}, I readC numZeros buffer b s → readC < length → numZeros < 5 →
      os.read b.btSocket (length - readC) s = (none, s') →
      I readC (numZeros + 1) buffer (reconnect os b s').2.1 (reconnect os b s').2.2)
    (hempty : ∀ {readC numZeros buffer b s s' c}, I readC numZeros buffer b s → readC < length → numZeros < 5 →
      os.read b.btSocket (length - readC) s = (some c, s') → c.val = [] → I readC (numZeros + 1) buffer b s')
    (hchunk : ∀ {readC numZeros buffer b s s' c}, I readC numZeros buffer b s → readC < length → numZeros < 5 →
      os.read b.btSocket (length - readC) s = (some c, s') → c.val ≠ [] →
      I (readC + c.val.length) 0 (poke buffer readC c) b s')
    {fuel readC numZeros : Nat} {buffer : List UInt8} {b : StreamBT} {s : σ} {out : Nat × List UInt8 × StreamBT × σ}
    (h : readLoop os length fuel readC numZeros buffer b s = some out) (hI : I readC numZeros buffer b s) :
    ∃ numZeros', I out.1 numZeros' out.2.1 out.2.2.1 out.2.2.2 ∧ ¬ (out.1 < length ∧ numZeros' < 5) := by
  induction fuel generalizing readC numZeros buffer b s with
  | zero =>
    rw [readLoop] at h
    split at h
    · cases h
    · next hend =>
      cases h
      exact ⟨numZeros, hI, hend⟩
  | succ fuel ih =>
    rw [readLoop] at h
    split at h
    · next hgo =>
      rcases hr : os.read b.btSocket (length - readC) s with ⟨_ | c, s'⟩
      · simp only [hr] at h
        exact ih h (hfail hI hgo.1 hgo.2 hr)
      · simp only [hr] at h
        split at h
        · next hc => exact ih h (hchunk hI hgo.1 hgo.2 hr (List.length_pos_iff.mp hc))
        · next hc => exact ih h (hempty hI hgo.1 hgo.2 hr (List.eq_nil_of_length_eq_zero (Nat.eq_zero_of_not_pos hc)))
    · next hend =>
      cases h
      exact ⟨numZeros, hI, hend⟩

/-! The address stays that of the last `connect`. -/

theorem btMacAddress_reconnect (b : StreamBT) (s : σ) :
    (reconnect os b s).2.1.btMacAddress = b.btMacAddress := by
  rw [reconnect]
  split
  · rfl
  · rw [dial]
    split
    · rfl
    · simp only
      split
      · rfl
      · split
        · rfl
        · split
          · rfl
          · split <;> rfl

theorem btMacAddress_writeLoop (byte : UInt8) (tries : Nat) (c : Int) (b : StreamBT) (s : σ) :
    (writeLoop os byte tries c b s).2.1.btMacAddress = b.btMacAddress := by
  induction tries generalizing c b s with
  | zero => rfl
  | succ tries ih =>
    rw [writeLoop]
    simp only
    split
    · rfl
    · rw [ih, btMacAddress_reconnect]

theorem btMacAddress_readLoop {length fuel readC numZeros : Nat} {buffer : List UInt8} {b : StreamBT} {s : σ}
    {out : Nat × List UInt8 × StreamBT × σ} (h : readLoop os length fuel readC numZeros buffer b s = some out) :
    out.2.2.1.btMacAddress = b.btMacAddress := by
  obtain ⟨numZeros', hI, -⟩ := readLoop_run (I := fun _ _ _ b' _ => b'.btMacAddress = b.btMacAddress)
    (fun hI _ _ _ => (btMacAddress_reconnect os _ _).trans hI) (fun hI _ _ _ _ => hI) (fun hI _ _ _ _ => hI) h rfl
  exact hI

/-- Enough fuel: five reads for each byte missing, fewer those in vain since the
    last byte. -/
theorem readLoop_returns (length fuel readC numZeros : Nat) (buffer : List UInt8) (b : StreamBT) (s : σ)
    (h : 5 * (length - readC) ≤ fuel + numZeros) :
    ∃ out, readLoop os length fuel readC numZeros buffer b s = some out := by
  induction fuel generalizing readC numZeros buffer b s with
  | zero =>
    have hend : ¬ (readC < length ∧ numZeros < 5) := by omega
    exact ⟨_, by rw [readLoop, if_neg hend]⟩
  | succ fuel ih =>
    rw [readLoop]
    split
    · next hgo =>
      rcases os.read b.btSocket (length - readC) s with ⟨_ | c, s'⟩
      · apply ih
        omega
      · by_cases hc : 0 < c.val.length
        · simp only [hc, if_true]
          apply ih
          omega
        · simp only [hc, if_false]
          apply ih
          omega
    · exact ⟨_, rfl⟩

theorem readBytes_returns (buffer : List UInt8) (length : Nat) (t : StreamBT × σ) :
    ∃ out, readBytes os buffer length t = some out := by
  apply readLoop_returns
  omega

end StreamBT

/-! ## StreamSerial -/

namespace StreamSerial
variable {σ : Type} (os : Posix σ) (fd : Int)

def write (byte : UInt8) (s : σ) : Nat × σ :=
  let (c, s) := os.write fd byte s
  (toSize c, s)

/-- The loop of `readBytes`: `c` is unsigned, so that a failed read counts as
    `2^64 - 1`, and it is added once for every read and once more for every read
    that is not empty. -/
def readLoop (length : Nat) : (fuel readC numZeros : Nat) → List UInt8 → σ → Option (Nat × List UInt8 × σ)
  | 0, readC, numZeros, buffer, s =>
    if readC < length ∧ numZeros < 5 then none else some (readC, buffer, s)
  | fuel + 1, readC, numZeros, buffer, s =>
    if readC < length ∧ numZeros < 5 then
      let (r, s) := os.read fd (length - readC) s
      let (c, buffer) := match r with
        | none => (2 ^ 64 - 1, buffer)
        | some c => (c.val.length, poke buffer readC c)
      let readC := (readC + c) % 2 ^ 64
      if 0 < c then readLoop length fuel ((readC + c) % 2 ^ 64) 0 buffer s
      else readLoop length fuel readC (numZeros + 1) buffer s
    else some (readC, buffer, s)

def readBytes (fuel : Nat) (buffer : List UInt8) (length : Nat) (s : σ) : Option (Nat × List UInt8 × σ) :=
  readLoop os fd length fuel 0 0 buffer s

def stream (fuel : Nat) : Stream σ where
  write := write os fd
  readBytes := readBytes os fd fuel

end StreamSerial

/-! ## Observed system calls -/

/-- A system call and its outcome. -/
inductive Syscall where
  | read (fd : Int) (bytes : Option (List UInt8))
  | write (fd : Int) (byte : UInt8) (result : Int)
  | socket (fd : Option Nat)
  | setsockopt (fd : Int) (opt : SockOpt) (result : Int)
  | bind (fd : Int) (result : Int)
  | connect (fd : Int) (result : Int)
  | close (fd : Int)
  deriving DecidableEq, Repr

/-- `os`, keeping a list of the calls made, the latest last. -/
def Posix.traced {σ : Type} (os : Posix σ) : Posix (List Syscall × σ) where
  read fd n s :=
    let (r, s') := os.read fd n s.2
    (r, s.1 ++ [.read fd (r.map Subtype.val)], s')
  write fd byte s :=
    let (r, s') := os.write fd byte s.2
    (r, s.1 ++ [.write fd byte r], s')
  socket s :=
    let (r, s') := os.socket s.2
    (r, s.1 ++ [.socket r], s')
  setsockopt fd opt s :=
    let (r, s') := os.setsockopt fd opt s.2
    (r, s.1 ++ [.setsockopt fd opt r], s')
  bind fd s :=
    let (r, s') := os.bind fd s.2
    (r, s.1 ++ [.bind fd r], s')
  connect fd mac s :=
    let (r, s') := os.connect fd mac s.2
    (r, s.1 ++ [.connect fd r], s')
  close fd s := (s.1 ++ [.close fd], os.close fd s.2)

section
variable {σ : Type} (os : Posix σ) (fd : Int) (s : List Syscall × σ)

@[simp] theorem traced_read (n : Nat) : os.traced.read fd n s =
    ((os.read fd n s.2).1, s.1 ++ [.read fd ((os.read fd n s.2).1.map Subtype.val)], (os.read fd n s.2).2) := rfl
@[simp] theorem traced_write (byte : UInt8) : os.traced.write fd byte s =
    ((os.write fd byte s.2).1, s.1 ++ [.write fd byte (os.write fd byte s.2).1], (os.write fd byte s.2).2) := rfl
@[simp] theorem traced_socket : os.traced.socket s =
    ((os.socket s.2).1, s.1 ++ [.socket (os.socket s.2).1], (os.socket s.2).2) := rfl
@[simp] theorem traced_setsockopt (opt : SockOpt) : os.traced.setsockopt fd opt s =
    ((os.setsockopt fd opt s.2).1, s.1 ++ [.setsockopt fd opt (os.setsockopt fd opt s.2).1],
      (os.setsockopt fd opt s.2).2) := rfl
@[simp] theorem traced_bind : os.traced.bind fd s =
    ((os.bind fd s.2).1, s.1 ++ [.bind fd (os.bind fd s.2).1], (os.bind fd s.2).2) := rfl
@[simp] theorem traced_connect (mac : String) : os.traced.connect fd mac s =
    ((os.connect fd mac s.2).1, s.1 ++ [.connect fd (os.connect fd mac s.2).1], (os.connect fd mac s.2).2) := rfl
@[simp] theorem traced_close : os.traced.close fd s = (s.1 ++ [.close fd], os.close fd s.2) := rfl

end

end TicFocuserNG
