import TicFocuserNG.Lib.Ledger
import TicFocuserNG.Streams

/- The descriptor of `StreamBT` over whole runs of its methods.

   `owns_descriptor`: the stream holds at most one open descriptor, the one in
   `btSocket`, closes nothing else, and holds none after `disconnect`, in every
   run where it connects only while it holds none, no read and no write fails
   while it holds one, and an attempt to connect fails at `socket` or not at
   all. `reconnect` overwrites `btSocket` without closing what it held, and
   leaves a descriptor there that it has closed. -/
namespace TicFocuserNG

/-- What a system call does to the set of open descriptors. -/
def Syscall.effect : Syscall → Effect Int
  | .socket (some fd) => .acquire fd
  | .close fd => .release fd
  | _ => .neutral

namespace StreamBT
variable {σ : Type}

/-- The stream, the system calls made so far, and the system behind them. -/
structure Observed (σ : Type) where
  stream : StreamBT
  calls : List Syscall
  system : σ

namespace Observed

def of (b : StreamBT) (s : List Syscall × σ) : Observed σ := ⟨b, s.1, s.2⟩

def ledger (t : Observed σ) : Ledger Int := Ledger.of Syscall.effect t.calls

def fresh (s : σ) : Observed σ := ⟨{}, [], s⟩

end Observed

inductive Call where
  | connect (btMacAddress : String)
  | reconnect
  | write (byte : UInt8)
  | readBytes (buffer : List UInt8) (length : Nat)
  | disconnect
  deriving DecidableEq, Repr

def call (os : Posix σ) (t : Observed σ) : Call → Observed σ
  | .connect btMacAddress =>
    let (_, b, s) := connect os.traced btMacAddress t.stream (t.calls, t.system)
    .of b s
  | .reconnect =>
    let (_, b, s) := StreamBT.reconnect os.traced t.stream (t.calls, t.system)
    .of b s
  | .write byte =>
    let (_, b, s) := StreamBT.write os.traced byte (t.stream, t.calls, t.system)
    .of b s
  | .readBytes buffer length =>
    -- never `none`: see `readBytes_returns`
    match StreamBT.readBytes os.traced buffer length (t.stream, t.calls, t.system) with
    | some (_, _, b, s) => .of b s
    | none => t
  | .disconnect =>
    let (b, s) := StreamBT.disconnect os.traced t.stream (t.calls, t.system)
    .of b s

/-- The stream owns at most one open descriptor, and it is in `btSocket`. -/
structure Owns (t : Observed σ) : Prop where
  atMostOne : t.ledger.held.length ≤ 1
  socket : t.stream.btSocket = -1 ∧ t.ledger.held = [] ∨
    0 ≤ t.stream.btSocket ∧ t.ledger.held = [t.stream.btSocket]
  closes : t.ledger.misused = []

/-- The outcome of a system call, given the calls before it, is not one of
    those that go wrong: a read or a write that fails while a descriptor is held
    and the MAC address is set, or a socket that does not get connected. -/
def Smooth (mac : String) (before : List Syscall) : Syscall → Prop
  | .read _ bytes => bytes = none → mac = "" ∨ (Ledger.of Syscall.effect before).held = []
  | .write _ _ result => result ≤ 0 → mac = "" ∨ (Ledger.of Syscall.effect before).held = []
  | .setsockopt _ _ result => result = 0
  | .bind _ result => 0 ≤ result
  | .connect _ result => 0 ≤ result
  | _ => True

/-- The system calls a call makes. -/
def made (os : Posix σ) (t : Observed σ) (c : Call) : List Syscall := (call os t c).calls.drop t.calls.length

/-- The stream connects only while it holds nothing, and its system calls go
    smoothly. -/
def Safe (os : Posix σ) (t : Observed σ) (c : Call) : Prop :=
  match c with
  | .connect mac => (mac = "" ∨ t.ledger.held = []) ∧ Since (Smooth mac) t.calls (made os t c)
  | .reconnect => (t.stream.btMacAddress = "" ∨ t.ledger.held = []) ∧
    Since (Smooth t.stream.btMacAddress) t.calls (made os t c)
  | _ => Since (Smooth t.stream.btMacAddress) t.calls (made os t c)

instance (t : Observed σ) : Decidable (Owns t) :=
  decidable_of_iff (t.ledger.held.length ≤ 1 ∧ (t.stream.btSocket = -1 ∧ t.ledger.held = [] ∨
      0 ≤ t.stream.btSocket ∧ t.ledger.held = [t.stream.btSocket]) ∧ t.ledger.misused = [])
    ⟨fun h => ⟨h.1, h.2.1, h.2.2⟩, fun h => ⟨h.1, h.2, h.3⟩⟩

instance (mac : String) (before : List Syscall) : ∀ c, Decidable (Smooth mac before c)
  | .read .. => inferInstanceAs (Decidable (_ → _))
  | .write .. => inferInstanceAs (Decidable (_ → _))
  | .setsockopt .. => inferInstanceAs (Decidable (_ = _))
  | .bind .. => inferInstanceAs (Decidable (_ ≤ _))
  | .connect .. => inferInstanceAs (Decidable (_ ≤ _))
  | .socket _ => isTrue trivial
  | .close _ => isTrue trivial

instance (os : Posix σ) (t : Observed σ) : ∀ c, Decidable (Safe os t c)
  | .connect _ => inferInstanceAs (Decidable (_ ∧ _))
  | .reconnect => inferInstanceAs (Decidable (_ ∧ _))
  | .write _ => inferInstanceAs (Decidable (Since ..))
  | .readBytes .. => inferInstanceAs (Decidable (Since ..))
  | .disconnect => inferInstanceAs (Decidable (Since ..))

/-! ## What the parts of a call keep -/

/-- From `t` to `t'` ownership is kept, given `H`, if the system calls go
    smoothly. -/
def Keeps (H : Prop) (t t' : Observed σ) : Prop :=
  t'.stream.btMacAddress = t.stream.btMacAddress ∧
    ∃ new, t'.calls = t.calls ++ new ∧
      (H → Since (Smooth t.stream.btMacAddress) t.calls new → Owns t → Owns t')

theorem Keeps.refl (H : Prop) (t : Observed σ) : Keeps H t t := ⟨rfl, [], by simp, fun _ _ h => h⟩

theorem Keeps.trans {H : Prop} {t t' t'' : Observed σ} (h : Keeps H t t') (h' : Keeps True t' t'') :
    Keeps H t t'' := by
  obtain ⟨hm, new, hc, ho⟩ := h
  obtain ⟨hm', new', hc', ho'⟩ := h'
  refine ⟨hm'.trans hm, new ++ new', by rw [hc', hc, List.append_assoc], ?_⟩
  intro hH hs how
  rw [Since.append] at hs
  rw [hm, hc] at ho'
  exact ho' trivial hs.2 (ho hH hs.1 how)

/-- No way a socket gets connected goes smoothly with this outcome. -/
def Rough (c : Syscall) : Prop := ∀ mac before, ¬ Smooth mac before c

theorem rough_setsockopt {fd r : Int} {opt : SockOpt} (h : r ≠ 0) : Rough (.setsockopt fd opt r) := by
  intro mac before hs
  exact h hs

theorem rough_bind {fd r : Int} (h : r < 0) : Rough (.bind fd r) := by
  intro mac before hs
  exact absurd hs (Int.not_le.mpr h)

theorem rough_connect {fd r : Int} (h : r < 0) : Rough (.connect fd r) := by
  intro mac before hs
  exact absurd hs (Int.not_le.mpr h)

/-- The exits of `dial`: no socket; a socket that is connected; and a socket
    closed after one of the four calls failed. -/
theorem dial_cases (os : Posix σ) (b : StreamBT) (s : List Syscall × σ) :
    ∃ new, (dial os.traced b s).2.2.1 = s.1 ++ new ∧
      (dial os.traced b s).2.1.btMacAddress = b.btMacAddress ∧
      (new = [.socket none] ∧ (dial os.traced b s).2.1.btSocket = -1 ∨
        (∃ (fd : Nat) (r₁ r₂ r₃ r₄ : Int), new = [.socket (some fd), .setsockopt fd .rcvtimeo r₁,
          .setsockopt fd .sndtimeo r₂, .bind fd r₃, .connect fd r₄] ∧
          (dial os.traced b s).2.1.btSocket = fd) ∨
        ∃ c ∈ new, Rough c) := by
  obtain ⟨calls, s⟩ := s
  simp only [dial, traced_socket, traced_setsockopt, traced_bind, traced_connect, traced_close]
  rcases os.socket s with ⟨_ | fd, s⟩
  · exact ⟨_, rfl, rfl, .inl ⟨rfl, rfl⟩⟩
  · simp only [List.append_assoc, List.cons_append, List.nil_append]
    split
    · next h => exact ⟨_, rfl, rfl, .inr (.inr ⟨_, .tail _ (.head _), rough_setsockopt h⟩)⟩
    · split
      · next h => exact ⟨_, rfl, rfl, .inr (.inr ⟨_, .tail _ (.tail _ (.head _)), rough_setsockopt h⟩)⟩
      · split
        · next h =>
          exact ⟨_, rfl, rfl, .inr (.inr ⟨_, .tail _ (.tail _ (.tail _ (.head _))), rough_bind h⟩)⟩
        · split
          · next h =>
            exact ⟨_, rfl, rfl, .inr (.inr ⟨_, .tail _ (.tail _ (.tail _ (.tail _ (.head _)))), rough_connect h⟩)⟩
          · exact ⟨_, rfl, rfl, .inr (.inl ⟨fd, _, _, _, _, rfl, rfl⟩)⟩

theorem dial_keeps (os : Posix σ) (b : StreamBT) (s : List Syscall × σ) :
    Keeps ((Ledger.of Syscall.effect s.1).held = [])
      (.of b s) (.of (dial os.traced b s).2.1 (dial os.traced b s).2.2) := by
  obtain ⟨new, hcalls, hmac, hexit⟩ := dial_cases os b s
  refine ⟨hmac, new, hcalls, ?_⟩
  intro h hs how
  have hled : (Observed.of (dial os.traced b s).2.1 (dial os.traced b s).2.2).ledger =
      new.foldl (fun l c => l.note c.effect) (Ledger.of Syscall.effect s.1) := by
    rw [← Ledger.of_append, ← hcalls]
    rfl
  rcases hexit with ⟨rfl, hsock⟩ | ⟨fd, r₁, r₂, r₃, r₄, rfl, hsock⟩ | ⟨c, hc, hrough⟩
  · exact ⟨by rw [hled]; exact how.atMostOne, .inl ⟨hsock, by rw [hled]; exact h⟩,
      by rw [hled]; exact how.closes⟩
  · have hheld : (Observed.of (dial os.traced b s).2.1 (dial os.traced b s).2.2).ledger.held = [(fd : Int)] := by
      rw [hled]
      show (fd : Int) :: (Ledger.of Syscall.effect s.1).held = [(fd : Int)]
      rw [h]
    refine ⟨by rw [hheld]; exact Nat.le_refl _, .inr ⟨?_, ?_⟩, by rw [hled]; exact how.closes⟩
    · show 0 ≤ (dial os.traced b s).2.1.btSocket
      rw [hsock]
      exact Int.natCast_nonneg fd
    · rw [hheld]
      exact congrArg (fun x => [x]) hsock.symm
  · obtain ⟨before, hbefore⟩ := Since.of_mem hs hc
    exact absurd hbefore (hrough _ before)

theorem reconnect_keeps (os : Posix σ) (b : StreamBT) (s : List Syscall × σ) :
    Keeps (b.btMacAddress = "" ∨ (Ledger.of Syscall.effect s.1).held = [])
      (.of b s) (.of (reconnect os.traced b s).2.1 (reconnect os.traced b s).2.2) := by
  rw [reconnect]
  split
  · exact Keeps.refl _ _
  · next hmac =>
    obtain ⟨hm, new, hc, ho⟩ := dial_keeps os b s
    refine ⟨hm, new, hc, ?_⟩
    intro h
    have hset : b.btMacAddress ≠ "" := by simpa using hmac
    exact ho (h.resolve_left hset)

/-- A read or a write changes nothing. -/
theorem owns_snoc {b : StreamBT} {calls : List Syscall} {s s' : σ} {c : Syscall} (hc : c.effect = .neutral)
    (how : Owns (.of b (calls, s))) : Owns (.of b (calls ++ [c], s')) := by
  have hled : (Observed.of b (calls ++ [c], s')).ledger = (Observed.of b (calls, s)).ledger := by
    rw [Observed.ledger, Observed.of, Ledger.of_append, List.foldl_cons, List.foldl_nil, hc]
    rfl
  exact ⟨by rw [hled]; exact how.atMostOne, by rw [hled]; exact how.socket, by rw [hled]; exact how.closes⟩

theorem neutral_keeps (b : StreamBT) (calls : List Syscall) {s s' : σ} {c : Syscall}
    (hc : c.effect = .neutral) : Keeps True (.of b (calls, s)) (.of b (calls ++ [c], s')) :=
  ⟨rfl, [c], rfl, fun _ _ how => owns_snoc hc how⟩

/-- A failed read or write, and the `reconnect` after it. -/
theorem retry_keeps (os : Posix σ) (b : StreamBT) (calls : List Syscall) (s s' : σ) (c : Syscall)
    (hc : c.effect = .neutral)
    (hfail : Smooth b.btMacAddress calls c →
      b.btMacAddress = "" ∨ (Ledger.of Syscall.effect calls).held = []) :
    Keeps True (.of b (calls, s)) (.of (reconnect os.traced b (calls ++ [c], s')).2.1
      (reconnect os.traced b (calls ++ [c], s')).2.2) := by
  obtain ⟨hm, new, hcalls, ho⟩ := reconnect_keeps os b (calls ++ [c], s')
  refine ⟨hm, c :: new, by rw [hcalls]; simp [Observed.of], ?_⟩
  intro _ hs how
  rw [Since.cons] at hs
  refine ho ?_ hs.2 (owns_snoc hc how)
  rw [Ledger.of_append, List.foldl_cons, List.foldl_nil, hc]
  exact hfail hs.1

theorem writeLoop_keeps (os : Posix σ) (byte : UInt8) (tries : Nat) (c : Int) (b : StreamBT)
    (s : List Syscall × σ) :
    Keeps True (.of b s)
      (.of (writeLoop os.traced byte tries c b s).2.1 (writeLoop os.traced byte tries c b s).2.2) := by
  induction tries generalizing c b s with
  | zero => exact Keeps.refl _ _
  | succ tries ih =>
    obtain ⟨calls, s⟩ := s
    rw [writeLoop, traced_write]
    simp only
    split
    · exact neutral_keeps b calls rfl
    · next hfail =>
      have hretry := retry_keeps os b calls s (os.write b.btSocket byte s).2
        (.write b.btSocket byte (os.write b.btSocket byte s).1) rfl fun hsm => hsm (by omega)
      exact hretry.trans (ih _ _ _)

theorem readLoop_keeps (os : Posix σ) (length fuel readC numZeros : Nat) (buffer : List UInt8) (b : StreamBT)
    (s : List Syscall × σ) {out : Nat × List UInt8 × StreamBT × List Syscall × σ}
    (h : readLoop os.traced length fuel readC numZeros buffer b s = some out) :
    Keeps True (.of b s) (.of out.2.2.1 out.2.2.2) := by
  have hfail : ∀ {b' : StreamBT} {s' s'' : List Syscall × σ} {n : Nat},
      Keeps True (.of b s) (.of b' s') → os.traced.read b'.btSocket n s' = (none, s'') →
      Keeps True (.of b s) (.of (reconnect os.traced b' s'').2.1 (reconnect os.traced b' s'').2.2) := by
    intro b' s' s'' n hI hr
    obtain ⟨calls, s'⟩ := s'
    rw [traced_read, Prod.mk.injEq] at hr
    obtain ⟨hnone, rfl⟩ := hr
    rw [hnone]
    -- the loop goes on with a new socket
    exact hI.trans (retry_keeps os b' calls s' _ (.read b'.btSocket none) rfl fun hsm => hsm rfl)
  -- a read that succeeds changes nothing, empty or not
  have hread : ∀ {b' : StreamBT} {s' s'' : List Syscall × σ} {n : Nat} {c : { bs : List UInt8 // bs.length ≤ n }},
      Keeps True (.of b s) (.of b' s') → os.traced.read b'.btSocket n s' = (some c, s'') →
      Keeps True (.of b s) (.of b' s'') := by
    intro b' s' s'' n c hI hr
    obtain ⟨calls, s'⟩ := s'
    rw [traced_read, Prod.mk.injEq] at hr
    obtain ⟨-, rfl⟩ := hr
    exact hI.trans (neutral_keeps b' calls rfl)
  obtain ⟨numZeros', hI, -⟩ := readLoop_run (I := fun _ _ _ b' s' => Keeps True (.of b s) (.of b' s'))
    (fun hI _ _ hr => hfail hI hr) (fun hI _ _ hr _ => hread hI hr) (fun hI _ _ hr _ => hread hI hr) h
    (Keeps.refl _ _)
  exact hI

/-! ## Calls and runs -/

theorem Keeps.owns {H : Prop} {t t' : Observed σ} (h : Keeps H t t') (hH : H)
    (hs : Since (Smooth t.stream.btMacAddress) t.calls (t'.calls.drop t.calls.length)) (how : Owns t) :
    Owns t' := by
  obtain ⟨-, new, hc, ho⟩ := h
  rw [hc, List.drop_left] at hs
  exact ho hH hs how

/-- `disconnect` closes the descriptor held, and no other. -/
theorem disconnect_owns (os : Posix σ) {t : Observed σ} (how : Owns t) :
    Owns (call os t .disconnect) ∧ (call os t .disconnect).ledger.held = [] := by
  obtain ⟨⟨btSocket, mac⟩, calls, s⟩ := t
  rcases how.socket with ⟨hsock, hheld⟩ | ⟨hsock, hheld⟩
  · simp only at hsock
    subst hsock
    exact ⟨⟨how.atMostOne, .inl ⟨rfl, hheld⟩, how.closes⟩, hheld⟩
  · simp only at hsock hheld
    have hled : (call os ⟨⟨btSocket, mac⟩, calls, s⟩ .disconnect).ledger =
        (Ledger.of Syscall.effect calls).note (.release btSocket) := by
      simp only [call, disconnect, hsock, if_true, traced_close]
      rw [Observed.ledger, Observed.of, Ledger.of_append]
      rfl
    have hheld' : (Ledger.of Syscall.effect calls).held = [btSocket] := hheld
    have hempty : (call os ⟨⟨btSocket, mac⟩, calls, s⟩ .disconnect).ledger.held = [] := by
      rw [hled, Ledger.note, hheld']
      simp
    refine ⟨⟨by rw [hempty]; exact Nat.zero_le _, .inl ⟨rfl, hempty⟩, ?_⟩, hempty⟩
    have hclose : (Ledger.of Syscall.effect calls).misused = [] := how.closes
    rw [hled, Ledger.note, hheld']
    simpa using hclose

theorem call_owns (os : Posix σ) (t : Observed σ) (c : Call) (how : Owns t) (hsafe : Safe os t c) :
    Owns (call os t c) := by
  obtain ⟨b, calls, s⟩ := t
  cases c with
  | connect mac =>
    have how' : Owns (.of { b with btMacAddress := mac } (calls, s)) := ⟨how.atMostOne, how.socket, how.closes⟩
    exact (reconnect_keeps os { b with btMacAddress := mac } (calls, s)).owns hsafe.1 hsafe.2 how'
  | reconnect => exact (reconnect_keeps os b (calls, s)).owns hsafe.1 hsafe.2 how
  | write byte => exact (writeLoop_keeps os byte 3 0 b (calls, s)).owns trivial hsafe how
  | readBytes buffer length =>
    obtain ⟨out, hout⟩ := readBytes_returns os.traced buffer length (b, calls, s)
    have hcall : call os ⟨b, calls, s⟩ (.readBytes buffer length) = .of out.2.2.1 out.2.2.2 := by
      simp only [call, hout]
    simp only [Safe, made, hcall] at hsafe
    rw [hcall]
    exact (readLoop_keeps os length _ 0 0 buffer b (calls, s) hout).owns trivial hsafe how
  | disconnect => exact (disconnect_owns os how).1

theorem owns_fresh (s : σ) : Owns (Observed.fresh s) := ⟨Nat.zero_le _, .inl ⟨rfl, rfl⟩, rfl⟩

/-- `disconnect` leaves no descriptor open. -/
def LeavesNone (os : Posix σ) (t : Observed σ) : Call → Prop
  | .disconnect => (call os t .disconnect).ledger.held = []
  | _ => True

/-- **Ownership.** In a run of safe calls the stream owns its descriptor in
    every state, and `disconnect` leaves none open. -/
theorem owns_descriptor (os : Posix σ) (s : σ) (cs : List Call)
    (h : Run.Each (call os) (Safe os) (Observed.fresh s) cs) :
    Run.Always (call os) Owns (Observed.fresh s) cs ∧
      Run.Each (call os) (LeavesNone os) (Observed.fresh s) cs := by
  have hrun : Run.Always (call os) Owns (Observed.fresh s) cs :=
    Run.always_of_each (call_owns os) (owns_fresh s) h
  refine ⟨hrun, hrun.each ?_⟩
  intro t c how
  cases c with
  | disconnect => exact (disconnect_owns os how).2
  | _ => trivial

/-- Connected, used, closed, and connected again. -/
def useTwice : List Call :=
  [.connect "00:11:22:33:44:55", .write 0x85, .readBytes [0, 0] 2, .disconnect, .reconnect, .disconnect]

theorem owns_descriptor_useTwice :
    Run.Each (call Posix.obliging) (Safe Posix.obliging) (Observed.fresh 3) useTwice ∧
      Run.Always (call Posix.obliging) Owns (Observed.fresh 3) useTwice ∧
      Run.Each (call Posix.obliging) (LeavesNone Posix.obliging) (Observed.fresh 3) useTwice := by
  have h : Run.Each (call Posix.obliging) (Safe Posix.obliging) (Observed.fresh 3) useTwice := by decide
  exact ⟨h, owns_descriptor Posix.obliging 3 useTwice h⟩

/-- Connected twice, the stream has two descriptors open. -/
theorem connect_twice_leaks :
    ¬ Run.Always (call Posix.obliging) Owns (Observed.fresh 3)
      [.connect "00:11:22:33:44:55", .connect "00:11:22:33:44:55"] := by
  decide

end StreamBT

end TicFocuserNG
