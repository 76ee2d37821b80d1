import TicFocuserNG.Deployment

/- A move seen to its end by the polls of the driver.

   Between any two operations the motor makes a step at least, and a poll is eight
   operations. `polls_complete_move`: over either transport, from any state that
   requests lead to, a request answered busy is reported ok, with the target as the
   position, by as many polls as its way needs, and is busy until then. -/
namespace TicFocuserNG

/-- The target of a request for one. -/
def TicFocuser.asked (f : TicFocuser) : Request → Option UInt32
  | .moveAbs t => some t
  | .moveRel dir t => some (f.targetTicks dir t)
  | _ => none

namespace Deployment

open World (OnTheWay Completed Waits Reported)

/-! ## A poll as a part of the way -/

section
variable {b : Board}

theorem waits_idle (k n : Nat) : ∀ e ∈ b.idle k n, Waits e := by
  induction n generalizing k with
  | zero => simp [Board.idle]
  | succ n ih =>
    intro e he
    rcases List.mem_cons.mp he with rfl | he
    · exact trivial
    · exact ih (k + 1) e he

theorem steps_idle (hpace : ∀ k, 0 < b.pace k) (k n : Nat) : n ≤ World.steps (b.idle k n) := by
  induction n generalizing k with
  | zero => exact Nat.zero_le _
  | succ n ih =>
    have hfirst := hpace k
    have hrest := ih (k + 1)
    rw [Board.idle, World.steps]
    omega

theorem steps_append (es es' : List Event) : World.steps (es ++ es') = World.steps es + World.steps es' := by
  induction es with
  | nil => simp [World.steps]
  | cons e es ih =>
    cases e <;> simp [World.steps, ih, Nat.add_assoc]

/-- A poll of the driver is a part of the way of eight steps at least, with two of them
    before the poll of the system. -/
theorem poll_way (hpace : ∀ k, 0 < b.pace k) {f : TicFocuser} (hconn : f.connected = true) (ops : List TicOp) :
    ∃ es, (∀ e ∈ es, Waits e) ∧ Reported 2 es ∧ 8 ≤ World.steps es ∧
      es.foldl World.step (system b (f, ops)) = system b (step (firmwareInterface b) (f, ops) .poll) := by
  obtain ⟨hbefore, hpoll, hrest⟩ := poll_run (b := b) hconn ops
  have htwo := steps_idle hpace ops.length 2
  have hsix := steps_idle hpace (ops.length + 2) 6
  refine ⟨b.idle ops.length 2 ++ .poll true :: b.idle (ops.length + 2) 6, ?_, ⟨_, _, rfl, htwo⟩, ?_, ?_⟩
  · intro e he
    rcases List.mem_append.mp he with he | he
    · exact waits_idle _ _ e he
    · rcases List.mem_cons.mp he with rfl | he
      · exact trivial
      · exact waits_idle _ _ e he
  · have hsteps : World.steps (b.idle ops.length 2 ++ .poll true :: b.idle (ops.length + 2) 6) =
        World.steps (b.idle ops.length 2) + World.steps (b.idle (ops.length + 2) 6) := steps_append _ _
    omega
  · rw [List.foldl_append, hbefore, List.foldl_cons, hpoll, hrest]

/-! ## The polls after a request -/

def polled {σ : Type} (drv : TicDriverInterface σ) (s : TicFocuser × σ) (n : Nat) : TicFocuser × σ :=
  (List.replicate n Request.poll).foldl (step drv) s

theorem polled_succ {σ : Type} (drv : TicDriverInterface σ) (s : TicFocuser × σ) (n : Nat) :
    polled drv s (n + 1) = step drv (polled drv s n) .poll := by
  rw [polled, List.replicate_succ', List.foldl_append]
  rfl

theorem Reported.of_le {m n : Nat} {es : List Event} (h : Reported n es) (hle : m ≤ n) : Reported m es := by
  obtain ⟨es₁, es₂, heq, hn⟩ := h
  exact ⟨es₁, es₂, heq, Nat.le_trans hle hn⟩

/-- A poll on the way goes on by eight steps, or ends it; it ends what is left of two. -/
theorem poll_onTheWay (hpace : ∀ k, 0 < b.pace k) {s : TicFocuser × List TicOp} {p : Int32} {m : Nat}
    (h : OnTheWay p m (system b s)) :
    ((∃ m', m' ≤ m - 8 ∧ OnTheWay p m' (system b (step (firmwareInterface b) s .poll))) ∨
        Completed p (system b (step (firmwareInterface b) s .poll))) ∧
      (m ≤ 2 → Completed p (system b (step (firmwareInterface b) s .poll))) := by
  obtain ⟨es, hes, htwo, height, hrun⟩ := poll_way hpace (f := s.1) h.connected s.2
  obtain ⟨hyes, hno⟩ := h.run hes
  rw [hrun] at hyes hno
  refine ⟨?_, fun hm => hyes (Reported.of_le htwo hm)⟩
  by_cases hr : Reported m es
  · exact .inr (hyes hr)
  · exact .inl ⟨m - World.steps es, by omega, hno hr⟩

theorem poll_completed (hpace : ∀ k, 0 < b.pace k) {s : TicFocuser × List TicOp} {p : Int32}
    (h : Completed p (system b s)) : Completed p (system b (step (firmwareInterface b) s .poll)) := by
  obtain ⟨es, hes, -, -, hrun⟩ := poll_way hpace (f := s.1) h.connected s.2
  rw [← hrun]
  exact h.run hes

theorem polls_onTheWay (hpace : ∀ k, 0 < b.pace k) {s : TicFocuser × List TicOp} {p : Int32} {m : Nat}
    (h : OnTheWay p m (system b s)) (n : Nat) :
    (∃ m', m' ≤ m - 8 * n ∧ OnTheWay p m' (system b (polled (firmwareInterface b) s n))) ∨
      Completed p (system b (polled (firmwareInterface b) s n)) := by
  induction n with
  | zero => exact .inl ⟨m, Nat.le_refl m, h⟩
  | succ n ih =>
    rw [polled_succ]
    rcases ih with ⟨m', hm', h'⟩ | h'
    · rcases (poll_onTheWay hpace h').1 with ⟨m'', hm'', h''⟩ | h''
      · exact .inl ⟨m'', by omega, h''⟩
      · exact .inr h''
    · exact .inr (poll_completed hpace h')

theorem polls_completed (hpace : ∀ k, 0 < b.pace k) {s : TicFocuser × List TicOp} {p : Int32} {m : Nat}
    (h : OnTheWay p m (system b s)) {n : Nat} (hn : m ≤ 8 * n + 2) :
    Completed p (system b (polled (firmwareInterface b) s (n + 1))) := by
  rw [polled_succ]
  rcases polls_onTheWay hpace h n with ⟨m', hm', h'⟩ | h'
  · exact (poll_onTheWay hpace h').2 (by omega)
  · exact poll_completed hpace h'

/-! ## Seen to its end -/

/-- No request connects or disconnects the driver. -/
theorem connected_step {σ : Type} (drv : TicDriverInterface σ) (s : TicFocuser × σ) (r : Request) :
    (step drv s r).1.connected = s.1.connected := by
  obtain ⟨f, c⟩ := s
  cases r with
  | moveAbs t =>
    rw [step, TicFocuser.serve, moveAbsFocuser_outcome]
    rfl
  | moveRel dir t =>
    rw [step, TicFocuser.serve, TicFocuser.moveRelFocuser, moveAbsFocuser_outcome]
    rfl
  | abort =>
    show (if (drv.haltAndHold c).1 then f.setAbsState .idle else f).connected = f.connected
    split <;> rfl
  | sync t =>
    show (if (drv.haltAndSetPosition t.toInt32 c).1 then
      { f with focusAbsPosNP := { f.focusAbsPosNP with value := t.toNat } } else f).connected = f.connected
    split <;> rfl
  | poll =>
    rw [step, TicFocuser.serve, TicFocuser.timerHit]
    rcases drv.getVariables c with ⟨vars, c'⟩
    split
    · cases vars with
      | none => rfl
      | some vars => exact (World.received_keeps vars f).1
    · rfl
  | setBacklash enabled steps => rfl
  | energize => rfl
  | deenergize => rfl

theorem connected_run {σ : Type} (drv : TicDriverInterface σ) (s : TicFocuser × σ) (rs : List Request) :
    (rs.foldl (step drv) s).1.connected = s.1.connected := by
  apply List.foldlRecOn rs (step drv) (motive := fun s' => s'.1.connected = s.1.connected) rfl
  intro s' hs r _
  rw [connected_step, hs]

/-- A request answered busy starts the way to what is sent for its target. -/
theorem busy_onTheWay {s : TicFocuser × List TicOp} (hconn : s.1.connected = true) {r : Request}
    (hans : (TicFocuser.serve (firmwareInterface b) s r).1 = some .busy) :
    ∃ t, s.1.asked r = some t ∧ s.1.limits.Contains (s.1.compensate t).1.toNat ∧
      (s.1.compensate t).1.toInt32.toInt = (s.1.compensate t).1.toNat ∧
      OnTheWay (s.1.compensate t).1.toInt32 (b.after (step (firmwareInterface b) s r).2).way
        (system b (step (firmwareInterface b) s r)) := by
  obtain ⟨f, ops⟩ := s
  have hstarts : ∀ (e : Event) (t : UInt32), (World.mk f (b.now ops)).requested e = some t →
      (World.respond ⟨f, b.now ops⟩ e).1 = some .busy →
      World.step ⟨f, b.now ops⟩ e = system b (step (firmwareInterface b) (f, ops) r) →
      f.limits.Contains (f.compensate t).1.toNat ∧ (f.compensate t).1.toInt32.toInt = (f.compensate t).1.toNat ∧
        OnTheWay (f.compensate t).1.toInt32 (b.after (step (firmwareInterface b) (f, ops) r).2).way
          (system b (step (firmwareInterface b) (f, ops) r)) := by
    intro e t ht hbusy hstep
    obtain ⟨hin, hint⟩ := World.sent_within ht hbusy
    have hway := World.onTheWay_request (w := ⟨f, b.now ops⟩) hconn ht hbusy
    rw [hstep] at hway
    exact ⟨hin, hint, hway⟩
  cases r with
  | moveAbs t =>
    have hbusy : f.answer t true = .busy := by
      rw [TicFocuser.serve, moveAbsFocuser_outcome] at hans
      exact Option.some.inj hans
    obtain ⟨hmove, hctl⟩ := sent_busy (b := b) hbusy ops
    refine ⟨t, rfl, hstarts (.moveAbs t true) t rfl ?_ ?_⟩
    · rw [World.respond_moveAbs, hbusy]
    · rw [World.step, World.respond_moveAbs, hctl, hbusy, step, TicFocuser.serve, hmove]
      rfl
  | moveRel dir t =>
    have hbusy : f.answer (f.targetTicks dir t) true = .busy := by
      rw [TicFocuser.serve, TicFocuser.moveRelFocuser, moveAbsFocuser_outcome] at hans
      exact Option.some.inj hans
    obtain ⟨hmove, hctl⟩ := sent_busy (b := b) hbusy ops
    refine ⟨f.targetTicks dir t, rfl, hstarts (.moveRel dir t true) _ rfl ?_ ?_⟩
    · rw [World.respond_moveRel, hbusy]
    · rw [World.step, World.respond_moveRel, hctl, hbusy, step, TicFocuser.serve, TicFocuser.moveRelFocuser, hmove]
      rfl
  | _ => cases hans

/-- From the state `s`, polls see the motor over the `way` to `p`: the position is busy
    or ok after any number of them, with `p` as its value when it is ok; and it is ok
    after as many polls as the way needs. -/
structure SeenTo {σ : Type} (drv : TicDriverInterface σ) (s : TicFocuser × σ) (p : Int) (way : Nat) : Prop where
  busy : ∀ n, (polled drv s n).1.focusAbsPosNP.state ≠ .busy → (polled drv s n).1.focusAbsPosNP = ⟨p, .ok⟩
  ok : ∀ n, way ≤ 8 * n + 2 → (polled drv s (n + 1)).1.focusAbsPosNP = ⟨p, .ok⟩

theorem Completed.property {p : Int32} {w : World} (h : Completed p w) :
    w.focuser.focusAbsPosNP = ⟨p.toInt, .ok⟩ := by
  rw [← h.value, ← h.ok]

theorem seenTo_of_onTheWay (hpace : ∀ k, 0 < b.pace k) {s : TicFocuser × List TicOp} {p : Int32} {m : Nat}
    (h : OnTheWay p m (system b s)) : SeenTo (firmwareInterface b) s p.toInt m where
  busy := by
    intro n hn
    rcases polls_onTheWay hpace h n with ⟨m', -, h'⟩ | h'
    · exact absurd h'.busy hn
    · exact Completed.property h'
  ok := by
    intro n hn
    have h' := polls_completed hpace h hn
    exact Completed.property h'

/-- The request `r` after the requests `rs`, over an interface `drv`: the board was asked
    for `ops`, and polls see its motor to what was sent. -/
def Carried {σ : Type} (b : Board) (drv : TicDriverInterface σ) (R : σ → List TicOp → Prop) (s : TicFocuser × σ)
    (rs : List Request) (r : Request) : Prop :=
  ∃ t ops, (rs.foldl (step drv) s).1.asked r = some t ∧ R ((rs ++ [r]).foldl (step drv) s).2 ops ∧
    SeenTo drv ((rs ++ [r]).foldl (step drv) s) ((rs.foldl (step drv) s).1.compensate t).1.toNat (b.after ops).way

theorem carried_of_related {σ : Type} {drv : TicDriverInterface σ} {R : σ → List TicOp → Prop}
    (h : drv.Related (firmwareInterface b) R) (hpace : ∀ k, 0 < b.pace k) {f : TicFocuser} (hconn : f.connected = true)
    {c : σ} (hR : R c []) (rs : List Request) (r : Request)
    (hans : (TicFocuser.serve drv (rs.foldl (step drv) (f, c)) r).1 = some .busy) : Carried b drv R (f, c) rs r := by
  have hrun : ∀ rs' : List Request, (rs'.foldl (step drv) (f, c)).1 = (rs'.foldl (step (firmwareInterface b)) (f, [])).1 :=
    fun rs' => (run_related h f hR rs').2.1
  have hbefore : (rs.foldl (step (firmwareInterface b)) (f, [])).1.connected = true := by
    rw [connected_run]
    exact hconn
  rw [answer_related h f hR] at hans
  obtain ⟨t, ht, -, hint, hway⟩ := busy_onTheWay hbefore hans
  have hafter : (rs ++ [r]).foldl (step (firmwareInterface b)) (f, []) =
      step (firmwareInterface b) (rs.foldl (step (firmwareInterface b)) (f, [])) r := List.foldl_append ..
  have hseen := seenTo_of_onTheWay hpace hway
  rw [hint, ← hafter] at hseen
  -- the polls are more requests
  have hpolls : ∀ n, (polled drv ((rs ++ [r]).foldl (step drv) (f, c)) n).1 =
      (polled (firmwareInterface b) ((rs ++ [r]).foldl (step (firmwareInterface b)) (f, [])) n).1 := by
    intro n
    rw [polled, polled, ← List.foldl_append, ← List.foldl_append]
    exact hrun _
  refine ⟨t, _, (congrArg (fun f' => f'.asked r) (hrun rs)).trans ht, (run_related h f hR (rs ++ [r])).2.2, ?_, ?_⟩
  · intro n hn
    rw [hpolls] at hn ⊢
    rw [hseen.busy n hn, hrun]
  · intro n hn
    rw [hpolls, hseen.ok n (hafter ▸ hn), hrun]

/-- **A move is seen to its end.** A board whose motor makes a step at least between
    two operations, after any requests, over either transport: a request answered busy
    is reported ok, with the target as the position, by as many polls as its way needs,
    and is busy until then. -/
theorem polls_complete_move (b : Board) (hpace : ∀ k, 0 < b.pace k) (found : Nat → Nat) (hfound : ∀ k, 0 < found k)
    (handle : Option Nat) (bt : StreamBT) (u : TiclibInterface (TicUsb (List TicOp)) → Uninit)
    (u' : TiclibInterface (StreamBT × SerialTic) → Uninit) (f : TicFocuser) (hconn : f.connected = true)
    (rs : List Request) (r : Request) :
    ((TicFocuser.serve (TiclibInterface.driver (TicUsb.base (usbTic b.firmware)) u)
          (rs.foldl (step (TiclibInterface.driver (TicUsb.base (usbTic b.firmware)) u)) (f, some (overUsb b handle))) r).1 =
        some .busy →
      Carried b (TiclibInterface.driver (TicUsb.base (usbTic b.firmware)) u) (Stands b OnBus)
        (f, some (overUsb b handle)) rs r) ∧
    ((TicFocuser.serve
          (TiclibInterface.driver (TicSerial.base (StreamBT.stream (serialTic b.firmware found)) 255) u')
          (rs.foldl (step (TiclibInterface.driver (TicSerial.base (StreamBT.stream (serialTic b.firmware found)) 255) u'))
            (f, some (overBluetooth b bt))) r).1 =
        some .busy →
      Carried b (TiclibInterface.driver (TicSerial.base (StreamBT.stream (serialTic b.firmware found)) 255) u')
        (Stands b OnLine) (f, some (overBluetooth b bt)) rs r) := by
  have hbus : Stands b OnBus (some (overUsb b handle)) [] := ⟨_, rfl, onBus_overUsb b handle, rfl⟩
  have hline : Stands b OnLine (some (overBluetooth b bt)) [] := ⟨_, rfl, onLine_overBluetooth b bt, rfl⟩
  refine ⟨?_, ?_⟩
  · intro hans
    exact carried_of_related (driver_related (usb_serves b.firmware)) hpace hconn hbus rs r hans
  · intro hans
    exact carried_of_related (driver_related (serial_serves b.firmware hfound)) hpace hconn hline rs r hans

/-- Energized and sent to 100; one byte a read. -/
theorem polls_complete_move_to100 :
    (∀ k, 0 < Board.atZero.pace k) ∧ (∀ k : Nat, 0 < (fun _ : Nat => 1) k) ∧
      Carried Board.atZero (TiclibInterface.driver (TicUsb.base (usbTic Board.atZero.firmware)) (fun _ _ _ => 0xAA))
        (Stands Board.atZero OnBus) (World.atZero.focuser, some (overUsb Board.atZero (some 1))) [.energize]
        (.moveAbs 100) ∧
      Carried Board.atZero (TiclibInterface.driver
          (TicSerial.base (StreamBT.stream (serialTic Board.atZero.firmware (fun _ => 1))) 255) (fun _ _ _ => 0x55))
        (Stands Board.atZero OnLine) (World.atZero.focuser, some (overBluetooth Board.atZero {})) [.energize]
        (.moveAbs 100) := by
  have hpace : ∀ k, 0 < Board.atZero.pace k := fun _ => (by decide : 0 < 30)
  have hfound : ∀ k : Nat, 0 < (fun _ : Nat => 1) k := fun _ => Nat.one_pos
  obtain ⟨husb, hline⟩ := polls_complete_move Board.atZero hpace (fun _ => 1) hfound (some 1) {} (fun _ _ _ => 0xAA)
    (fun _ _ _ => 0x55) World.atZero.focuser rfl [.energize] (.moveAbs 100)
  exact ⟨hpace, hfound, husb rfl, hline rfl⟩

end

end Deployment

end TicFocuserNG
