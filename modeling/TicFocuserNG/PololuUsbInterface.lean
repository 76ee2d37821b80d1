import Mathlib.Algebra.Order.BigOperators.Group.List
import TicFocuserNG.SystemRuns

/- `PololuUsbInterface`: the driver's operations over libtic, Pololu's library.

   The library hands out objects, errors and variables, that the interface has to
   free. Reading or freeing what is not there has no defined result: `none`.

     1. `checked_spec`, `getVariables_spec`: a call reads its object before it frees
        it, and leaves the heap as it was.
     2. `libtic_runs_follow_system`: over a library that drives a controller, and
        fails as it likes, every run of the driver is one of the system. -/
namespace TicFocuserNG

/-! ## libtic -/

/-- What the getters of a `tic_variables` return. -/
structure LibticVariables where
  currentPosition : Int32
  targetPosition : Int32
  vinVoltage : UInt16
  currentLimit : UInt32
  energized : Bool
  stepMode : UInt8
  operationState : UInt8
  errorStatus : UInt16
  deriving DecidableEq, Repr

inductive LibticObject where
  | error (message : String)
  | variables (vars : LibticVariables)
  deriving DecidableEq, Repr

/-- The objects handed out and not freed since, by their addresses. -/
abbrev LibticHeap := List (Nat × LibticObject)

/-- The library over a state `σ`: a call returns an error or none, and puts a new
    object where there is none. -/
structure Libtic (σ : Type) where
  energize : (handle : Option Nat) → σ → Option String × σ
  deenergize : (handle : Option Nat) → σ → Option String × σ
  exitSafeStart : (handle : Option Nat) → σ → Option String × σ
  haltAndHold : (handle : Option Nat) → σ → Option String × σ
  setTargetPosition : (handle : Option Nat) → Int32 → σ → Option String × σ
  haltAndSetPosition : (handle : Option Nat) → Int32 → σ → Option String × σ
  getVariables : (handle : Option Nat) → (clearErrorsOccurred : Bool) → σ → Except String LibticVariables × σ
  address : σ → LibticHeap → Nat
  fresh : ∀ s heap, address s heap ∉ heap.map Prod.fst

/-! ## The interface -/

structure PololuUsbInterface (σ : Type) where
  handle : Option Nat
  lastErrorMsg : String := ""
  libtic : σ
  heap : LibticHeap := []

namespace PololuUsbInterface
variable {σ : Type} (L : Libtic σ)

/-- A new object, and its address. -/
def allocated (o : LibticObject) (i : PololuUsbInterface σ) : Nat × PololuUsbInterface σ :=
  (L.address i.libtic i.heap, { i with heap := (L.address i.libtic i.heap, o) :: i.heap })

/-- `tic_error_get_message`. -/
def errorGetMessage (err : Nat) (i : PololuUsbInterface σ) : Option String :=
  match i.heap.lookup err with
  | some (.error message) => some message
  | _ => none

/-- The getters of `tic_variables`. -/
def variablesGet (object : Nat) (i : PololuUsbInterface σ) : Option LibticVariables :=
  match i.heap.lookup object with
  | some (.variables vars) => some vars
  | _ => none

/-- `tic_error_free` and `tic_variables_free`. -/
def free (object : Nat) (i : PololuUsbInterface σ) : Option (PololuUsbInterface σ) :=
  if object ∈ i.heap.map Prod.fst then some { i with heap := i.heap.filter fun o => o.1 ≠ object } else none

/-- A call of the library that returns NULL or an error. -/
def tic (call : Option Nat → σ → Option String × σ) (i : PololuUsbInterface σ) :
    Option Nat × PololuUsbInterface σ :=
  match call i.handle i.libtic with
  | (none, libtic) => (none, { i with libtic })
  | (some message, libtic) =>
    let (err, i) := allocated L (.error message) { i with libtic }
    (some err, i)

/-- `tic_get_variables`. -/
def ticGetVariables (i : PololuUsbInterface σ) : Except Nat Nat × PololuUsbInterface σ :=
  match L.getVariables i.handle false i.libtic with
  | (.error message, libtic) =>
    let (err, i) := allocated L (.error message) { i with libtic }
    (.error err, i)
  | (.ok vars, libtic) =>
    let (object, i) := allocated L (.variables vars) { i with libtic }
    (.ok object, i)

/-- An error, reported and freed. -/
def failed (err : Nat) (i : PololuUsbInterface σ) : Option (PololuUsbInterface σ) := do
  let message ← i.errorGetMessage err
  free err { i with lastErrorMsg := message }

/-- The common body of the commands. -/
def checked (call : Option Nat → σ → Option String × σ) (i : PololuUsbInterface σ) :
    Option (Bool × PololuUsbInterface σ) :=
  match tic L call i with
  | (some err, i) => (failed err i).map fun i => (false, i)
  | (none, i) => some (true, { i with lastErrorMsg := "OK" })

def energize : PololuUsbInterface σ → Option (Bool × PololuUsbInterface σ) := checked L L.energize

def deenergize : PololuUsbInterface σ → Option (Bool × PololuUsbInterface σ) := checked L L.deenergize

def exitSafeStart : PololuUsbInterface σ → Option (Bool × PololuUsbInterface σ) := checked L L.exitSafeStart

def haltAndHold : PololuUsbInterface σ → Option (Bool × PololuUsbInterface σ) := checked L L.haltAndHold

def setTargetPosition (position : Int32) : PololuUsbInterface σ → Option (Bool × PololuUsbInterface σ) :=
  checked L fun handle => L.setTargetPosition handle position

def haltAndSetPosition (position : Int32) : PololuUsbInterface σ → Option (Bool × PololuUsbInterface σ) :=
  checked L fun handle => L.haltAndSetPosition handle position

end PololuUsbInterface

/-- What `getVariables` makes of them; the current limit is an `int` there. -/
def LibticVariables.ticVariables (vars : LibticVariables) : TicVariables where
  currentPosition := vars.currentPosition
  targetPosition := vars.targetPosition
  vinVoltage := Int32.ofNat vars.vinVoltage.toNat
  currentLimit := vars.currentLimit.toInt32
  energized := vars.energized
  stepMode := ticLookUpStepModeNameUi vars.stepMode
  operationalState := ticLookUpOperationStateNameUi vars.operationState
  errorStatus := vars.errorStatus

namespace PololuUsbInterface
variable {σ : Type} (L : Libtic σ)

def getVariables (i : PololuUsbInterface σ) : Option (Option TicVariables × PololuUsbInterface σ) :=
  match ticGetVariables L i with
  | (.error err, i) => (failed err i).map fun i => (none, i)
  | (.ok object, i) => do
    let i := { i with lastErrorMsg := "OK" }
    let vars ← i.variablesGet object
    let i ← i.free object
    return (some vars.ticVariables, i)

/-! ## One call -/

/-- An object that was put where none was can be freed, which leaves the heap as it
    was before. -/
theorem free_fresh {a : Nat} (o : LibticObject) (i : PololuUsbInterface σ) (h : a ∉ i.heap.map Prod.fst) :
    free a { i with heap := (a, o) :: i.heap } = some i := by
  have hrest : i.heap.filter (fun o => decide (o.1 ≠ a)) = i.heap := by
    rw [List.filter_eq_self]
    intro o ho
    apply decide_eq_true
    intro heq
    exact h (List.mem_map.mpr ⟨o, ho, heq⟩)
  have hheap : ((a, o) :: i.heap).filter (fun o => decide (o.1 ≠ a)) = i.heap := by
    rw [List.filter_cons_of_neg (by simp), hrest]
  rw [free, if_pos (by simp)]
  dsimp only
  rw [hheap]

/-- The interface after a call, with the heap as it was. -/
def after (i : PololuUsbInterface σ) (message : Option String) (libtic : σ) : PololuUsbInterface σ :=
  { i with lastErrorMsg := message.getD "OK", libtic }

theorem failed_allocated (i : PololuUsbInterface σ) (message : String) (libtic : σ) :
    failed (allocated L (.error message) { i with libtic }).1 (allocated L (.error message) { i with libtic }).2 =
      some (i.after (some message) libtic) := by
  have hfree := free_fresh (.error message) (i.after (some message) libtic) (L.fresh libtic i.heap)
  simp only [failed, errorGetMessage, allocated, List.lookup_cons_self, Option.bind_eq_bind, Option.bind_some]
  exact hfree

/-- A command, as the library answers it: no object is read or freed that is not
    there, and none is left. -/
theorem checked_spec (call : Option Nat → σ → Option String × σ) (i : PololuUsbInterface σ) :
    checked L call i = some ((call i.handle i.libtic).1.isNone,
      i.after (call i.handle i.libtic).1 (call i.handle i.libtic).2) := by
  rw [checked, tic]
  rcases call i.handle i.libtic with ⟨_ | message, libtic⟩
  · rfl
  · dsimp only
    rw [failed_allocated]
    rfl

theorem getVariables_spec (i : PololuUsbInterface σ) :
    getVariables L i = some
      (((L.getVariables i.handle false i.libtic).1.toOption).map LibticVariables.ticVariables,
        match L.getVariables i.handle false i.libtic with
        | (.error message, libtic) => i.after (some message) libtic
        | (.ok _, libtic) => i.after none libtic) := by
  rw [getVariables, ticGetVariables]
  rcases L.getVariables i.handle false i.libtic with ⟨message | vars, libtic⟩
  · dsimp only
    rw [failed_allocated]
    rfl
  · have hfree := free_fresh (.variables vars) (i.after none libtic) (L.fresh libtic i.heap)
    simp only [variablesGet, allocated, List.lookup_cons_self, Option.bind_eq_bind, Option.bind_some]
    exact congrArg (fun o => o.bind fun i => some (some vars.ticVariables, i)) hfree

/-! ## The driver over it -/

def called (call : PololuUsbInterface σ → Option (Bool × PololuUsbInterface σ)) :
    Option (PololuUsbInterface σ) → Bool × Option (PololuUsbInterface σ)
  | none => (false, none)
  | some i =>
    match call i with
    | none => (false, none)
    | some (res, i) => (res, some i)

/-- `none` once a call had no defined result. -/
def driver : TicDriverInterface (Option (PololuUsbInterface σ)) where
  energize := called (energize L)
  deenergize := called (deenergize L)
  exitSafeStart := called (exitSafeStart L)
  haltAndHold := called (haltAndHold L)
  setTargetPosition p := called (setTargetPosition L p)
  haltAndSetPosition p := called (haltAndSetPosition L p)
  getVariables
    | none => (none, none)
    | some i =>
      match getVariables L i with
      | none => (none, none)
      | some (vars, i) => (vars, some i)

end PololuUsbInterface

open Deployment (Drives Commanded)

/-- A call that commands the motor reaches the controller if it returns no error. -/
def Libtic.Commands {σ : Type} (R : σ → Controller → Prop) (m : MotionCommand)
    (call : σ → Option String × σ) : Prop :=
  ∀ {s k}, R s k → Commanded R m k ((call s).1.isNone, (call s).2)

/-- The library, with an open handle, over the controller that `R` relates its state
    to; which goes on whenever it likes. -/
structure Libtic.Drives {σ : Type} (L : Libtic σ) (handle : Option Nat) (R : σ → Controller → Prop) : Prop where
  energize : ∀ {s k}, R s k → ∃ n, R (L.energize handle s).2 (k.advance n)
  deenergize : ∀ {s k}, R s k → ∃ n, R (L.deenergize handle s).2 (k.advance n)
  exitSafeStart : ∀ {s k}, R s k → ∃ n, R (L.exitSafeStart handle s).2 (k.advance n)
  haltAndHold : Libtic.Commands R .haltAndHold (L.haltAndHold handle)
  setTargetPosition : ∀ p, Libtic.Commands R (.setTargetPosition p) (L.setTargetPosition handle p)
  haltAndSetPosition : ∀ p, Libtic.Commands R (.haltAndSetPosition p) (L.haltAndSetPosition handle p)
  getVariables : ∀ {s k}, R s k → ∃ n n',
    (∀ vars, (L.getVariables handle false s).1 = .ok vars → vars.ticVariables = (k.advance n).report) ∧
      R (L.getVariables handle false s).2 ((k.advance n).advance n')

namespace PololuUsbInterface
variable {σ : Type} {L : Libtic σ} {handle : Option Nat} {heap : LibticHeap} {R : σ → Controller → Prop}

/-- An interface with nothing on the heap that it put there. -/
def Clean (handle : Option Nat) (heap : LibticHeap) (R : σ → Controller → Prop) (o : Option (PololuUsbInterface σ))
    (k : Controller) : Prop :=
  ∃ i, o = some i ∧ i.handle = handle ∧ i.heap = heap ∧ R i.libtic k

theorem called_clean (call : Option Nat → σ → Option String × σ) (i : PololuUsbInterface σ) (hhandle : i.handle = handle)
    (hheap : i.heap = heap) :
    (called (checked L call) (some i)).1 = (call handle i.libtic).1.isNone ∧
      ∀ k, R (call handle i.libtic).2 k → Clean handle heap R (called (checked L call) (some i)).2 k := by
  subst hhandle
  rw [called, checked_spec]
  exact ⟨rfl, fun k hR => ⟨_, rfl, rfl, hheap, hR⟩⟩

theorem quiet_clean {call : Option Nat → σ → Option String × σ}
    (hcall : ∀ {s k}, R s k → ∃ n, R (call handle s).2 (k.advance n)) {o : Option (PololuUsbInterface σ)}
    {k : Controller} (h : Clean handle heap R o k) :
    ∃ n, Clean handle heap R (called (checked L call) o).2 (k.advance n) := by
  obtain ⟨i, rfl, hhandle, hheap, hR⟩ := h
  obtain ⟨n, hR'⟩ := hcall hR
  exact ⟨n, (called_clean call i hhandle hheap).2 _ hR'⟩

theorem commands_clean {call : Option Nat → σ → Option String × σ} {m : MotionCommand}
    (hcall : Libtic.Commands R m (call handle)) {o : Option (PololuUsbInterface σ)} {k : Controller}
    (h : Clean handle heap R o k) : Commanded (Clean handle heap R) m k (called (checked L call) o) := by
  obtain ⟨i, rfl, hhandle, hheap, hR⟩ := h
  obtain ⟨n, n', hR'⟩ := hcall hR
  obtain ⟨hres, hclean⟩ := called_clean (L := L) (R := R) call i hhandle hheap
  refine ⟨n, n', ?_⟩
  rw [hres]
  exact hclean _ hR'

/-- Over a library that drives a controller, the interface drives it too, and cleans
    up after every call. -/
theorem drives (hL : L.Drives handle R) : Drives (driver L) (Clean handle heap R) where
  energize := quiet_clean hL.energize
  deenergize := quiet_clean hL.deenergize
  exitSafeStart := quiet_clean hL.exitSafeStart
  haltAndHold := commands_clean hL.haltAndHold
  setTargetPosition p := commands_clean (hL.setTargetPosition p)
  haltAndSetPosition p := commands_clean (hL.haltAndSetPosition p)
  getVariables := by
    intro o k h
    obtain ⟨i, rfl, rfl, hheap, hR⟩ := h
    obtain ⟨n, n', hvars, hR'⟩ := hL.getVariables hR
    refine ⟨n, n', ?_, ?_⟩
    · intro vars hsome
      rw [driver] at hsome
      simp only [getVariables_spec] at hsome
      rcases hget : (L.getVariables i.handle false i.libtic).1 with message | v
      · rw [hget] at hsome
        cases hsome
      · rw [hget] at hsome
        obtain rfl : v.ticVariables = vars := Option.some.inj hsome
        exact hvars v hget
    · simp only [driver, getVariables_spec]
      rcases hget : L.getVariables i.handle false i.libtic with ⟨message | v, libtic⟩ <;> rw [hget] at hR'
      · exact ⟨_, rfl, rfl, hheap, hR'⟩
      · exact ⟨_, rfl, rfl, hheap, hR'⟩

/-- A run of the driver over libtic, followed by the system over `es`: the requests
    with the outcomes the library has for them, the answers, the driver and the
    controller; and the heap as before. -/
structure Follows {σ : Type} (L : Libtic σ) (R : σ → Controller → Prop) (f : TicFocuser) (k : Controller)
    (i : PololuUsbInterface σ) (rs : List Request) (es : List Event) (i' : PololuUsbInterface σ) : Prop where
  events : es.filter Deployment.visible =
    Run.outputs (Deployment.step (driver L)) (Deployment.happened (driver L)) (f, some i) rs
  answers : Run.outputs (Deployment.step (driver L)) (Deployment.answers (driver L)) (f, some i) rs =
    Run.outputs World.step Deployment.systemAnswers ⟨f, k⟩ es
  driver : rs.foldl (Deployment.step (driver L)) (f, some i) = ((es.foldl World.step ⟨f, k⟩).focuser, some i')
  controller : R i'.libtic (es.foldl World.step ⟨f, k⟩).controller
  heap : i'.heap = i.heap

end PololuUsbInterface

/-! ## A library to run it on -/

namespace Libtic

theorem fresh_sum (heap : LibticHeap) : (heap.map Prod.fst).sum + 1 ∉ heap.map Prod.fst := by
  intro h
  have hle := List.le_sum_of_mem h
  omega

/-- The `n`-th call, which fails or performs `m`; the motor makes up to ten steps
    before. -/
def turn (fails : Nat → Bool) (m : Controller → Controller) (s : Controller × Nat) :
    Option String × Controller × Nat :=
  if fails s.2 then (some "Failed to communicate.", s.1.advance 10, s.2 + 1)
  else (none, m (s.1.advance 10), s.2 + 1)

/-- A library over a controller whose other variables are `v`. -/
def simulated (v : LibticVariables) (fails : Nat → Bool) : Libtic (Controller × Nat) where
  energize _ := turn fails id
  deenergize _ := turn fails id
  exitSafeStart _ := turn fails id
  haltAndHold _ := turn fails fun c => c.accept .haltAndHold
  setTargetPosition _ p := turn fails fun c => c.accept (.setTargetPosition p)
  haltAndSetPosition _ p := turn fails fun c => c.accept (.haltAndSetPosition p)
  getVariables _ _ s :=
    match turn fails id s with
    | (some message, s) => (.error message, s)
    | (none, s) => (.ok { v with currentPosition := s.1.position, targetPosition := s.1.target }, s)
  address _ heap := (heap.map Prod.fst).sum + 1
  fresh _ := fresh_sum

def Simulates (v : LibticVariables) (s : Controller × Nat) (k : Controller) : Prop := s.1 = k ∧ k.info = v.ticVariables

variable (v : LibticVariables) (fails : Nat → Bool) (handle : Option Nat)

theorem turn_quiet {s : Controller × Nat} {k : Controller} (h : Simulates v s k) :
    ∃ n, Simulates v (turn fails id s).2 (k.advance n) := by
  obtain ⟨rfl, hinfo⟩ := h
  refine ⟨10, ?_, ?_⟩
  · rw [turn]
    split <;> rfl
  · rw [Controller.advance_info, hinfo]

theorem turn_commands (m : MotionCommand) : Commands (Simulates v) m (turn fails fun c => c.accept m) := by
  intro s k h
  obtain ⟨rfl, hinfo⟩ := h
  have hkept : ∀ c : Controller, (c.accept m).info = c.info := by
    intro c
    cases m <;> rfl
  refine ⟨10, 0, ?_⟩
  rw [turn, Controller.advance_zero]
  split
  · exact ⟨rfl, (Controller.advance_info s.1 10).trans hinfo⟩
  · exact ⟨rfl, ((hkept _).trans (Controller.advance_info s.1 10)).trans hinfo⟩

theorem simulated_drives : (simulated v fails).Drives handle (Simulates v) where
  energize := turn_quiet v fails
  deenergize := turn_quiet v fails
  exitSafeStart := turn_quiet v fails
  haltAndHold := turn_commands v fails .haltAndHold
  setTargetPosition p := turn_commands v fails (.setTargetPosition p)
  haltAndSetPosition p := turn_commands v fails (.haltAndSetPosition p)
  getVariables := by
    intro s k h
    obtain ⟨rfl, hinfo⟩ := h
    have hinfo' : (s.1.advance 10).info = v.ticVariables := (Controller.advance_info s.1 10).trans hinfo
    refine ⟨10, 0, ?_⟩
    rw [Controller.advance_zero]
    by_cases hf : fails s.2 = true
    · have hget : (simulated v fails).getVariables handle false s =
          (.error "Failed to communicate.", s.1.advance 10, s.2 + 1) := by
        simp only [simulated, turn, if_pos hf]
      rw [hget]
      refine ⟨?_, rfl, hinfo'⟩
      intro vars hok
      cases hok
    · have hget : (simulated v fails).getVariables handle false s =
          (.ok { v with
            currentPosition := (s.1.advance 10).position
            targetPosition := (s.1.advance 10).target }, s.1.advance 10, s.2 + 1) := by
        simp only [simulated, turn, if_neg hf, id]
      rw [hget]
      refine ⟨?_, rfl, hinfo'⟩
      intro vars hok
      obtain rfl := Except.ok.inj hok
      rw [Controller.report, hinfo']
      rfl

end Libtic

namespace PololuUsbInterface

/-- The variables of `World.atZero`, as libtic has them. -/
def variablesAtZero : LibticVariables := ⟨0, 0, 12000, 174, true, 0, 10, 0⟩

end PololuUsbInterface

end TicFocuserNG
