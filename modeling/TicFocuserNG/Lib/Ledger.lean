import Mathlib.Data.List.Basic
import TicFocuserNG.Lib.Run

/- Bookkeeping of handles over a trace of events.

   `Ledger.of` replays a trace: which handles were acquired and not released
   since (`held`), and which were released while they were not held (`misused`).
   `Holds` is the ledger of exactly some handles, in any order, and of no misuse.
   `Since` says something of every event of a trace, given the events before
   it, from some point of the trace on. -/

inductive Effect (α : Type) where
  | acquire (a : α)
  | release (a : α)
  | neutral

structure Ledger (α : Type) where
  held : List α := []
  misused : List α := []
  deriving DecidableEq, Repr

namespace Ledger
variable {α ε : Type} [DecidableEq α]

def note (l : Ledger α) : Effect α → Ledger α
  | .acquire a => { l with held := a :: l.held }
  | .release a =>
    if a ∈ l.held then { l with held := l.held.erase a } else { l with misused := a :: l.misused }
  | .neutral => l

def of (effect : ε → Effect α) (trace : List ε) : Ledger α :=
  trace.foldl (fun l e => l.note (effect e)) {}

/-- A trace goes on from the ledger of its first part. -/
theorem of_append (effect : ε → Effect α) (old new : List ε) :
    of effect (old ++ new) = new.foldl (fun l e => l.note (effect e)) (of effect old) := by
  rw [of, of, List.foldl_append]

/-- Exactly `as` are held, and none was released while it was not. -/
structure Holds (l : Ledger α) (as : List α) : Prop where
  held : l.held.Perm as
  proper : l.misused = []

variable {l : Ledger α} {as bs : List α} {a : α}

omit [DecidableEq α] in
theorem Holds.perm (h : l.Holds as) (hp : as.Perm bs) : l.Holds bs := ⟨h.held.trans hp, h.proper⟩

theorem Holds.acquire (h : l.Holds as) (a : α) : (l.note (.acquire a)).Holds (a :: as) := ⟨h.held.cons a, h.proper⟩

theorem Holds.release (h : l.Holds (a :: as)) : (l.note (.release a)).Holds as := by
  have hmem : a ∈ l.held := h.held.mem_iff.mpr List.mem_cons_self
  have herase : (l.held.erase a).Perm ((a :: as).erase a) := h.held.erase a
  rw [List.erase_cons_head] at herase
  rw [note, if_pos hmem]
  exact ⟨herase, h.proper⟩

/-- One after the other. -/
theorem Holds.acquires (h : l.Holds as) (bs : List α) :
    ((bs.map Effect.acquire).foldl note l).Holds (bs ++ as) := by
  induction bs generalizing l as with
  | nil => exact h
  | cons b bs ih => exact (ih (h.acquire b)).perm List.perm_middle

theorem Holds.releases (h : l.Holds (bs ++ as)) : ((bs.map Effect.release).foldl note l).Holds as := by
  induction bs generalizing l with
  | nil => exact h
  | cons b bs ih => exact ih h.release

omit [DecidableEq α] in
theorem holds_nil : l.Holds [] ↔ l = {} := by
  obtain ⟨held, misused⟩ := l
  apply Iff.intro
  · intro h
    obtain rfl : held = [] := h.held.eq_nil
    obtain rfl : misused = [] := h.proper
    rfl
  · intro h
    rw [h]
    exact ⟨.nil, rfl⟩

end Ledger

/-- Every event after `old`, given the ones before it, satisfies `P`. -/
def Since {ε : Type} (P : List ε → ε → Prop) (old new : List ε) : Prop :=
  Run.Each (fun seen e => seen ++ [e]) P old new

namespace Since
variable {ε : Type} {P : List ε → ε → Prop}

instance [∀ seen e, Decidable (P seen e)] (old new : List ε) : Decidable (Since P old new) :=
  Run.Each.decide _ _ old new

theorem foldl_snoc (old new : List ε) : new.foldl (fun seen e => seen ++ [e]) old = old ++ new := by
  induction new generalizing old with
  | nil => simp
  | cons e new ih => rw [List.foldl_cons, ih, List.append_assoc, List.singleton_append]

theorem append {old new new' : List ε} :
    Since P old (new ++ new') ↔ Since P old new ∧ Since P (old ++ new) new' := by
  rw [Since, Run.each_append, foldl_snoc]
  rfl

theorem cons {old new : List ε} {e : ε} : Since P old (e :: new) ↔ P old e ∧ Since P (old ++ [e]) new :=
  Iff.rfl

theorem of_mem {old new : List ε} {e : ε} (h : Since P old new) (hm : e ∈ new) : ∃ before, P before e := by
  induction new generalizing old with
  | nil => cases hm
  | cons e' new ih =>
    rcases List.mem_cons.mp hm with rfl | htail
    · exact ⟨old, h.1⟩
    · exact ih h.2 htail

end Since
