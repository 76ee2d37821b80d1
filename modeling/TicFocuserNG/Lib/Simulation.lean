import TicFocuserNG.Lib.Run

/- Simulation of one deterministic machine by another, with steps of the second
   that the first does not show.

   A step of the concrete machine is matched by a list of inputs of the abstract
   one: the visible ones among them are what the step stands for in its state
   (`label`), they put out the same together, and the states they lead to are related
   again (`Simulates`). So every run of the concrete machine is explained by a run of
   the abstract one (`Simulates.run`). -/
namespace Run

variable {σ τ ε δ β : Type}

theorem outputs_append (step : σ → ε → σ) (out : σ → ε → List β) (s : σ) (es es' : List ε) :
    outputs step out s (es ++ es') = outputs step out s es ++ outputs step out (es.foldl step s) es' := by
  induction es generalizing s with
  | nil => rfl
  | cons e es ih => simp only [List.cons_append, outputs, List.foldl_cons, ih, List.append_assoc]

/-- What depends on the inputs alone. -/
theorem outputs_const (step : σ → ε → σ) (out : ε → List β) (s : σ) (es : List ε) :
    outputs step (fun _ => out) s es = es.flatMap out := by
  induction es generalizing s with
  | nil => rfl
  | cons e es ih => rw [outputs, ih, List.flatMap_cons]

/-- Every step of the machine `step`, `out` is matched by inputs of the machine
    `step'`, `out'`. -/
def Simulates (step : σ → ε → σ) (out : σ → ε → List β) (step' : τ → δ → τ) (out' : τ → δ → List β)
    (visible : δ → Bool) (label : σ → ε → List δ) (R : σ → τ → Prop) : Prop :=
  ∀ s t e, R s t → ∃ ds, ds.filter visible = label s e ∧ outputs step' out' t ds = out s e ∧
    R (step s e) (ds.foldl step' t)

namespace Simulates
variable {step : σ → ε → σ} {out : σ → ε → List β} {step' : τ → δ → τ} {out' : τ → δ → List β}
  {visible : δ → Bool} {label : σ → ε → List δ} {R : σ → τ → Prop}

/-- **Runs are explained by runs.** -/
theorem run (h : Simulates step out step' out' visible label R) {s : σ} {t : τ} (hR : R s t) (es : List ε) :
    ∃ ds, ds.filter visible = outputs step label s es ∧ outputs step' out' t ds = outputs step out s es ∧
      R (es.foldl step s) (ds.foldl step' t) := by
  induction es generalizing s t with
  | nil => exact ⟨[], rfl, rfl, hR⟩
  | cons e es ih =>
    obtain ⟨ds, hlabel, hout, hR'⟩ := h s t e hR
    obtain ⟨ds', hlabel', hout', hR''⟩ := ih hR'
    refine ⟨ds ++ ds', ?_, ?_, ?_⟩
    · rw [List.filter_append, hlabel, hlabel', outputs]
    · rw [outputs_append, hout, hout', outputs]
    · rwa [List.foldl_append]

end Simulates

end Run
