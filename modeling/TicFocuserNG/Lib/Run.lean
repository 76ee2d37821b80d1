import Mathlib.Data.List.Basic

/- Runs of a deterministic step function over a list of inputs. A run is
   `es.foldl step s`. `Each` says something of every step a run takes (the
   state it starts from and its input), `Always` something of every state a
   run visits, the first and the last included.

     1. `always_of_each`: an invariant that survives every step meeting a
        condition holds along every run whose steps all meet it.
     2. `always_iff_each`: where a step keeps the invariant exactly when it
        meets the condition, the invariant holds along a run exactly when
        every step meets the condition.
     3. `each_iff_each`: two step predicates that agree under an invariant
        hold of the same admissible runs.
     4. `outputs_congr`: related states whose steps stay related and put out
        the same put out the same over whole runs. -/
namespace Run

variable {σ ε : Type}

/-- `P` holds of every step of the run from `s`. -/
def Each (step : σ → ε → σ) (P : σ → ε → Prop) : σ → List ε → Prop
  | _, [] => True
  | s, e :: es => P s e ∧ Each step P (step s e) es

/-- `I` holds of every state the run from `s` visits. -/
def Always (step : σ → ε → σ) (I : σ → Prop) : σ → List ε → Prop
  | s, [] => I s
  | s, e :: es => I s ∧ Always step I (step s e) es

instance Each.decide (step : σ → ε → σ) (P : σ → ε → Prop) [∀ s e, Decidable (P s e)] :
    ∀ s es, Decidable (Each step P s es)
  | _, [] => isTrue trivial
  | s, e :: es =>
    have := Each.decide step P (step s e) es
    inferInstanceAs (Decidable (P s e ∧ Each step P (step s e) es))

instance Always.decide (step : σ → ε → σ) (I : σ → Prop) [DecidablePred I] :
    ∀ s es, Decidable (Always step I s es)
  | s, [] => inferInstanceAs (Decidable (I s))
  | s, e :: es =>
    have := Always.decide step I (step s e) es
    inferInstanceAs (Decidable (I s ∧ Always step I (step s e) es))

section
variable {step : σ → ε → σ} {P Q C : σ → ε → Prop} {I : σ → Prop}

theorem Each.mono (hpq : ∀ s e, P s e → Q s e) {s : σ} {es : List ε} (h : Each step P s es) :
    Each step Q s es := by
  induction es generalizing s with
  | nil => trivial
  | cons e es ih => exact ⟨hpq s e h.1, ih h.2⟩

theorem each_append (s : σ) (es es' : List ε) :
    Each step P s (es ++ es') ↔ Each step P s es ∧ Each step P (es.foldl step s) es' := by
  induction es generalizing s with
  | nil => simp [Each]
  | cons e es ih => simp only [List.cons_append, Each, List.foldl_cons, ih, and_assoc]

theorem Always.start {s : σ} {es : List ε} (h : Always step I s es) : I s := by
  cases es with
  | nil => exact h
  | cons e es => exact h.1

theorem Always.last {s : σ} {es : List ε} (h : Always step I s es) : I (es.foldl step s) := by
  induction es generalizing s with
  | nil => exact h
  | cons e es ih => exact ih h.2

/-- What holds of every step from a good state holds along a run of them. -/
theorem Always.each (hp : ∀ s e, I s → P s e) {s : σ} {es : List ε} (h : Always step I s es) :
    Each step P s es := by
  induction es generalizing s with
  | nil => trivial
  | cons e es ih => exact ⟨hp s e h.1, ih h.2⟩

theorem always_of_each (hstep : ∀ s e, I s → C s e → I (step s e)) {s : σ} {es : List ε} (h : I s)
    (hc : Each step C s es) : Always step I s es := by
  induction es generalizing s with
  | nil => exact h
  | cons e es ih => exact ⟨h, ih (hstep s e h hc.1) hc.2⟩

/-- Exact conditions under an invariant `J` of all steps. -/
theorem always_iff_each_of_invariant {J : σ → Prop} (hinv : ∀ s e, J s → J (step s e))
    (hstep : ∀ s e, J s → I s → (I (step s e) ↔ C s e)) {s : σ} (es : List ε) (hs : J s) (h : I s) :
    Always step I s es ↔ Each step C s es := by
  induction es generalizing s with
  | nil => simp [Always, Each, h]
  | cons e es ih =>
    simp only [Always, Each, h, true_and]
    apply Iff.intro
    · intro ha
      -- the rest of the run starts in a good state, so this step met `C`
      have hc := (hstep s e hs h).mp ha.start
      exact ⟨hc, (ih (hinv s e hs) ha.start).mp ha⟩
    · intro ⟨hc, hcs⟩
      exact (ih (hinv s e hs) ((hstep s e hs h).mpr hc)).mpr hcs

/-- **Exact conditions lift to runs.** If a step from a good state ends in a
    good state exactly when it meets `C`, a run visits good states only
    exactly when all its steps meet `C`. -/
theorem always_iff_each (hstep : ∀ s e, I s → (I (step s e) ↔ C s e)) {s : σ} (es : List ε) (h : I s) :
    Always step I s es ↔ Each step C s es :=
  always_iff_each_of_invariant (J := fun _ => True) (fun _ _ _ => trivial) (fun s e _ => hstep s e) es trivial h

theorem each_congr (hpq : ∀ s e, P s e ↔ Q s e) {s : σ} {es : List ε} :
    Each step P s es ↔ Each step Q s es :=
  ⟨Each.mono fun s e => (hpq s e).mp, Each.mono fun s e => (hpq s e).mpr⟩

/-- Two step predicates that agree wherever the invariant holds, over runs
    whose steps are admissible. -/
theorem each_iff_each (hpq : ∀ s e, I s → C s e → (P s e ↔ Q s e))
    (hstep : ∀ s e, I s → C s e → I (step s e)) {s : σ} {es : List ε} (h : I s) (hc : Each step C s es) :
    Each step P s es ↔ Each step Q s es := by
  induction es generalizing s with
  | nil => exact Iff.rfl
  | cons e es ih => simp only [Each, hpq s e h hc.1, ih (hstep s e h hc.1) hc.2]

end

section
variable {β : Type} {step : σ → ε → σ} {out : σ → ε → List β}

/-- What the steps of the run from `s` put out, in order. -/
def outputs (step : σ → ε → σ) (out : σ → ε → List β) : σ → List ε → List β
  | _, [] => []
  | s, e :: es => out s e ++ outputs step out (step s e) es

theorem outputs_congr {R : σ → σ → Prop} (hout : ∀ s t e, R s t → out s e = out t e)
    (hstep : ∀ s t e, R s t → R (step s e) (step t e)) {s t : σ} (es : List ε) (h : R s t) :
    outputs step out s es = outputs step out t es := by
  induction es generalizing s t with
  | nil => rfl
  | cons e es ih => rw [outputs, outputs, hout s t e h, ih (hstep s t e h)]

end

end Run
