import Mathlib.Data.List.Induction

/-!
This module contains runs of a step function that emits outputs, and the induction rule the
invariants of such runs are proved with.
-/

namespace StepRun

variable {σ : Type u} {ι : Type v} {ο : Type x}

def run (step : σ → ι → σ × List ο) (s : σ) (inputs : List ι) : σ × List ο :=
  match inputs with
  | [] => (s, [])
  | i :: inputs =>
    let next := step s i
    let rest := run step next.1 inputs
    (rest.1, next.2 ++ rest.2)

variable (step : σ → ι → σ × List ο) (s : σ)

@[simp]
theorem run_nil : run step s [] = (s, []) := by
  rfl

theorem run_cons (i : ι) (inputs : List ι)
    : run step s (i :: inputs)
        =
      ((run step (step s i).1 inputs).1, (step s i).2 ++ (run step (step s i).1 inputs).2) := by
  rfl

@[simp]
theorem run_singleton (i : ι) : run step s [i] = step s i := by
  simp [run_cons]

theorem run_append (inputs more : List ι)
    : run step s (inputs ++ more)
        =
      (
        (run step (run step s inputs).1 more).1,
        (run step s inputs).2 ++ (run step (run step s inputs).1 more).2
      ) := by
  induction inputs generalizing s with
  | nil => simp
  | cons i inputs ih =>
    simp only [List.cons_append, run_cons]
    rw [ih]
    simp [List.append_assoc]

theorem run_trans {s s' s'' : σ} {inputs more : List ι} {out out' : List ο}
    (h : run step s inputs = (s', out)) (h' : run step s' more = (s'', out'))
    : run step s (inputs ++ more) = (s'', out ++ out') := by
  rw [run_append]
  rw [h]
  dsimp only
  rw [h']

theorem run_concat (inputs : List ι) (i : ι)
    : run step s (inputs ++ [i])
        =
      (
        (step (run step s inputs).1 i).1,
        (run step s inputs).2 ++ (step (run step s inputs).1 i).2
      ) := by
  rw [run_append]
  simp

-- What holds before the first step and is kept by each step, given all that was fed and emitted so
-- far, holds after every run.
theorem run_induction {P : List ι → σ → List ο → Prop} (hinit : P [] s [])
    (hstep : ∀ inputs i s' out, run step s inputs = (s', out) → P inputs s' out →
      P (inputs ++ [i]) (step s' i).1 (out ++ (step s' i).2))
    (inputs : List ι)
    : P inputs (run step s inputs).1 (run step s inputs).2 := by
  induction inputs using List.reverseRecOn with
  | nil => exact hinit
  | append_singleton inputs i ih =>
    rw [run_concat]
    exact hstep inputs i _ _ rfl ih

theorem run_invariant {P : σ → Prop} (hinit : P s) (hstep : ∀ s' i, P s' → P (step s' i).1)
    (inputs : List ι)
    : P (run step s inputs).1 := by
  apply run_induction step s (P := fun _ s' _ => P s') hinit
  intro _ i s' _ _ h
  exact hstep s' i h

theorem run_safe {P : σ → Prop} {Q : ο → Prop}
    (hstep : ∀ s i, P s → P (step s i).1 ∧ ∀ o ∈ (step s i).2, Q o) (hinit : P s)
    (inputs : List ι)
    : P (run step s inputs).1 ∧ ∀ o ∈ (run step s inputs).2, Q o := by
  induction inputs generalizing s with
  | nil => simp [hinit]
  | cons i inputs ih =>
    have ⟨hstate, hout⟩ := hstep s i hinit
    have ⟨hstates, houts⟩ := ih _ hstate
    rw [run_cons]
    constructor
    . exact hstates
    . intro o ho
      cases List.mem_append.mp ho with
      | inl h => exact hout o h
      | inr h => exact houts o h

theorem run_run (chunks : List (List ι)) : run (run step) s chunks = run step s chunks.flatten := by
  induction chunks generalizing s with
  | nil => rfl
  | cons chunk chunks ih =>
    rw [List.flatten_cons]
    rw [run_append]
    rw [run_cons]
    rw [ih]

theorem run_simulate {τ : Type y} {step' : τ → ι → τ × List ο} {f : σ → τ}
    (hstep : ∀ s i, step' (f s) i = (f (step s i).1, (step s i).2)) (inputs : List ι)
    : run step' (f s) inputs = (f (run step s inputs).1, (run step s inputs).2) := by
  induction inputs generalizing s with
  | nil => rfl
  | cons i inputs ih =>
    rw [run_cons]
    rw [hstep]
    dsimp only
    rw [ih]
    rfl

theorem run_refines {τ : Type y} {step' : τ → ι → τ × List ο} {R : σ → τ → Prop}
    (hstep : ∀ s t i, R s t → R (step s i).1 (step' t i).1 ∧ (step s i).2 = (step' t i).2)
    {s : σ} {t : τ} (hinit : R s t) (inputs : List ι)
    : R (run step s inputs).1 (run step' t inputs).1
        ∧
      (run step s inputs).2 = (run step' t inputs).2 := by
  induction inputs generalizing s t with
  | nil => exact ⟨hinit, rfl⟩
  | cons i inputs ih =>
    have ⟨hnext, hout⟩ := hstep s t i hinit
    have ⟨hlast, houts⟩ := ih hnext
    rw [run_cons, run_cons]
    refine ⟨hlast, ?_⟩
    rw [hout, houts]

theorem run_indistinguishable {R : σ → σ → Prop}
    (hstep : ∀ s s' i, R s s' → R (step s i).1 (step s' i).1 ∧ (step s i).2 = (step s' i).2)
    {s s' : σ} (hinit : R s s') (inputs : List ι)
    : R (run step s inputs).1 (run step s' inputs).1
        ∧
      (run step s inputs).2 = (run step s' inputs).2 := by
  apply run_refines step hstep hinit

theorem run_map {κ : Type w} (f : κ → ι) (inputs : List κ)
    : run step s (inputs.map f) = run (fun s i => step s (f i)) s inputs := by
  induction inputs generalizing s with
  | nil => rfl
  | cons i inputs ih =>
    rw [List.map_cons, run_cons, run_cons]
    rw [ih]

theorem run_filter {relevant : ι → Bool} {P : σ → Prop} (hkept : ∀ s i, P s → P (step s i).1)
    (hskip : ∀ s i, P s → relevant i = false → step s i = (s, [])) (hinit : P s) (inputs : List ι)
    : run step s inputs = run step s (inputs.filter relevant) := by
  induction inputs generalizing s with
  | nil => rfl
  | cons i inputs ih =>
    rw [run_cons]
    cases hrelevant : relevant i with
    | true =>
      rw [List.filter_cons_of_pos hrelevant, run_cons]
      rw [ih _ (hkept s i hinit)]
    | false =>
      rw [List.filter_cons_of_neg (by simp [hrelevant])]
      rw [hskip s i hinit hrelevant]
      exact ih _ hinit

-- A call made at a real time: it sees the reading of the clock at that time and what it emits is
-- stamped with it.
def timed {κ : Type v} {τ : Type y} (clock : Nat → τ) (call : σ → κ → τ → σ × List ο) (s : σ)
    (c : Nat × κ)
    : σ × List (Nat × ο) :=
  let next := call s c.2 (clock c.1)
  (next.1, next.2.map fun o => (c.1, o))

-- A step that may be the last one: afterwards nothing happens any more.
def halting (step : σ → ι → Option σ × List ο) (s : Option σ) (i : ι) : Option σ × List ο :=
  match s with
  | none => (none, [])
  | some s => step s i

theorem run_halting_safe {step : σ → ι → Option σ × List ο} {P : σ → Prop} {Q : ο → Prop}
    (hstep : ∀ s i, P s → (∀ s' ∈ (step s i).1, P s') ∧ ∀ o ∈ (step s i).2, Q o) (hinit : P s)
    (inputs : List ι)
    : (∀ s' ∈ (run (halting step) (some s) inputs).1, P s')
        ∧
      ∀ o ∈ (run (halting step) (some s) inputs).2, Q o := by
  apply run_safe (halting step) (some s) (P := fun s => ∀ s' ∈ s, P s')
  . intro s i h
    cases s with
    | none => simp [halting]
    | some s => exact hstep s i (h s rfl)
  . simp [hinit]

theorem run_halting_none (step : σ → ι → Option σ × List ο) (inputs : List ι)
    : run (halting step) none inputs = (none, []) := by
  induction inputs with
  | nil => rfl
  | cons i inputs ih =>
    rw [run_cons]
    exact congrArg (fun res => (res.1, [] ++ res.2)) ih

theorem exists_of_run_halting {step : σ → ι → Option σ × List ο} {s : Option σ} {pre post : List ι}
    {i : ι} {s' : σ} (hs' : s' ∈ (run (halting step) s (pre ++ i :: post)).1)
    : ∃ s₁ ∈ (run (halting step) s pre).1, ∃ s₂, s₂ ∈ (step s₁ i).1 := by
  rw [run_append, run_cons] at hs'
  cases hpre : (run (halting step) s pre).1 with
  | none =>
    rw [hpre] at hs'
    simp [halting, run_halting_none] at hs'
  | some s₁ =>
    rw [hpre] at hs'
    cases hstep : (step s₁ i).1 with
    | none => simp [halting, hstep, run_halting_none] at hs'
    | some s₂ => exact ⟨s₁, rfl, s₂, hstep⟩

-- `P` holds of every state that the run comes through, with what it is fed there.
def Along (P : σ → ι → Prop) (s : σ) (inputs : List ι) : Prop :=
  match inputs with
  | [] => True
  | i :: inputs => P s i ∧ Along P (step s i).1 inputs

instance instDecidableAlong {P : σ → ι → Prop} [∀ s i, Decidable (P s i)] (s : σ) (inputs : List ι)
    : Decidable (Along step P s inputs) :=
  match inputs with
  | [] => .isTrue trivial
  | i :: inputs =>
    have : Decidable (Along step P (step s i).1 inputs) := instDecidableAlong (step s i).1 inputs
    inferInstanceAs (Decidable (_ ∧ _))

theorem Along.and {P Q : σ → ι → Prop} {s : σ} {inputs : List ι} (hp : Along step P s inputs)
    (hq : Along step Q s inputs)
    : Along step (fun s i => P s i ∧ Q s i) s inputs := by
  induction inputs generalizing s with
  | nil => trivial
  | cons i inputs ih => exact ⟨⟨hp.1, hq.1⟩, ih hp.2 hq.2⟩

theorem run_invariant_along {P : σ → ι → Prop} {I : σ → Prop}
    (hstep : ∀ s i, P s i → I s → I (step s i).1) (hinit : I s) {inputs : List ι}
    (h : Along step P s inputs)
    : I (run step s inputs).1 := by
  induction inputs generalizing s with
  | nil => exact hinit
  | cons i inputs ih => exact ih _ (hstep s i h.1 hinit) h.2

end StepRun
