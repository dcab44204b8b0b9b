import MaltbeeController.Lib.StepRun

/-!
This module contains the log of a run: what each of its steps was given and what it emitted.
-/

namespace StepRun

variable {σ : Type u} {ι : Type v} {ο : Type x} (step : σ → ι → σ × List ο) (s : σ)

def logged (s : σ) (i : ι) : σ × List (ι × List ο) :=
  ((step s i).1, [(i, (step s i).2)])

def log (inputs : List ι) : List (ι × List ο) :=
  (run (logged step) s inputs).2

theorem run_logged_fst (inputs : List ι)
    : (run (logged step) s inputs).1 = (run step s inputs).1 := by
  induction inputs generalizing s with
  | nil => rfl
  | cons i inputs ih => apply ih

@[simp]
theorem log_nil : log step s [] = [] := by
  rfl

theorem log_concat (inputs : List ι) (i : ι)
    : log step s (inputs ++ [i])
        =
      log step s inputs ++ [(i, (step (run step s inputs).1 i).2)] := by
  unfold log
  rw [run_concat, run_logged_fst]
  rfl

@[simp]
theorem log_inputs (inputs : List ι) : (log step s inputs).map (·.1) = inputs := by
  induction inputs using List.reverseRecOn with
  | nil => rfl
  | append_singleton inputs i ih =>
    rw [log_concat, List.map_append, ih]
    rfl

theorem log_entry {inputs : List ι} {before after : List (ι × List ο)} {i : ι} {out : List ο}
    (h : log step s inputs = before ++ (i, out) :: after)
    : out = (step (run step s (before.map (·.1))).1 i).2
        ∧
      inputs = before.map (·.1) ++ i :: after.map (·.1)
        ∧
      before = log step s (before.map (·.1)) := by
  induction inputs using List.reverseRecOn generalizing after with
  | nil => simp at h
  | append_singleton inputs last ih =>
    rw [log_concat] at h
    rcases List.eq_nil_or_concat after with rfl | ⟨after, entry, rfl⟩
    . have ⟨hbefore, hentry⟩ := List.append_inj' h rfl
      rw [List.cons.injEq, Prod.mk.injEq] at hentry
      rw [← hbefore, log_inputs, ← hentry.1.1, ← hentry.1.2]
      exact ⟨rfl, rfl, rfl⟩
    . have h : log step s inputs ++ [(last, (step (run step s inputs).1 last).2)]
          = (before ++ (i, out) :: after) ++ [entry] := by
        simpa using h
      have ⟨hlog, hentry⟩ := List.append_inj' h rfl
      have ⟨hout, hinputs, hbefore⟩ := ih hlog
      refine ⟨hout, ?_, hbefore⟩
      rw [hinputs, ← List.singleton_inj.mp hentry]
      simp

theorem run_halting_fst {κ : Type w} {step : σ → ι → Option σ × List ο}
    {step' : σ → ι → Option σ × List κ} (h : ∀ s i, (step' s i).1 = (step s i).1) (s : Option σ)
    (inputs : List ι)
    : (run (halting step') s inputs).1 = (run (halting step) s inputs).1 := by
  induction inputs generalizing s with
  | nil => rfl
  | cons i inputs ih =>
    have hnext : (halting step' s i).1 = (halting step s i).1 := by
      cases s with
      | none => rfl
      | some s => exact h s i
    rw [run_cons, run_cons, hnext]
    exact ih _

end StepRun
