import Mathlib.Data.List.Nodup
import MaltbeeController.Lib.StepRun

/-!
This module contains components that all see every event, each in its own way, and the proof that a run of
all of them is a run of each of them on its own.
-/

namespace Broadcast

open StepRun

variable {σ : Type u} {ε : Type v} {κ : Type w} {ο : Type x} {α : Type y}
variable (react : σ → ε → σ × List ο) (view : Nat → κ → ε)

-- `view i` is how component number `i` sees an event.
def step (components : List σ) (e : κ) : List σ × List ο :=
  let res := components.mapIdx fun i s => react s (view i e)
  (res.map (·.1), res.flatMap (·.2))

theorem step_cons (s : σ) (components : List σ) (e : κ)
    : step react view (s :: components) e
        =
      (
        (react s (view 0 e)).1 :: (step react (fun i => view (i + 1)) components e).1,
        (react s (view 0 e)).2 ++ (step react (fun i => view (i + 1)) components e).2
      ) := by
  simp [step, List.mapIdx_cons]

theorem step_component (components : List σ) (e : κ) (i : Nat)
    : (step react view components e).1[i]?
        =
      components[i]?.map fun s => (react s (view i e)).1 := by
  simp [step, Function.comp_def]

theorem run_component (components : List σ) (events : List κ) (i : Nat)
    : (run (step react view) components events).1[i]?
        =
      components[i]?.map fun s => (run react s (events.map (view i))).1 := by
  induction events generalizing components with
  | nil => simp
  | cons e events ih =>
    rw [run_cons]
    rw [ih]
    rw [step_component]
    rw [Option.map_map]
    rfl

theorem step_keys {key : σ → α} (hkey : ∀ s e, key (react s e).1 = key s) (components : List σ)
    (e : κ)
    : (step react view components e).1.map key = components.map key := by
  apply List.ext_getElem?
  intro i
  simp [step_component, Function.comp_def, hkey]

theorem run_eq_of_silent {components : List σ} {events events' : List κ}
    (hsilent : ∀ e ∈ events, ∀ s i, (react s (view i e)).2 = [])
    (hsilent' : ∀ e ∈ events', ∀ s i, (react s (view i e)).2 = [])
    (h : ∀ s i, (run react s (events.map (view i))).1 = (run react s (events'.map (view i))).1)
    : run (step react view) components events = run (step react view) components events' := by
  have hout {events : List κ} (hsilent : ∀ e ∈ events, ∀ s i, (react s (view i e)).2 = [])
      : (run (step react view) components events).2 = [] := by
    induction events generalizing components with
    | nil => rfl
    | cons e events ih =>
      have hstep : (step react view components e).2 = [] := by
        simp only [step, List.flatMap_eq_nil_iff, List.mem_mapIdx]
        rintro res ⟨i, hi, rfl⟩
        exact hsilent e List.mem_cons_self _ i
      rw [run_cons, hstep]
      exact ih fun e' he' => hsilent e' (List.mem_cons_of_mem e he')
  apply Prod.ext
  . apply List.ext_getElem?
    intro i
    rw [run_component, run_component]
    simp [h]
  . rw [hout hsilent, hout hsilent']

section Outputs

variable [DecidableEq α] {react} {key : σ → α} {owner : ο → α}
variable (howner : ∀ s e, ∀ o ∈ (react s e).2, owner o = key s)
include howner

theorem filter_outputs_of_not_mem {components : List σ} {k : α} (hk : k ∉ components.map key)
    (view : Nat → ε)
    : ((components.mapIdx fun i s => react s (view i)).flatMap (·.2)).filter (owner · = k) = [] := by
  rw [List.filter_eq_nil_iff]
  intro o ho
  rcases List.mem_flatMap.mp ho with ⟨res, hres, ho⟩
  rcases List.mem_mapIdx.mp hres with ⟨i, hi, rfl⟩
  rw [howner _ _ o ho, decide_eq_true_eq]
  intro heq
  apply hk
  rw [← heq]
  exact List.mem_map_of_mem (List.getElem_mem hi)

theorem filter_outputs {components : List σ} (hnodup : (components.map key).Nodup) {i : Nat} {s : σ}
    (hs : components[i]? = some s) (view : Nat → ε)
    : ((components.mapIdx fun i s => react s (view i)).flatMap (·.2)).filter (owner · = key s)
        =
      (react s (view i)).2 := by
  induction components generalizing i view with
  | nil => contradiction
  | cons first components ih =>
    rw [List.map_cons, List.nodup_cons] at hnodup
    rw [List.mapIdx_cons, List.flatMap_cons, List.filter_append]
    cases i with
    | zero =>
      rw [List.getElem?_cons_zero, Option.some.injEq] at hs
      rw [hs] at hnodup ⊢
      have hrest := filter_outputs_of_not_mem howner hnodup.1 fun i => view (i + 1)
      rw [hrest, List.append_nil, List.filter_eq_self]
      intro o ho
      rw [howner _ _ o ho, decide_eq_true_eq]
    | succ i =>
      rw [List.getElem?_cons_succ] at hs
      rw [ih hnodup.2 hs fun i => view (i + 1)]
      rw [List.append_left_eq_self, List.filter_eq_nil_iff]
      intro o ho
      rw [howner _ _ o ho, decide_eq_true_eq]
      intro heq
      apply hnodup.1
      rw [heq]
      exact List.mem_map_of_mem (List.mem_of_getElem? hs)

theorem run_outputs (hkey : ∀ s e, key (react s e).1 = key s) {components : List σ}
    (hnodup : (components.map key).Nodup) (events : List κ) {i : Nat} {s : σ}
    (hs : components[i]? = some s)
    : (run (step react view) components events).2.filter (owner · = key s)
        =
      (run react s (events.map (view i))).2 := by
  induction events generalizing components s with
  | nil => rfl
  | cons e events ih =>
    have hnext : (step react view components e).1[i]? = some (react s (view i e)).1 := by
      rw [step_component, hs]
      rfl
    have hkeys := step_keys react view hkey components e
    have hrest := ih (hkeys ▸ hnodup) hnext
    rw [hkey] at hrest
    rw [run_cons, List.map_cons, run_cons, List.filter_append, hrest]
    congr 1
    exact filter_outputs howner hnodup hs fun i => view i e

end Outputs

def ownEvents (concerns : α → κ → Bool) (i : Nat) (k : α) (events : List κ) : List ε :=
  (events.filter (concerns k)).map (view i)

theorem run_ownEvents {key : σ → α} {concerns : α → κ → Bool}
    (hkey : ∀ s e, key (react s e).1 = key s)
    (hskip : ∀ s i e, concerns (key s) e = false → react s (view i e) = (s, []))
    (s : σ) (i : Nat) (events : List κ)
    : run react s (events.map (view i)) = run react s (ownEvents view concerns i (key s) events) := by
  unfold ownEvents
  rw [run_map, run_map]
  apply run_filter (P := fun s' => key s' = key s)
  . intro s' e hs'
    rw [hkey, hs']
  . intro s' e hs' hconcerns
    apply hskip
    rw [hs', hconcerns]
  . rfl

end Broadcast
