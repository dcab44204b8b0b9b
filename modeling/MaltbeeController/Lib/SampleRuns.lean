import Mathlib.Data.List.Induction
import Mathlib.Data.List.SplitBy
import MaltbeeController.Lib.WrapClock

/-!
This module contains the maximal runs of equal samples in a sequence of samples with the times they were
taken at, and the last of these runs, which the next sample continues or ends.
-/

namespace SampleRuns

variable {α : Type u}

def runs [DecidableEq α] (ticks : List (Nat × α)) : List (List (Nat × α)) :=
  ticks.splitBy fun a b => a.2 = b.2

def lasted (d : Nat) (run : List (Nat × α)) : Bool :=
  run.any fun c => run.head?.any fun first => first.1 + d ≤ c.1

def settled [DecidableEq α] (d : Nat) (initial : α) (ticks : List (Nat × α)) : α :=
  ((((runs ticks).filter (lasted d)).getLast?.bind List.head?).map (·.2)).getD initial

-- The samples are `pre` and the run `block` of `v` that begins at `s` and that nothing has ended so far.
structure EndsWith (ticks pre block : List (Nat × α)) (s : Nat) (v : α) : Prop where
  ticks_eq : ticks = pre ++ block
  head : block.head? = some (s, v)
  same : ∀ c ∈ block, c.2 = v
  ended : ∀ c ∈ pre.getLast?, c.2 ≠ v

theorem lasted_singleton (d t : Nat) (v : α) : lasted d [(t, v)] = decide (t + d ≤ t) := by
  simp [lasted]

theorem lasted_concat {d : Nat} {block : List (Nat × α)} {first : Nat × α}
    (h : block.head? = some first) (c : Nat × α)
    : lasted d (block ++ [c]) = (lasted d block || decide (first.1 + d ≤ c.1)) := by
  unfold lasted
  rw [List.head?_append, h]
  simp

theorem lasted_append {d : Nat} {block : List (Nat × α)} (h : lasted d block = true)
    (more : List (Nat × α))
    : lasted d (block ++ more) = true := by
  cases block with
  | nil => contradiction
  | cons first block =>
    unfold lasted at *
    rw [List.any_append]
    simp only [List.head?_cons, List.cons_append] at *
    rw [h, Bool.true_or]

theorem lt_of_not_lasted {d : Nat} {block : List (Nat × α)} {first : Nat × α}
    (h : block.head? = some first) (hlasted : lasted d block = false)
    : ∀ c ∈ block, c.1 < first.1 + d := by
  intro c hc
  unfold lasted at hlasted
  rw [List.any_eq_false] at hlasted
  have := hlasted c hc
  simpa [h] using this

namespace EndsWith

theorem append {ticks pre block more : List (Nat × α)} {s : Nat} {v : α}
    (h : EndsWith ticks pre block s v) (hmore : ∀ c ∈ more, c.2 = v)
    : EndsWith (ticks ++ more) pre (block ++ more) s v := by
  constructor
  . rw [h.ticks_eq, List.append_assoc]
  . rw [List.head?_append, h.head]
    rfl
  . intro c hc
    cases List.mem_append.mp hc with
    | inl hold => exact h.same c hold
    | inr hnew => exact hmore c hnew
  . exact h.ended

theorem concat {ticks pre block : List (Nat × α)} {s : Nat} {v : α}
    (h : EndsWith ticks pre block s v) (t : Nat)
    : EndsWith (ticks ++ [(t, v)]) pre (block ++ [(t, v)]) s v := by
  apply h.append
  simp

theorem of_ended {ticks : List (Nat × α)} {v : α} (h : ∀ c ∈ ticks.getLast?, c.2 ≠ v) (t : Nat)
    : EndsWith (ticks ++ [(t, v)]) ticks [(t, v)] t v := by
  constructor
  . rfl
  . rfl
  . simp
  . exact h

theorem getLast?_eq {ticks pre block : List (Nat × α)} {s : Nat} {v : α}
    (h : EndsWith ticks pre block s v)
    : ∃ c ∈ block, ticks.getLast? = some c := by
  have hne : block ≠ [] := by
    intro heq
    have := h.head
    rw [heq] at this
    contradiction
  refine ⟨block.getLast hne, List.getLast_mem hne, ?_⟩
  rw [h.ticks_eq, List.getLast?_append_of_ne_nil _ hne]
  exact List.getLast?_eq_some_getLast hne

theorem time_lt {ticks pre block : List (Nat × α)} {s : Nat} {v : α}
    (h : EndsWith ticks pre block s v) {d : Nat} (hlasted : lasted d block = false) {gap : Nat}
    {c : Nat × α} (hspaced : WrapClock.Spaced gap (ticks ++ [c]))
    : s ≤ c.1 ∧ c.1 < s + d + gap := by
  rcases h.getLast?_eq with ⟨last, hmem, hlast⟩
  have hbefore := lt_of_not_lasted h.head hlasted last hmem
  have hstep := WrapClock.Spaced.step hspaced hlast
  constructor
  . apply WrapClock.Spaced.le_of_mem (a := (s, v)) hspaced
    rw [h.ticks_eq]
    apply List.mem_append_right
    exact List.mem_of_mem_head? h.head
  . dsimp only at hbefore
    omega

theorem runs_eq [DecidableEq α] {ticks pre block : List (Nat × α)} {s : Nat} {v : α}
    (h : EndsWith ticks pre block s v)
    : runs ticks = runs pre ++ [block] := by
  unfold runs
  rw [h.ticks_eq]
  rw [List.splitBy_append]
  . congr 1
    apply List.splitBy_of_isChain
    . intro heq
      have := h.head
      rw [heq] at this
      contradiction
    . apply List.Pairwise.isChain
      apply List.pairwise_of_forall_mem_list
      intro a ha b hb
      rw [decide_eq_true_eq, h.same a ha, h.same b hb]
  . intro x hx y hy
    rw [h.head, Option.mem_some_iff] at hy
    rw [← hy, decide_eq_false_iff_not]
    exact h.ended x hx

theorem unique [DecidableEq α] {ticks pre pre' block block' : List (Nat × α)} {s s' : Nat} {v v' : α}
    (h : EndsWith ticks pre block s v) (h' : EndsWith ticks pre' block' s' v')
    : pre = pre' ∧ block = block' ∧ s = s' ∧ v = v' := by
  have hblock : block = block' := by
    have hruns := h.runs_eq
    rw [h'.runs_eq] at hruns
    have := congrArg List.getLast? hruns
    simpa [eq_comm] using this
  subst hblock
  have hpre := h.ticks_eq
  rw [h'.ticks_eq, List.append_cancel_right_eq] at hpre
  have hhead := h.head
  rw [h'.head, Option.some.injEq, Prod.mk.injEq] at hhead
  exact ⟨hpre.symm, rfl, hhead.1.symm, hhead.2.symm⟩

theorem settled_eq [DecidableEq α] {ticks pre block : List (Nat × α)} {s : Nat} {v : α}
    (h : EndsWith ticks pre block s v) (d : Nat) (initial : α)
    : settled d initial ticks = if lasted d block then v else settled d initial pre := by
  unfold settled
  rw [h.runs_eq]
  rw [List.filter_append]
  cases hlasted : lasted d block with
  | true => simp [hlasted, h.head]
  | false => simp [hlasted]

end EndsWith

theorem ended_or_endsWith [DecidableEq α] (ticks : List (Nat × α)) (v : α)
    : (∀ c ∈ ticks.getLast?, c.2 ≠ v) ∨ ∃ pre block s, EndsWith ticks pre block s v := by
  induction ticks using List.reverseRecOn with
  | nil => simp
  | append_singleton ticks c ih =>
    rcases c with ⟨t, w⟩
    by_cases hw : w = v
    . subst hw
      right
      rcases ih with hended | ⟨pre, block, s, hends⟩
      . exact ⟨_, _, _, .of_ended hended t⟩
      . exact ⟨_, _, _, hends.concat t⟩
    . left
      simpa using hw

end SampleRuns
