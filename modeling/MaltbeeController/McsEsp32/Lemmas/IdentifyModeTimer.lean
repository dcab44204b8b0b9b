import MaltbeeController.Lib.StepRun
import MaltbeeController.Lib.WrapClock
import MaltbeeController.McsEsp32.Impl.StatusLedDriver

/-!
This module contains what the identify timer answers over runs of any length, in which the clock may
wrap any number of times, and when that is whether its window is open.
-/

open StepRun WrapClock

namespace Maltbee

namespace IdentifyModeTimer

inductive Call where
  | trigger
  | isActive
  deriving DecidableEq, Repr

def call (t : IdentifyModeTimer) (c : Call) (now : Millis) : IdentifyModeTimer × List Bool :=
  match c with
  | .trigger => (t.trigger now, [])
  | .isActive => (t, [t.isActive now])

def answers (d : Nat) (start : Millis) (calls : List (Nat × Call))
    : IdentifyModeTimer × List (Nat × Bool) :=
  run (timed (reading start) call) { durationMs := .ofNat 32 d } calls

def lastTrigger (calls : List (Nat × Call)) : Option Nat :=
  (calls.filter (·.2 = .trigger)).getLast?.map (·.1)

@[simp]
theorem lastTrigger_concat_trigger (calls : List (Nat × Call)) (t : Nat)
    : lastTrigger (calls ++ [(t, .trigger)]) = some t := by
  simp [lastTrigger]

@[simp]
theorem lastTrigger_concat_isActive (calls : List (Nat × Call)) (t : Nat)
    : lastTrigger (calls ++ [(t, .isActive)]) = lastTrigger calls := by
  simp [lastTrigger]

theorem mem_of_lastTrigger {calls : List (Nat × Call)} {s : Nat} (h : lastTrigger calls = some s)
    : (s, .trigger) ∈ calls := by
  simp only [lastTrigger, Option.map_eq_some_iff] at h
  rcases h with ⟨c, hlast, hs⟩
  have hmem := List.mem_of_getLast? hlast
  simp only [List.mem_filter, decide_eq_true_eq] at hmem
  rw [← hs]
  rw [← hmem.2]
  exact hmem.1

structure Remembers (d : Nat) (start : Millis) (calls : List (Nat × Call)) (t : IdentifyModeTimer)
    : Prop where
  durationMs : t.durationMs = .ofNat 32 d
  triggered : t.triggered = (lastTrigger calls).isSome
  triggeredAtMs : ∀ s ∈ lastTrigger calls, t.triggeredAtMs = reading start s

theorem answers_remembers (d : Nat) (start : Millis) (calls : List (Nat × Call))
    : Remembers d start calls (answers d start calls).1 := by
  apply run_induction (P := fun calls t _ => Remembers d start calls t)
  . constructor
    . rfl
    . rfl
    . simp [lastTrigger]
  . intro calls c t _ _ h
    rcases c with ⟨now, c⟩
    cases c with
    | trigger =>
      constructor
      . exact h.durationMs
      . simp [timed, call, trigger]
      . simp [timed, call, trigger]
    | isActive =>
      constructor
      . exact h.durationMs
      . simpa [timed, call] using h.triggered
      . simpa [timed, call] using h.triggeredAtMs

theorem isActive_answers_iff {d : Nat} (hd : d < 2 ^ 32) (start : Millis) {pre : List (Nat × Call)}
    {t : Nat} (hle : ∀ s ∈ lastTrigger pre, s ≤ t)
    : (answers d start pre).1.isActive (reading start t) = true
        ↔
      ∃ s, lastTrigger pre = some s ∧ (t - s) % 2 ^ 32 < d := by
  have h := answers_remembers d start pre
  have hduration : (BitVec.ofNat 32 d).toNat = d := by
    rw [BitVec.toNat_ofNat]
    apply Nat.mod_eq_of_lt hd
  unfold isActive
  rw [h.triggered]
  rw [h.durationMs]
  cases hlast : lastTrigger pre with
  | none => simp
  | some s =>
    rw [h.triggeredAtMs s hlast]
    rw [Option.isSome_some, Bool.true_and, decide_eq_true_eq]
    rw [reading_sub_lt_iff_mod start (hle s hlast)]
    rw [hduration]
    simp

-- Every `isActive()` of the run says whether less than `d` ms have passed since the latest `trigger()`.
def AnswersInTime (d : Nat) (start : Millis) (calls : List (Nat × Call)) : Prop :=
  ∀ pre t post, calls = pre ++ (t, .isActive) :: post →
    ((answers d start pre).1.isActive (reading start t) = true
        ↔
      ∃ s, lastTrigger pre = some s ∧ t < s + d)

-- No `isActive()` falls into the window as it comes around again with each wrap of the clock.
def AskedOutsideEchoes (d : Nat) (calls : List (Nat × Call)) : Prop :=
  ∀ pre t post s, calls = pre ++ (t, .isActive) :: post → lastTrigger pre = some s →
    t < s + 2 ^ 32 ∨ d ≤ (t - s) % 2 ^ 32

/--
The timer answers in time exactly as long as it is not asked again a whole number of turns of the clock
after its window: nothing but the next `trigger()` closes the window for good.
-/
theorem answersInTime_iff (d : Nat) (hd : d < 2 ^ 31) (start : Millis) (calls : List (Nat × Call))
    (hordered : Ordered calls)
    : AnswersInTime d start calls ↔ AskedOutsideEchoes d calls := by
  have hle : ∀ pre t post, calls = pre ++ (t, Call.isActive) :: post →
      ∀ s ∈ lastTrigger pre, s ≤ t := by
    intro pre t post hcalls s hs
    rw [hcalls] at hordered
    exact hordered.le_of_mem (mem_of_lastTrigger hs)
  constructor
  . intro h pre t post s hcalls hs
    have hactive := h pre t post hcalls
    rw [isActive_answers_iff (by omega) start (hle pre t post hcalls)] at hactive
    simp only [hs, Option.some.injEq, exists_eq_left'] at hactive
    omega
  . intro h pre t post hcalls
    rw [isActive_answers_iff (by omega) start (hle pre t post hcalls)]
    cases hs : lastTrigger pre with
    | none => simp
    | some s =>
      have hbefore := hle pre t post hcalls s hs
      have hturn : t < s + 2 ^ 32 → (t - s) % 2 ^ 32 = t - s := by
        intro hlt
        apply Nat.mod_eq_of_lt
        omega
      simp only [Option.some.injEq, exists_eq_left']
      have := h pre t post s hcalls hs
      omega

theorem answersInTime_iff_expired
    : AnswersInTime 10000 4294967196 [(0, .trigger), (10000, .isActive)]
        ↔
      AskedOutsideEchoes 10000 [(0, .trigger), (10000, .isActive)] :=
  answersInTime_iff 10000 (by decide) 4294967196 _ (by decide)

-- A window of ten seconds is open again 2^32 ms after it was opened, with no `trigger()` in between.
theorem not_answersInTime_after_turn
    : Ordered [(0, Call.trigger), (4294967296, .isActive)] ∧
        ¬AnswersInTime 10000 0 [(0, .trigger), (4294967296, .isActive)] := by
  constructor
  . decide
  . intro h
    have := (h [(0, .trigger)] 4294967296 [] rfl).mp (by decide)
    simp [lastTrigger] at this

end IdentifyModeTimer

end Maltbee
