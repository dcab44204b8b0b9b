import MaltbeeController.Lib.SampleRuns
import MaltbeeController.Lib.StepRun
import MaltbeeController.Lib.WrapClock
import MaltbeeController.McsCore.Lemmas.Button

/-!
This module contains the proof that a button is debounced as with a clock that never wraps: it reads as
the latest run of equal samples that has lasted long enough.
-/

open SampleRuns StepRun WrapClock

namespace Maltbee

namespace Button

inductive Edge where
  | pressed
  | released
  deriving DecidableEq, Repr

def edges (b : Button) : List Edge :=
  (if b.wasPressed then [.pressed] else []) ++ (if b.wasReleased then [.released] else [])

def tick (b : Button) (raw : Bool) (now : Millis) : Button × List Edge :=
  let b := b.update raw now now
  (b, b.edges)

def after (d : Nat) (start : Millis) (ticks : List (Nat × Bool)) : Button × List (Nat × Edge) :=
  run (timed (reading start) tick) { debounceMilliseconds := .ofNat 32 d } ticks

theorem after_concat (d : Nat) (start : Millis) (ticks : List (Nat × Bool)) (t : Nat) (raw : Bool)
    : (after d start (ticks ++ [(t, raw)])).1
        =
      (after d start ticks).1.update raw (reading start t) (reading start t) := by
  unfold after
  rw [run_concat]
  rfl

theorem update_of_ne {b : Button} {raw : Bool} (h : raw ≠ b.lastRawReading) (now : Millis)
    : b.update raw now now
        =
      {
        b with
        lastRawReading := raw
        lastRawTransitionTime := now
        previousStableReading := b.stableReading
        stableReading := if b.debounceMilliseconds = 0 then raw else b.stableReading
      } := by
  have hdue : now - now ≥ b.debounceMilliseconds ↔ b.debounceMilliseconds = 0 := by
    rw [BitVec.sub_self]
    exact BitVec.le_zero_iff
  unfold update
  rw [if_pos h]
  dsimp only
  simp only [hdue]
  split
  . rfl
  . rfl

theorem update_of_eq {b : Button} {raw : Bool} (h : raw = b.lastRawReading) (now : Millis)
    : b.update raw now now
        =
      {
        b with
        previousStableReading := b.stableReading
        stableReading :=
          if now - b.lastRawTransitionTime < b.debounceMilliseconds then b.stableReading else raw
      } := by
  unfold update
  rw [if_neg (not_not_intro h)]
  dsimp only
  by_cases hlt : now - b.lastRawTransitionTime < b.debounceMilliseconds
  . rw [if_pos hlt, if_neg (BitVec.not_le.mpr hlt)]
  . rw [if_neg hlt, if_pos (BitVec.not_lt.mp hlt)]

structure Debounced (d : Nat) (start : Millis) (ticks : List (Nat × Bool)) (b : Button) : Prop where
  debounceMilliseconds : b.debounceMilliseconds = .ofNat 32 d
  stableReading : b.stableReading = settled d false ticks
  -- Before the first change the stored time is that of no sample, and nothing depends on it.
  last : (ticks = [] ∧ b.lastRawReading = false) ∨
    ∃ pre block s, EndsWith ticks pre block s b.lastRawReading ∧
      (b.lastRawTransitionTime = reading start s ∨ (pre = [] ∧ b.lastRawReading = false))

variable {d : Nat} {start : Millis} {ticks : List (Nat × Bool)} {b : Button}

theorem Debounced.ended (h : Debounced d start ticks b) {raw : Bool} (hraw : raw ≠ b.lastRawReading)
    : ∀ c ∈ ticks.getLast?, c.2 ≠ raw := by
  intro c hc
  rcases h.last with ⟨hnil, _⟩ | ⟨pre, block, s, hends, _⟩
  . rw [hnil] at hc
    contradiction
  . rcases hends.getLast?_eq with ⟨c', hmem, hlast⟩
    rw [hlast, Option.mem_some_iff] at hc
    rw [← hc, hends.same c' hmem]
    exact hraw.symm

theorem Debounced.update_of_ne (h : Debounced d start ticks b) (hd : d < 2 ^ 31) {raw : Bool}
    (hraw : raw ≠ b.lastRawReading) (t : Nat)
    : Debounced d start (ticks ++ [(t, raw)]) (b.update raw (reading start t) (reading start t)) := by
  have hends := EndsWith.of_ended (h.ended hraw) t
  have hzero : b.debounceMilliseconds = 0 ↔ t + d ≤ t := by
    rw [h.debounceMilliseconds, ← BitVec.toNat_inj, BitVec.toNat_ofNat, Nat.mod_eq_of_lt (by omega)]
    have : (0 : Millis).toNat = 0 := rfl
    omega
  rw [Button.update_of_ne hraw]
  constructor
  . exact h.debounceMilliseconds
  . rw [hends.settled_eq, lasted_singleton, ← h.stableReading]
    dsimp only
    simp only [hzero, decide_eq_true_eq]
  . right
    exact ⟨_, _, _, hends, .inl rfl⟩

-- A difference of readings that has become meaningless is compared only when the reading has settled.
theorem Debounced.update_of_eq (h : Debounced d start ticks b) (hd : d < 2 ^ 31) {t : Nat} {raw : Bool}
    (hraw : raw = b.lastRawReading) (hspaced : Spaced (2 ^ 31) (ticks ++ [(t, raw)]))
    : Debounced d start (ticks ++ [(t, raw)]) (b.update raw (reading start t) (reading start t)) := by
  rw [Button.update_of_eq hraw]
  rcases h.last with ⟨hnil, hfirst⟩ | ⟨pre, block, s, hends, htime⟩
  . have hends : EndsWith (ticks ++ [(t, raw)]) ticks [(t, raw)] t raw := by
      apply EndsWith.of_ended
      simp [hnil]
    constructor
    . exact h.debounceMilliseconds
    . rw [hends.settled_eq, ← h.stableReading]
      have hstable := h.stableReading
      rw [hnil] at hstable
      simp [hraw, hfirst, hstable, settled, runs]
    . right
      dsimp only
      rw [← hraw]
      exact ⟨_, _, _, hends, .inr ⟨hnil, hraw.trans hfirst⟩⟩
  . rw [← hraw] at hends htime
    have hstable := h.stableReading
    rw [hends.settled_eq] at hstable
    constructor
    . exact h.debounceMilliseconds
    . rw [(hends.concat t).settled_eq, lasted_concat hends.head]
      dsimp only
      cases hlasted : lasted d block with
      | true => simp [hstable, hlasted]
      | false =>
        rw [hlasted] at hstable
        rcases htime with htime | ⟨hnil, hfirst⟩
        . rcases hends.time_lt hlasted hspaced with ⟨hstart, hturn⟩
          dsimp only at hstart hturn
          rw [htime, h.debounceMilliseconds, hstable]
          simp only [reading_sub_lt_ofNat_iff start hstart (show t - s < 2 ^ 32 by omega)
            (show d < 2 ^ 32 by omega)]
          by_cases hlt : t < s + d
          . simp [hlt]
          . simp [hlt, Nat.not_lt.mp hlt]
        . rw [hnil] at hstable
          simp [hstable, hfirst, hnil, settled, runs]
    . right
      dsimp only
      rw [← hraw]
      exact ⟨_, _, _, hends.concat t, htime⟩

theorem after_debounced (hd : d < 2 ^ 31) (hspaced : Spaced (2 ^ 31) ticks)
    : Debounced d start ticks (after d start ticks).1 := by
  induction ticks using List.reverseRecOn with
  | nil => exact ⟨rfl, rfl, .inl ⟨rfl, rfl⟩⟩
  | append_singleton ticks c ih =>
    rw [after_concat]
    have h := ih hspaced.left_of_append
    by_cases hraw : c.2 = (after d start ticks).1.lastRawReading
    . exact h.update_of_eq hd hraw hspaced
    . exact h.update_of_ne hd hraw c.1

theorem wasReleased_update (b : Button) (raw : Bool) (now₁ now₂ : Millis)
    : (b.update raw now₁ now₂).wasReleased
        =
      (b.isPressed && !(b.update raw now₁ now₂).isPressed) := by
  unfold wasReleased isPressed
  rw [update_previousStableReading]
  rw [Bool.and_comm]

structure Alternates (b : Button) (edges : List Edge) : Prop where
  chain : edges.IsChain (· ≠ ·)
  first : edges.head? ≠ some .released
  last : b.isPressed = decide (edges.getLast? = some .pressed)

theorem Alternates.concat {b' : Button} {edges : List Edge} (h : Alternates b edges) {e : Edge}
    (hnew : edges.getLast? ≠ some e) (hfirst : edges = [] → e = .pressed)
    (hafter : b'.isPressed = decide (e = .pressed))
    : Alternates b' (edges ++ [e]) := by
  constructor
  . rw [List.isChain_append]
    refine ⟨h.chain, List.isChain_singleton e, ?_⟩
    intro x hx y hy heq
    rw [List.head?_singleton, Option.mem_some_iff] at hy
    apply hnew
    rw [hy, ← heq]
    exact hx
  . cases edges with
    | nil => simp [hfirst rfl]
    | cons first edges => exact h.first
  . rw [List.getLast?_concat, hafter]
    simp

theorem Alternates.update {edges : List Edge} (h : Alternates b edges) (raw : Bool)
    (now₁ now₂ : Millis)
    : Alternates (b.update raw now₁ now₂) (edges ++ (b.update raw now₁ now₂).edges) := by
  have hlast := h.last
  unfold Button.edges
  rw [wasPressed_update, wasReleased_update]
  cases hbefore : b.isPressed with
  | true =>
    rw [hbefore, eq_comm, decide_eq_true_eq] at hlast
    cases hafter : (b.update raw now₁ now₂).isPressed with
    | true =>
      simp only [Bool.not_true, Bool.false_and, Bool.and_false, Bool.false_eq_true, if_false,
        List.append_nil]
      exact ⟨h.chain, h.first, by simp [hafter, hlast]⟩
    | false =>
      apply h.concat
      . simp [hlast]
      . intro hnil
        rw [hnil] at hlast
        contradiction
      . simp [hafter]
  | false =>
    rw [hbefore, eq_comm, decide_eq_false_iff_not] at hlast
    cases hafter : (b.update raw now₁ now₂).isPressed with
    | true =>
      apply h.concat
      . exact hlast
      . simp
      . simp [hafter]
    | false =>
      simp only [Bool.not_false, Bool.and_false, Bool.false_and, Bool.false_eq_true, if_false,
        List.append_nil]
      exact ⟨h.chain, h.first, by simp [hafter, hlast]⟩

theorem after_alternates (d : Nat) (start : Millis) (ticks : List (Nat × Bool))
    : Alternates (after d start ticks).1 ((after d start ticks).2.map (·.2)) := by
  apply run_induction (P := fun _ (b : Button) (out : List (Nat × Edge)) => Alternates b (out.map (·.2)))
  . refine ⟨by simp, by simp, rfl⟩
  . intro _ c b out _ h
    have hstamped (edges : List Edge) : (edges.map fun e => (c.1, e)).map (·.2) = edges := by
      rw [List.map_map]
      apply List.map_id
    rw [List.map_append]
    dsimp only [timed, tick]
    rw [hstamped]
    apply h.update

/-
What a button says over a run of ticks: it reads as the latest run of samples that has lasted, and
reports each change of that once, in the tick that makes it.
-/
structure Debounces (d : Nat) (start : Millis) (ticks : List (Nat × Bool)) : Prop where
  isPressed : ∀ pre post, ticks = pre ++ post →
    (after d start pre).1.isPressed = settled d false pre
  wasPressed : ∀ pre tick post, ticks = pre ++ tick :: post →
    ((after d start (pre ++ [tick])).1.wasPressed = true
      ↔
    settled d false pre = false ∧ settled d false (pre ++ [tick]) = true)
  wasReleased : ∀ pre tick post, ticks = pre ++ tick :: post →
    ((after d start (pre ++ [tick])).1.wasReleased = true
      ↔
    settled d false pre = true ∧ settled d false (pre ++ [tick]) = false)
  notBoth : ∀ pre post, ticks = pre ++ post →
    ¬((after d start pre).1.wasPressed = true ∧ (after d start pre).1.wasReleased = true)
  alternate : ((after d start ticks).2.map (·.2)).IsChain (· ≠ ·)
  first : ((after d start ticks).2.map (·.2)).head? ≠ some .released

/--
However long a button is left alone and however often the clock wraps meanwhile, it is debounced as if
its times were exact.
-/
theorem debounces (d : Nat) (hd : d < 2 ^ 31) (start : Millis) (ticks : List (Nat × Bool))
    (hspaced : Spaced (2 ^ 31) ticks)
    : Debounces d start ticks := by
  have hreads : ∀ pre post, ticks = pre ++ post →
      (after d start pre).1.isPressed = settled d false pre := by
    intro pre post hticks
    rw [hticks] at hspaced
    exact (after_debounced hd hspaced.left_of_append).stableReading
  have hedge : ∀ pre tick post, ticks = pre ++ tick :: post →
      (after d start (pre ++ [tick])).1.isPressed = settled d false (pre ++ [tick]) := by
    intro pre tick post hticks
    apply hreads _ post
    rw [hticks, List.append_assoc]
    rfl
  constructor
  . exact hreads
  . intro pre tick post hticks
    rw [← hreads _ _ hticks, ← hedge _ _ _ hticks]
    rw [after_concat, wasPressed_update]
    simp
  . intro pre tick post hticks
    rw [← hreads _ _ hticks, ← hedge _ _ _ hticks]
    rw [after_concat, wasReleased_update]
    simp
  . intro pre post _
    simp only [Button.wasPressed, Button.wasReleased]
    cases (after d start pre).1.stableReading with
    | true => simp
    | false => simp
  . exact (after_alternates d start ticks).chain
  . exact (after_alternates d start ticks).first

def bouncing : List (Nat × Bool) :=
  [(0, false), (5, true), (8, false), (12, true), (30, true), (43, true), (60, false), (95, false)]

theorem debounces_bouncing : Debounces 30 4294967276 bouncing := by
  apply debounces 30 (by decide) 4294967276 bouncing
  decide

example : (after 30 4294967276 bouncing).2 = [(43, .pressed), (95, .released)] := by
  decide +kernel

end Button

end Maltbee
