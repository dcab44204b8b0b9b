import Mathlib.Data.List.DropRight
import MaltbeeController.Lib.SampleRuns
import MaltbeeController.Lib.StepRun
import MaltbeeController.Lib.WrapClock
import MaltbeeController.McsEsp32.Impl.ButtonSetupModeTrigger

/-!
This module contains the gestures that the setup trigger answers to: a press, the bounces after it and the
release that lasts, and the proof that nothing else requests the setup.
-/

open SampleRuns StepRun WrapClock

namespace Maltbee

namespace ButtonSetupModeTrigger

-- A run of inactive samples that ends the gesture before it.
def settles (block : List (Nat × Bool)) : Bool :=
  lasted kReleaseSettleMs.toNat block && block.all fun c => !c.2

def sinceSettled (ticks : List (Nat × Bool)) : List (Nat × Bool) :=
  ((runs ticks).rtakeWhile fun block => !settles block).flatten

-- When the gesture began that is going on after `ticks`.
def pressTime (ticks : List (Nat × Bool)) : Option Nat :=
  ((sinceSettled ticks).find? (·.2)).map (·.1)

-- With the last of `ticks` the button has been inactive for long enough, and it was held for long enough
-- before.
def Requests (minHold : Nat) (ticks : List (Nat × Bool)) : Prop :=
  ∃ pre block r p, EndsWith ticks pre block r false ∧
    lasted kReleaseSettleMs.toNat block = true ∧
    lasted kReleaseSettleMs.toNat block.dropLast = false ∧
    pressTime pre = some p ∧ p + minHold ≤ r

theorem pressTime_of_settles {ticks pre block : List (Nat × Bool)} {s : Nat} {v : Bool}
    (h : EndsWith ticks pre block s v) (hsettles : settles block = true)
    : pressTime ticks = none := by
  unfold pressTime sinceSettled
  rw [h.runs_eq]
  rw [List.rtakeWhile_concat_neg]
  . rfl
  . simp [hsettles]

theorem pressTime_of_not_settles {ticks pre block : List (Nat × Bool)} {s : Nat} {v : Bool}
    (h : EndsWith ticks pre block s v) (hsettles : settles block = false)
    : pressTime ticks = (pressTime pre).or (if v then some s else none) := by
  unfold pressTime sinceSettled
  rw [h.runs_eq]
  rw [List.rtakeWhile_concat_pos]
  . rw [List.flatten_append, List.find?_append, Option.map_or]
    congr 1
    cases v with
    | true =>
      have hfirst : block.find? (·.2) = some (s, true) := by
        have := h.head
        cases block with
        | nil => contradiction
        | cons first block =>
          rw [List.head?_cons, Option.some.injEq] at this
          rw [this]
          rfl
      simp [hfirst]
    | false =>
      have hnone : block.find? (·.2) = none := by
        rw [List.find?_eq_none]
        intro c hc
        simp [h.same c hc]
      simp [hnone]
  . simp [hsettles]

theorem settles_of_active {ticks pre block : List (Nat × Bool)} {s : Nat}
    (h : EndsWith ticks pre block s true)
    : settles block = false := by
  unfold settles
  rw [Bool.and_eq_false_iff]
  right
  rw [List.all_eq_false]
  refine ⟨(s, true), List.mem_of_mem_head? h.head, ?_⟩
  simp

theorem settles_of_inactive {ticks pre block : List (Nat × Bool)} {s : Nat}
    (h : EndsWith ticks pre block s false)
    : settles block = lasted kReleaseSettleMs.toNat block := by
  unfold settles
  rw [Bool.and_eq_left_iff_imp]
  intro _
  rw [List.all_eq_true]
  intro c hc
  simp [h.same c hc]

theorem pressTime_concat_active (ticks : List (Nat × Bool)) (t : Nat)
    : pressTime (ticks ++ [(t, true)]) = (pressTime ticks).or (some t) := by
  rcases ended_or_endsWith ticks true with hended | ⟨pre, block, s, hends⟩
  . have hnew := EndsWith.of_ended hended t
    exact pressTime_of_not_settles hnew (settles_of_active hnew)
  . have hnew := hends.concat t
    rw [pressTime_of_not_settles hnew (settles_of_active hnew)]
    rw [pressTime_of_not_settles hends (settles_of_active hends)]
    rw [if_pos rfl, Option.or_assoc, Option.some_or]

theorem pressTime_concat_release {ticks : List (Nat × Bool)} (h : ∀ c ∈ ticks.getLast?, c.2 ≠ false)
    (t : Nat)
    : pressTime (ticks ++ [(t, false)]) = pressTime ticks := by
  have hnew := EndsWith.of_ended h t
  rw [pressTime_of_not_settles hnew]
  . simp
  . rw [settles_of_inactive hnew, lasted_singleton, decide_eq_false_iff_not]
    have : 0 < kReleaseSettleMs.toNat := by decide
    omega

theorem pressTime_of_inactive {ticks pre block : List (Nat × Bool)} {s : Nat}
    (h : EndsWith ticks pre block s false)
    : pressTime ticks = if lasted kReleaseSettleMs.toNat block then none else pressTime pre := by
  rw [← settles_of_inactive h]
  split
  . next hsettles => exact pressTime_of_settles h hsettles
  . next hsettles =>
    rw [pressTime_of_not_settles h (Bool.eq_false_iff.mpr hsettles)]
    simp

theorem requests_iff {ticks pre block : List (Nat × Bool)} {r : Nat}
    (h : EndsWith ticks pre block r false) (minHold : Nat)
    : Requests minHold ticks
        ↔
      lasted kReleaseSettleMs.toNat block = true ∧
        lasted kReleaseSettleMs.toNat block.dropLast = false ∧
        ∃ p, pressTime pre = some p ∧ p + minHold ≤ r := by
  constructor
  . rintro ⟨pre', block', r', p, h', hlasted, hfirst, hpress, hheld⟩
    rcases h.unique h' with ⟨rfl, rfl, rfl, _⟩
    exact ⟨hlasted, hfirst, p, hpress, hheld⟩
  . rintro ⟨hlasted, hfirst, p, hpress, hheld⟩
    exact ⟨pre, block, r, p, h, hlasted, hfirst, hpress, hheld⟩

theorem not_requests_of_active {ticks : List (Nat × Bool)} (t minHold : Nat)
    : ¬Requests minHold (ticks ++ [(t, true)]) := by
  rintro ⟨pre, block, r, p, h, _⟩
  rcases h.getLast?_eq with ⟨c, hmem, hlast⟩
  rw [List.getLast?_concat, Option.some.injEq] at hlast
  have := h.same c hmem
  rw [← hlast] at this
  contradiction

def after (minHoldMs start : Millis) (ticks : List (Nat × Bool)) : ButtonSetupModeTrigger :=
  ticks.foldl (fun t c => t.update c.2 (reading start c.1)) { minHoldMs }

theorem after_concat (minHoldMs start : Millis) (ticks : List (Nat × Bool)) (c : Nat × Bool)
    : after minHoldMs start (ticks ++ [c])
        =
      (after minHoldMs start ticks).update c.2 (reading start c.1) := by
  simp [after]

-- What the trigger knows of the gesture that is going on.
structure Tracks (start : Millis) (ticks : List (Nat × Bool)) (t : ButtonSetupModeTrigger) : Prop where
  idle : pressTime ticks = none → t.holding = false ∧ t.releasing = false
  held : ∀ p, pressTime ticks = some p → t.holding = true ∧ t.holdStartMs = reading start p ∧
    ∃ pre block s v, EndsWith ticks pre block s v ∧ t.releasing = !v ∧
      (v = false → t.releaseStartMs = reading start s)

variable {start : Millis} {ticks : List (Nat × Bool)} {t : ButtonSetupModeTrigger}

theorem Tracks.update_active (h : Tracks start ticks t) (now : Nat)
    : Tracks start (ticks ++ [(now, true)]) (t.update true (reading start now))
        ∧
      (t.update true (reading start now)).requested = false := by
  have hpress := pressTime_concat_active ticks now
  cases hgesture : pressTime ticks with
  | none =>
    rw [hgesture, Option.none_or] at hpress
    rcases h.idle hgesture with ⟨hholding, hreleasing⟩
    have hupdate : t.update true (reading start now)
        =
      { t with
        holding := true
        holdStartMs := reading start now
        requestedThisTick := false
      } := by
      simp [update, hholding]
    rw [hupdate]
    refine ⟨⟨?_, ?_⟩, rfl⟩
    . rw [hpress]
      simp
    . intro p hp
      rw [hpress, Option.some.injEq] at hp
      refine ⟨rfl, by rw [hp], ?_⟩
      rcases ended_or_endsWith ticks true with hended | ⟨pre, block, s, hends⟩
      . exact ⟨_, _, _, _, .of_ended hended now, by simpa using hreleasing, by simp⟩
      . exact ⟨_, _, _, _, hends.concat now, by simpa using hreleasing, by simp⟩
  | some p =>
    rw [hgesture, Option.some_or] at hpress
    rcases h.held p hgesture with ⟨hholding, hstart, pre, block, s, v, hends, hreleasing, hrelease⟩
    have hupdate : t.update true (reading start now)
        =
      { t with releasing := false, requestedThisTick := false } := by
      cases v with
      | true => simp [update, hholding, hreleasing]
      | false => simp [update, hholding, hreleasing]
    rw [hupdate]
    refine ⟨⟨?_, ?_⟩, rfl⟩
    . rw [hpress]
      simp
    . intro p' hp'
      rw [hpress, Option.some.injEq] at hp'
      refine ⟨hholding, by rw [← hp', hstart], ?_⟩
      rcases ended_or_endsWith ticks true with hended | ⟨pre, block, s, hends⟩
      . exact ⟨_, _, _, _, .of_ended hended now, by simp, by simp⟩
      . exact ⟨_, _, _, _, hends.concat now, by simp, by simp⟩

theorem Tracks.update_idle (h : Tracks start ticks t) (hgesture : pressTime ticks = none) (now : Nat)
    (minHold : Nat)
    : Tracks start (ticks ++ [(now, false)]) (t.update false (reading start now))
        ∧
      (t.update false (reading start now)).requested = false
        ∧
      ¬Requests minHold (ticks ++ [(now, false)]) := by
  rcases h.idle hgesture with ⟨hholding, hreleasing⟩
  have hupdate : t.update false (reading start now) = { t with requestedThisTick := false } := by
    simp [update, hholding, hreleasing]
  have hstill : pressTime (ticks ++ [(now, false)]) = none ∧
      ¬Requests minHold (ticks ++ [(now, false)]) := by
    rcases ended_or_endsWith ticks false with hended | ⟨pre, block, s, hends⟩
    . constructor
      . rw [pressTime_concat_release hended, hgesture]
      . rw [requests_iff (.of_ended hended now), lasted_singleton, decide_eq_true_eq]
        have : 0 < kReleaseSettleMs.toNat := by decide
        omega
    . have hnew := hends.concat now
      rw [pressTime_of_inactive hends] at hgesture
      rw [pressTime_of_inactive hnew, requests_iff hnew, List.dropLast_concat]
      cases hlasted : lasted kReleaseSettleMs.toNat block with
      | true => simp [lasted_concat hends.head, hlasted]
      | false =>
        rw [hlasted, if_neg Bool.false_ne_true] at hgesture
        simp [hgesture]
  rw [hupdate]
  refine ⟨⟨?_, ?_⟩, rfl, hstill.2⟩
  . intro _
    exact ⟨hholding, hreleasing⟩
  . intro p hp
    rw [hstill.1] at hp
    contradiction

theorem Tracks.update_release (h : Tracks start ticks t) {p : Nat} (hgesture : pressTime ticks = some p)
    {pre block : List (Nat × Bool)} {s : Nat} (hends : EndsWith ticks pre block s true)
    (hreleasing : t.releasing = false) (now minHold : Nat)
    : Tracks start (ticks ++ [(now, false)]) (t.update false (reading start now))
        ∧
      (t.update false (reading start now)).requested = false
        ∧
      ¬Requests minHold (ticks ++ [(now, false)]) := by
  rcases h.held p hgesture with ⟨hholding, hstart, _⟩
  have hended : ∀ c ∈ ticks.getLast?, c.2 ≠ false := by
    intro c hc
    rcases hends.getLast?_eq with ⟨c', hmem, hlast⟩
    rw [hlast, Option.mem_some_iff] at hc
    rw [← hc, hends.same c' hmem]
    simp
  have hnew := EndsWith.of_ended hended now
  have hpress := pressTime_concat_release hended now
  have hupdate : t.update false (reading start now)
      =
    { t with releasing := true, releaseStartMs := reading start now, requestedThisTick := false } := by
    simp [update, hholding, hreleasing]
  rw [hupdate]
  refine ⟨⟨?_, ?_⟩, rfl, ?_⟩
  . rw [hpress, hgesture]
    simp
  . intro p' hp'
    rw [hpress, hgesture, Option.some.injEq] at hp'
    refine ⟨hholding, by rw [← hp', hstart], _, _, _, _, hnew, rfl, ?_⟩
    simp
  . rw [requests_iff hnew, lasted_singleton, decide_eq_true_eq]
    have : 0 < kReleaseSettleMs.toNat := by decide
    omega

theorem mem_of_pressTime {p : Nat} (h : pressTime ticks = some p) : (p, true) ∈ ticks := by
  simp only [pressTime, Option.map_eq_some_iff] at h
  rcases h with ⟨c, hfind, rfl⟩
  have hactive := List.find?_some hfind
  have hmem := List.mem_of_find?_eq_some hfind
  rcases List.mem_flatten.mp hmem with ⟨block, hblock, hc⟩
  have hrun := (List.rtakeWhile_suffix _ _).subset hblock
  have : c ∈ (runs ticks).flatten := List.mem_flatten.mpr ⟨block, hrun, hc⟩
  rw [runs, List.flatten_splitBy] at this
  rw [← hactive]
  exact this

theorem press_le_release {pre block : List (Nat × Bool)} {r p : Nat}
    (h : EndsWith ticks pre block r false) (hspaced : Spaced (2 ^ 31) ticks)
    (hpress : pressTime pre = some p)
    : p ≤ r := by
  have hordered := hspaced.pairwise_le
  rw [h.ticks_eq, List.pairwise_append] at hordered
  exact hordered.2.2 _ (mem_of_pressTime hpress) _ (List.mem_of_mem_head? h.head)

-- The differences of the readings are those of the real times, as none of these is a whole turn away.
theorem update_of_releasing (hholding : t.holding = true) (hreleasing : t.releasing = true)
    {p r now : Nat} (hstart : t.holdStartMs = reading start p)
    (hreleased : t.releaseStartMs = reading start r) (hpr : p ≤ r) (hshort : r < p + 2 ^ 31)
    (hrn : r ≤ now) (hturn : now < r + 2 ^ 32)
    : t.update false (reading start now)
        =
      if r + kReleaseSettleMs.toNat ≤ now then
        {
          t with
          holding := false
          releasing := false
          requestedThisTick := decide (p + t.minHoldMs.toNat ≤ r)
        }
      else
        { t with requestedThisTick := false } := by
  have hdue : reading start now - reading start r ≥ kReleaseSettleMs
      ↔
    r + kReleaseSettleMs.toNat ≤ now := by
    rw [ge_iff_le, ← BitVec.not_lt, reading_sub_lt_iff start hrn (by omega), Nat.not_lt]
  have hlong : reading start r - reading start p ≥ t.minHoldMs ↔ p + t.minHoldMs.toNat ≤ r := by
    rw [ge_iff_le, ← BitVec.not_lt, reading_sub_lt_iff start hpr (by omega), Nat.not_lt]
  simp only [update, hholding, hreleasing, hreleased, hstart, hdue, hlong]
  by_cases hsettle : r + kReleaseSettleMs.toNat ≤ now
  . by_cases hhold : p + t.minHoldMs.toNat ≤ r
    . simp [hsettle, hhold]
    . simp [hsettle, hhold]
  . simp [hsettle]

theorem lasted_concat_eq {pre block : List (Nat × Bool)} {r : Nat}
    (hends : EndsWith ticks pre block r false)
    (hlasted : lasted kReleaseSettleMs.toNat block = false) (now : Nat)
    : lasted kReleaseSettleMs.toNat (block ++ [(now, false)])
        =
      decide (r + kReleaseSettleMs.toNat ≤ now) := by
  rw [lasted_concat hends.head, hlasted, Bool.false_or]

theorem requests_concat_iff {pre block : List (Nat × Bool)} {r p : Nat}
    (hends : EndsWith ticks pre block r false)
    (hlasted : lasted kReleaseSettleMs.toNat block = false) (hpress : pressTime pre = some p)
    (minHold now : Nat)
    : Requests minHold (ticks ++ [(now, false)])
        ↔
      r + kReleaseSettleMs.toNat ≤ now ∧ p + minHold ≤ r := by
  rw [requests_iff (hends.concat now), lasted_concat_eq hends hlasted]
  rw [List.dropLast_concat, hlasted, hpress]
  simp

-- The button stays inactive: the release is over once it has lasted, and what counts for the hold is how
-- long it was when the release began.
theorem Tracks.update_settle (h : Tracks start ticks t) {p : Nat} (hgesture : pressTime ticks = some p)
    {pre block : List (Nat × Bool)} {r : Nat} (hends : EndsWith ticks pre block r false)
    (hreleasing : t.releasing = true) (hreleased : t.releaseStartMs = reading start r) {now : Nat}
    (hspaced : Spaced (2 ^ 31) (ticks ++ [(now, false)]))
    (hheld : pressTime pre = some p → r < p + 2 ^ 31)
    : Tracks start (ticks ++ [(now, false)]) (t.update false (reading start now))
        ∧
      ((t.update false (reading start now)).requested = true
        ↔
      Requests t.minHoldMs.toNat (ticks ++ [(now, false)])) := by
  rcases h.held p hgesture with ⟨hholding, hstart, _⟩
  have hnew := hends.concat now
  rw [pressTime_of_inactive hends] at hgesture
  cases hlasted : lasted kReleaseSettleMs.toNat block with
  | true =>
    rw [hlasted, if_pos rfl] at hgesture
    contradiction
  | false =>
    rw [hlasted, if_neg Bool.false_ne_true] at hgesture
    rcases hends.time_lt hlasted hspaced with ⟨hrn, hturn⟩
    have hsettle : kReleaseSettleMs.toNat = 50 := by rfl
    have hpr := press_le_release hends hspaced.left_of_append hgesture
    rw [update_of_releasing hholding hreleasing hstart hreleased hpr (hheld hgesture) hrn (by omega)]
    rw [requests_concat_iff hends hlasted hgesture]
    have hpress := pressTime_of_inactive hnew
    rw [lasted_concat_eq hends hlasted] at hpress
    split
    . next hsettle =>
      refine ⟨⟨?_, ?_⟩, ?_⟩
      . intro _
        exact ⟨rfl, rfl⟩
      . intro p' hp'
        rw [hpress] at hp'
        simp [hsettle] at hp'
      . simp [requested, hsettle]
    . next hsettle =>
      simp only [hsettle, decide_false, Bool.false_eq_true, ↓reduceIte, hgesture] at hpress
      refine ⟨⟨?_, ?_⟩, ?_⟩
      . rw [hpress]
        simp
      . intro p' hp'
        rw [hpress, Option.some.injEq] at hp'
        refine ⟨hholding, by rw [← hp', hstart], _, _, _, _, hnew, hreleasing, ?_⟩
        intro _
        exact hreleased
      . simp [requested, hsettle]

def HeldBelow (gap : Nat) (ticks : List (Nat × Bool)) : Prop :=
  ∀ pre block post r p, ticks = pre ++ block ++ post → EndsWith (pre ++ block) pre block r false →
    pressTime pre = some p → r < p + gap

theorem HeldBelow.left_of_append {gap : Nat} {more : List (Nat × Bool)}
    (h : HeldBelow gap (ticks ++ more))
    : HeldBelow gap ticks := by
  intro pre block post r p hticks
  apply h pre block (post ++ more) r p
  rw [hticks, List.append_assoc]

theorem Tracks.update (h : Tracks start ticks t) {c : Nat × Bool}
    (hspaced : Spaced (2 ^ 31) (ticks ++ [c])) (hheld : HeldBelow (2 ^ 31) (ticks ++ [c]))
    : Tracks start (ticks ++ [c]) (t.update c.2 (reading start c.1))
        ∧
      ((t.update c.2 (reading start c.1)).requested = true
        ↔
      Requests t.minHoldMs.toNat (ticks ++ [c])) := by
  rcases c with ⟨now, active⟩
  cases active with
  | true =>
    rcases h.update_active now with ⟨htracks, hrequested⟩
    refine ⟨htracks, iff_of_false ?_ (not_requests_of_active now _)⟩
    simp [hrequested]
  | false =>
    cases hgesture : pressTime ticks with
    | none =>
      rcases h.update_idle hgesture now t.minHoldMs.toNat with ⟨htracks, hrequested, hnot⟩
      refine ⟨htracks, iff_of_false ?_ hnot⟩
      simp [hrequested]
    | some p =>
      rcases h.held p hgesture with ⟨_, _, pre, block, s, v, hends, hreleasing, hreleased⟩
      cases v with
      | true =>
        rcases h.update_release hgesture hends hreleasing now t.minHoldMs.toNat
          with ⟨htracks, hrequested, hnot⟩
        refine ⟨htracks, iff_of_false ?_ hnot⟩
        simp [hrequested]
      | false =>
        apply h.update_settle hgesture hends hreleasing (hreleased rfl) hspaced
        have hticks := hends.ticks_eq
        apply hheld pre block [(now, false)] s p
        . rw [hticks]
        . rw [← hticks]
          exact hends

theorem update_minHoldMs (active : Bool) (now : Millis)
    : (t.update active now).minHoldMs = t.minHoldMs := by
  simp only [ButtonSetupModeTrigger.update]
  split
  . rfl
  . split
    . rfl
    . split
      . split
        . rfl
        . split
          . split
            . rfl
            . rfl
          . rfl
      . rfl

theorem after_tracks (minHoldMs : Millis) (hspaced : Spaced (2 ^ 31) ticks)
    (hheld : HeldBelow (2 ^ 31) ticks)
    : Tracks start ticks (after minHoldMs start ticks)
        ∧
      (after minHoldMs start ticks).minHoldMs = minHoldMs := by
  induction ticks using List.reverseRecOn with
  | nil =>
    refine ⟨⟨?_, ?_⟩, rfl⟩
    . intro _
      exact ⟨rfl, rfl⟩
    . intro p hp
      contradiction
  | append_singleton ticks c ih =>
    rcases ih hspaced.left_of_append hheld.left_of_append with ⟨htracks, hmin⟩
    rw [after_concat]
    exact ⟨(htracks.update hspaced hheld).1, (update_minHoldMs _ _).trans hmin⟩

theorem requested_after_concat (minHoldMs : Millis) {c : Nat × Bool}
    (hspaced : Spaced (2 ^ 31) (ticks ++ [c])) (hheld : HeldBelow (2 ^ 31) (ticks ++ [c]))
    : (after minHoldMs start (ticks ++ [c])).requested = true
        ↔
      Requests minHoldMs.toNat (ticks ++ [c]) := by
  rcases @after_tracks start ticks minHoldMs hspaced.left_of_append hheld.left_of_append
    with ⟨htracks, hmin⟩
  rw [after_concat]
  rw [(htracks.update hspaced hheld).2, hmin]

theorem Requests.inactive {minHold : Nat} {c : Nat × Bool} (h : Requests minHold (ticks ++ [c]))
    : c.2 = false := by
  rcases c with ⟨now, active⟩
  cases active with
  | true => exact (not_requests_of_active now minHold h).elim
  | false => rfl

theorem Requests.active_between {minHold : Nat} {between : List (Nat × Bool)} {c : Nat × Bool}
    (h : Requests minHold ticks) (h' : Requests minHold (ticks ++ between ++ [c]))
    : ∃ c ∈ between, c.2 = true := by
  by_contra hnone
  have hbetween : ∀ c ∈ between, c.2 = false := by
    intro c hc
    rw [← Bool.not_eq_true]
    intro hactive
    exact hnone ⟨c, hc, hactive⟩
  rcases h with ⟨pre, block, r, p, hends, hlasted, _⟩
  have hreleased : ∀ c' ∈ [c], c'.2 = false := by
    simp [h'.inactive]
  have hlater := (hends.append hbetween).append hreleased
  have hfirst := ((requests_iff hlater minHold).mp h').2.1
  rw [List.dropLast_concat, lasted_append hlasted] at hfirst
  contradiction

structure RequestsOnGestures (minHoldMs start : Millis) (ticks : List (Nat × Bool)) : Prop where
  requested_iff : ∀ pre tick post, ticks = pre ++ tick :: post →
    ((after minHoldMs start (pre ++ [tick])).requested = true
      ↔
    Requests minHoldMs.toNat (pre ++ [tick]))
  inactive : ∀ pre tick post, ticks = pre ++ tick :: post →
    (after minHoldMs start (pre ++ [tick])).requested = true → tick.2 = false
  once : ∀ pre first between second post, ticks = pre ++ first :: between ++ second :: post →
    (after minHoldMs start (pre ++ [first])).requested = true →
      (after minHoldMs start (pre ++ first :: between ++ [second])).requested = true →
        ∃ c ∈ between, c.2 = true

/--
The setup is requested exactly in the tick in which a release settles that has ended a long enough hold,
and once for each hold.
-/
theorem requests_on_gestures (minHoldMs start : Millis) (ticks : List (Nat × Bool))
    (hspaced : Spaced (2 ^ 31) ticks) (hheld : HeldBelow (2 ^ 31) ticks)
    : RequestsOnGestures minHoldMs start ticks := by
  have hrequested : ∀ pre tick post, ticks = pre ++ tick :: post →
      ((after minHoldMs start (pre ++ [tick])).requested = true
        ↔
      Requests minHoldMs.toNat (pre ++ [tick])) := by
    intro pre tick post hticks
    rw [hticks, List.append_cons] at hspaced hheld
    exact requested_after_concat minHoldMs hspaced.left_of_append hheld.left_of_append
  constructor
  . exact hrequested
  . intro pre tick post hticks h
    rw [hrequested pre tick post hticks] at h
    exact h.inactive
  . intro pre first between second post hticks h h'
    rw [hrequested pre first (between ++ second :: post) (by simpa using hticks)] at h
    rw [hrequested (pre ++ first :: between) second post hticks, List.append_cons pre] at h'
    exact h.active_between h'

theorem HeldBelow.of_lt {gap : Nat} (h : ∀ c ∈ ticks, c.1 < gap) : HeldBelow gap ticks := by
  intro pre block post r p hticks hends _
  have hmem : (r, false) ∈ ticks := by
    rw [hticks]
    apply List.mem_append_left
    apply List.mem_append_right
    exact List.mem_of_mem_head? hends.head
  have := h _ hmem
  dsimp only at this
  omega

def bouncingHold : List (Nat × Bool) :=
  [(0, false), (10, true), (500, false), (520, true), (1010, false), (1030, false), (1060, false)]

theorem requests_on_gestures_bouncing : RequestsOnGestures 1000 4294966796 bouncingHold := by
  apply requests_on_gestures
  . decide
  . apply HeldBelow.of_lt
    decide

example : (after 1000 4294966796 bouncingHold).requested = true := by
  decide +kernel

end ButtonSetupModeTrigger

end Maltbee
