import MaltbeeController.Lib.StepRun
import MaltbeeController.Lib.WrapClock

/-!
This module contains components that flip what they show each time an interval has passed, by the
difference of two readings of a clock that wraps, and calls to them that change nothing.
-/

open StepRun WrapClock

namespace IntervalTimer

/--
A component with an interval timer. `stamp` is the reading from which it counts, up to the `interval` of
the mode it is in if it blinks in that mode. It counts at the calls that tick it, and some calls start the
interval over.
-/
structure Machine (w : Nat) (σ : Type u) (κ : Type v) (μ : Type x) where
  step : σ → κ → BitVec w → σ
  mode : σ → μ
  shown : σ → Bool
  stamp : σ → BitVec w
  interval : μ → Option (BitVec w)
  ticks : σ → κ → Bool
  restarts : κ → Bool

inductive Event where
  | tick
  | flip
  | entry
  deriving DecidableEq, Repr

-- The time of the latest flip or entry into a mode, where the start counts as an entry.
def since (trace : List (Nat × Event)) : Nat :=
  ((trace.filter (·.2 ≠ .tick)).getLast?.map (·.1)).getD 0

def tickTimes (trace : List (Nat × Event)) : List Nat :=
  (trace.filter (·.2 = .tick)).map (·.1)

def lastTick (trace : List (Nat × Event)) : Nat :=
  (tickTimes trace).getLast?.getD 0

def Ticked (gap : Nat) (trace : List (Nat × Event)) : Prop :=
  (0 :: tickTimes trace).IsChain fun a b => b < a + gap

instance (gap : Nat) (trace : List (Nat × Event)) : Decidable (Ticked gap trace) :=
  inferInstanceAs (Decidable (List.IsChain _ _))

theorem since_append (trace more : List (Nat × Event))
    : since (trace ++ more)
        =
      ((more.filter (·.2 ≠ .tick)).getLast?.map (·.1)).getD (since trace) := by
  unfold since
  rw [List.filter_append, List.getLast?_append]
  cases (more.filter (·.2 ≠ .tick)).getLast? with
  | none => simp
  | some e => simp

theorem tickTimes_append (trace more : List (Nat × Event))
    : tickTimes (trace ++ more) = tickTimes trace ++ tickTimes more := by
  simp [tickTimes]

theorem Ticked.left_of_append {gap : Nat} {trace more : List (Nat × Event)}
    (h : Ticked gap (trace ++ more))
    : Ticked gap trace := by
  unfold Ticked at *
  rw [tickTimes_append, ← List.cons_append] at h
  exact h.left_of_append

theorem Ticked.lt {gap t : Nat} {trace more : List (Nat × Event)} (h : Ticked gap (trace ++ more))
    (hmore : (tickTimes more).head? = some t)
    : t < lastTick trace + gap := by
  unfold Ticked at h
  rw [tickTimes_append, ← List.cons_append, List.isChain_append] at h
  apply h.2.2
  . rw [List.getLast?_cons]
    rfl
  . exact hmore

namespace Machine

variable {w : Nat} {σ : Type u} {κ : Type v} {μ : Type x} [DecidableEq μ]

def flips (m : Machine w σ κ μ) (s : σ) (c : κ) (s' : σ) : Bool :=
  m.ticks s c && m.shown s' != m.shown s

def enters (m : Machine w σ κ μ) (s : σ) (c : κ) (s' : σ) : Bool :=
  m.restarts c || m.mode s' != m.mode s

def observe (m : Machine w σ κ μ) (s : σ) (c : κ) (s' : σ) : List Event :=
  (if m.ticks s c then [.tick] else []) ++
    (if m.flips s c s' then [.flip] else []) ++
      if m.enters s c s' then [.entry] else []

def call (m : Machine w σ κ μ) (s : σ) (c : κ) (now : BitVec w) : σ × List Event :=
  (m.step s c now, m.observe s c (m.step s c now))

def after (m : Machine w σ κ μ) (start : BitVec w) (s : σ) (calls : List (Nat × κ))
    : σ × List (Nat × Event) :=
  run (timed (reading start) m.call) s calls

-- What a call may do to the timer in the states that can come up.
structure Lawful (m : Machine w σ κ μ) (P : σ → Prop) : Prop where
  kept : ∀ s c now, P s → P (m.step s c now)
  early : ∀ s c now d, P s → m.ticks s c = true → m.interval (m.mode s) = some d →
    now - m.stamp s < d → m.step s c now = s
  due : ∀ s c now d, P s → m.ticks s c = true → m.interval (m.mode s) = some d →
    ¬now - m.stamp s < d →
      m.shown (m.step s c now) ≠ m.shown s ∧ m.mode (m.step s c now) = m.mode s ∧
        m.stamp (m.step s c now) = now
  other : ∀ s c now, P s → (m.ticks s c = true → m.interval (m.mode s) = none) →
    m.interval (m.mode (m.step s c now)) ≠ none →
      m.stamp (m.step s c now) = if m.enters s c (m.step s c now) then now else m.stamp s
  ticks : ∀ s c, m.ticks s c = true → m.restarts c = false

variable {m : Machine w σ κ μ} {start : BitVec w} {s : σ}

theorem after_concat (calls : List (Nat × κ)) (c : Nat × κ)
    : m.after start s (calls ++ [c])
        =
      (
        m.step (m.after start s calls).1 c.2 (reading start c.1),
        (m.after start s calls).2 ++
          (m.observe (m.after start s calls).1 c.2
            (m.step (m.after start s calls).1 c.2 (reading start c.1))).map fun e => (c.1, e)
      ) := by
  unfold after
  rw [run_concat]
  rfl

theorem since_observe (trace : List (Nat × Event)) (s s' : σ) (t : Nat) (c : κ)
    : since (trace ++ (m.observe s c s').map fun e => (t, e))
        =
      if m.flips s c s' || m.enters s c s' then t else since trace := by
  rw [since_append]
  unfold observe
  cases m.ticks s c <;> cases m.flips s c s' <;> cases m.enters s c s' <;> simp

theorem tickTimes_observe (s s' : σ) (t : Nat) (c : κ)
    : tickTimes ((m.observe s c s').map fun e => (t, e)) = if m.ticks s c then [t] else [] := by
  unfold observe tickTimes
  cases m.ticks s c <;> cases m.flips s c s' <;> cases m.enters s c s' <;> simp

theorem lastTick_observe (trace : List (Nat × Event)) (s s' : σ) (t : Nat) (c : κ)
    : lastTick (trace ++ (m.observe s c s').map fun e => (t, e))
        =
      if m.ticks s c then t else lastTick trace := by
  unfold lastTick
  rw [tickTimes_append, tickTimes_observe]
  split
  . simp
  . simp

-- The timer has counted since the latest flip or entry, and at the latest tick it had not counted up.
structure Counts (m : Machine w σ κ μ) (start : BitVec w) (s : σ) (trace : List (Nat × Event)) : Prop where
  stamp : m.interval (m.mode s) ≠ none → m.stamp s = reading start (since trace)
  pending : ∀ d, m.interval (m.mode s) = some d →
    lastTick trace ≤ since trace
      ∨
    lastTick trace < since trace + d.toNat

def Before (t : Nat) (trace : List (Nat × Event)) : Prop :=
  since trace ≤ t ∧ lastTick trace ≤ t

theorem before_after {calls : List (Nat × κ)} {c : Nat × κ} (hordered : Ordered (calls ++ [c]))
    : Before c.1 (m.after start s calls).2 := by
  induction calls using List.reverseRecOn generalizing c with
  | nil => simp [Before, after, since, lastTick, tickTimes]
  | append_singleton calls b ih =>
    have hle : b.1 ≤ c.1 := hordered.le_of_mem (by simp)
    have ⟨hsince, htick⟩ := ih (Ordered.left_of_append hordered)
    rw [after_concat]
    constructor
    . rw [since_observe]
      split
      . exact hle
      . exact Nat.le_trans hsince hle
    . rw [lastTick_observe]
      split
      . exact hle
      . exact Nat.le_trans htick hle

omit [DecidableEq μ] in
theorem Counts.elapsed_iff {trace : List (Nat × Event)} (h : Counts m start s trace) {d : BitVec w}
    (hd : m.interval (m.mode s) = some d) {gap t : Nat} (hturn : d.toNat + gap ≤ 2 ^ w)
    (hbefore : Before t trace) (hgap : t < lastTick trace + gap)
    : reading start t - m.stamp s < d ↔ t < since trace + d.toNat := by
  have hpending := h.pending d hd
  rw [h.stamp (by simp [hd])]
  apply reading_sub_lt_iff
  . exact hbefore.1
  . omega

variable {P : σ → Prop} {trace : List (Nat × Event)} {gap t : Nat} {c : κ} {d : BitVec w}

theorem Counts.early (hlawful : m.Lawful P) (hP : P s) (h : Counts m start s trace)
    (hturn : d.toNat + gap ≤ 2 ^ w) (hbefore : Before t trace) (hgap : t < lastTick trace + gap)
    (htick : m.ticks s c = true) (hd : m.interval (m.mode s) = some d)
    (hearly : reading start t - m.stamp s < d)
    : let s' := m.step s c (reading start t)
      Counts m start s' (trace ++ (m.observe s c s').map fun e => (t, e)) := by
  rw [hlawful.early s c _ d hP htick hd hearly]
  have hsince : since (trace ++ (m.observe s c s).map fun e => (t, e)) = since trace := by
    rw [since_observe]
    simp [flips, enters, hlawful.ticks s c htick]
  constructor
  . rw [hsince]
    exact h.stamp
  . intro d' hd'
    rw [hd, Option.some.injEq] at hd'
    subst hd'
    right
    rw [hsince, lastTick_observe, if_pos htick]
    exact (h.elapsed_iff hd hturn hbefore hgap).mp hearly

theorem Counts.due (hlawful : m.Lawful P) (hP : P s) (htick : m.ticks s c = true)
    (hd : m.interval (m.mode s) = some d) (hdue : ¬reading start t - m.stamp s < d)
    : let s' := m.step s c (reading start t)
      Counts m start s' (trace ++ (m.observe s c s').map fun e => (t, e)) := by
  intro s'
  rcases hlawful.due s c _ d hP htick hd hdue with ⟨hshown, hmode, hstamp⟩
  have hsince : since (trace ++ (m.observe s c s').map fun e => (t, e)) = t := by
    rw [since_observe]
    simp [flips, htick, s', hshown]
  constructor
  . intro _
    rw [hsince]
    exact hstamp
  . intro d' _
    left
    rw [hsince, lastTick_observe, if_pos htick]

theorem Counts.other (hlawful : m.Lawful P) (hP : P s) (h : Counts m start s trace)
    (hbefore : Before t trace) (hother : m.ticks s c = true → m.interval (m.mode s) = none)
    : let s' := m.step s c (reading start t)
      Counts m start s' (trace ++ (m.observe s c s').map fun e => (t, e)) := by
  intro s'
  have hstamp := hlawful.other s c (reading start t) hP hother
  cases henters : m.enters s c s' with
  | true =>
    have hsince : since (trace ++ (m.observe s c s').map fun e => (t, e)) = t := by
      rw [since_observe, henters, Bool.or_true, if_pos rfl]
    constructor
    . intro hblinks
      rw [hsince, hstamp hblinks, if_pos henters]
    . intro d' _
      left
      rw [hsince, lastTick_observe]
      split
      . exact Nat.le_refl t
      . exact hbefore.2
  | false =>
    have hmode : m.mode s' = m.mode s := by
      simp only [enters, Bool.or_eq_false_iff, bne_eq_false_iff_eq] at henters
      exact henters.2
    have hidle (hblinks : m.interval (m.mode s') ≠ none) : m.ticks s c = false := by
      rw [← Bool.not_eq_true]
      intro htick
      apply hblinks
      rw [hmode]
      exact hother htick
    have hsince (hblinks : m.interval (m.mode s') ≠ none)
        : since (trace ++ (m.observe s c s').map fun e => (t, e)) = since trace := by
      rw [since_observe, henters, Bool.or_false]
      simp [flips, hidle hblinks]
    constructor
    . intro hblinks
      have hbefore : m.interval (m.mode s) ≠ none := by
        rw [← hmode]
        exact hblinks
      rw [hsince hblinks, ← h.stamp hbefore, hstamp hblinks]
      simp [henters, s']
    . intro d' hd'
      have hblinks : m.interval (m.mode s') ≠ none := by
        simp [hd']
      rw [hsince hblinks, lastTick_observe, hidle hblinks]
      rw [hmode] at hd'
      exact h.pending d' hd'

theorem Counts.step (hlawful : m.Lawful P) (hP : P s) (h : Counts m start s trace)
    (hturn : ∀ mode, ∀ d ∈ m.interval mode, d.toNat + gap ≤ 2 ^ w) (hbefore : Before t trace)
    (hgap : m.ticks s c = true → t < lastTick trace + gap)
    : let s' := m.step s c (reading start t)
      Counts m start s' (trace ++ (m.observe s c s').map fun e => (t, e)) := by
  by_cases hother : m.ticks s c = true → m.interval (m.mode s) = none
  . exact h.other hlawful hP hbefore hother
  . rw [Classical.not_imp, ← ne_eq, Option.ne_none_iff_exists'] at hother
    rcases hother with ⟨htick, d, hd⟩
    by_cases hearly : reading start t - m.stamp s < d
    . exact h.early hlawful hP (hturn _ d hd) hbefore (hgap htick) htick hd hearly
    . exact Counts.due hlawful hP htick hd hearly

theorem tick_lt {calls : List (Nat × κ)} {c : Nat × κ}
    (hticked : Ticked gap (m.after start s (calls ++ [c])).2)
    (htick : m.ticks (m.after start s calls).1 c.2 = true)
    : c.1 < lastTick (m.after start s calls).2 + gap := by
  rw [after_concat] at hticked
  apply hticked.lt
  rw [tickTimes_observe, if_pos htick]
  rfl

theorem after_counts (hlawful : m.Lawful P) (hP : P s) (hstamp : m.stamp s = reading start 0)
    (hturn : ∀ mode, ∀ d ∈ m.interval mode, d.toNat + gap ≤ 2 ^ w) {calls : List (Nat × κ)}
    (hordered : Ordered calls) (hticked : Ticked gap (m.after start s calls).2)
    : P (m.after start s calls).1
        ∧
      Counts m start (m.after start s calls).1 (m.after start s calls).2 := by
  induction calls using List.reverseRecOn with
  | nil =>
    refine ⟨hP, fun _ => hstamp, ?_⟩
    intro d _
    left
    exact Nat.le_refl 0
  | append_singleton calls c ih =>
    have hgap := tick_lt hticked
    rw [after_concat] at hticked ⊢
    rcases ih (Ordered.left_of_append hordered) hticked.left_of_append with ⟨hPs, hcounts⟩
    constructor
    . exact hlawful.kept _ _ _ hPs
    . exact hcounts.step hlawful hPs hturn (before_after hordered) hgap

theorem flips_iff (hlawful : m.Lawful P) (hP : P s) (hstamp : m.stamp s = reading start 0)
    (hturn : ∀ mode, ∀ d ∈ m.interval mode, d.toNat + gap ≤ 2 ^ w) {calls : List (Nat × κ)}
    {c : Nat × κ} (hordered : Ordered (calls ++ [c]))
    (hticked : Ticked gap (m.after start s (calls ++ [c])).2)
    (htick : m.ticks (m.after start s calls).1 c.2 = true)
    (hd : m.interval (m.mode (m.after start s calls).1) = some d)
    : m.shown (m.after start s (calls ++ [c])).1 ≠ m.shown (m.after start s calls).1
        ↔
      since (m.after start s calls).2 + d.toNat ≤ c.1 := by
  have hgap := tick_lt hticked htick
  rw [after_concat] at hticked ⊢
  rcases after_counts hlawful hP hstamp hturn (Ordered.left_of_append hordered) hticked.left_of_append
    with ⟨hPs, hcounts⟩
  have helapsed := hcounts.elapsed_iff hd (hturn _ d hd) (before_after hordered) hgap
  rw [← Nat.not_lt, ← helapsed]
  dsimp only
  constructor
  . intro hshown hearly
    apply hshown
    rw [hlawful.early _ _ _ d hPs htick hd hearly]
  . intro hdue
    exact (hlawful.due _ _ _ d hPs htick hd hdue).1

-- `padded` is `calls` with redundant calls in between, made at any times.
inductive Padded (m : Machine w σ κ μ) (start : BitVec w) (redundant : σ → κ → Prop)
    : σ → List (Nat × κ) → List (Nat × κ) → Prop where
  | nil (s : σ) : Padded m start redundant s [] []
  | call (s : σ) (c : Nat × κ) (calls padded : List (Nat × κ))
      (h : Padded m start redundant (m.step s c.2 (reading start c.1)) calls padded)
      : Padded m start redundant s (c :: calls) (c :: padded)
  | pad (s : σ) (c : Nat × κ) (calls padded : List (Nat × κ)) (hredundant : redundant s c.2)
      (h : Padded m start redundant (m.step s c.2 (reading start c.1)) calls padded)
      : Padded m start redundant s calls (c :: padded)

theorem Padded.after_eq {redundant : σ → κ → Prop}
    (hkept : ∀ s c now, P s → P (m.step s c now))
    (hsame : ∀ s c now, P s → redundant s c → m.step s c now = s) (hP : P s)
    {calls padded : List (Nat × κ)} (h : m.Padded start redundant s calls padded)
    : (m.after start s padded).1 = (m.after start s calls).1 := by
  induction h with
  | nil s => rfl
  | call s c calls padded _ ih => exact ih (hkept s c.2 _ hP)
  | pad s c calls padded hredundant _ ih =>
    have hstep := hsame s c.2 (reading start c.1) hP hredundant
    apply Eq.trans (ih (hkept s c.2 _ hP))
    rw [hstep]

end Machine

end IntervalTimer
