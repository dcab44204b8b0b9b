import Mathlib.Data.List.DropRight
import MaltbeeController.Lib.StepRun

/-!
This module contains the theory of receivers that collect what comes in up to a separator in a buffer
and hand the buffer over at the separator: what such a receiver hands over depends on the stream only
through its segments, and for each segment on what the buffer holds of it.
-/

namespace Framing

open StepRun

variable {α : Type u} {σ : Type v} {ο : Type x}
variable (isSep : α → Bool) (push : List α → α → List α)

-- The segments of `stream` that a separator ends, and what comes after the last separator. `current` is
-- what came in before `stream` since a separator.
def segments (current : List α) (stream : List α) : List (List α) × List α :=
  match stream with
  | [] => ([], current)
  | c :: stream =>
    if isSep c then
      let rest := segments [] stream
      (current :: rest.1, rest.2)
    else
      segments (current ++ [c]) stream

def held (segment : List α) : List α :=
  segment.foldl push []

-- A receiver: `handle` is called with the buffer at every separator.
def receive (handle : σ → List α → σ × List ο) (s : List α × σ) (c : α)
    : (List α × σ) × List ο :=
  if isSep c then
    let res := handle s.2 s.1
    (([], res.1), res.2)
  else
    ((push s.1 c, s.2), [])

theorem held_concat (segment : List α) (c : α)
    : held push (segment ++ [c]) = push (held push segment) c := by
  simp [held]

theorem segments_cons (current : List α) (c : α) (stream : List α)
    : segments isSep current (c :: stream)
        =
      if isSep c then
        (current :: (segments isSep [] stream).1, (segments isSep [] stream).2)
      else
        segments isSep (current ++ [c]) stream := by
  rfl

theorem run_receive (handle : σ → List α → σ × List ο) (current : List α) (s : σ)
    (stream : List α)
    : run (receive isSep push handle) (held push current, s) stream
        =
      (
        (
          held push (segments isSep current stream).2,
          (run handle s ((segments isSep current stream).1.map (held push))).1
        ),
        (run handle s ((segments isSep current stream).1.map (held push))).2
      ) := by
  induction stream generalizing current s with
  | nil => rfl
  | cons c stream ih =>
    rw [run_cons]
    rw [segments_cons]
    by_cases hsep : isSep c
    . have := ih [] (handle s (held push current)).1
      rw [show held push [] = [] from rfl] at this
      simp only [receive, hsep, ↓reduceIte, List.map_cons, run_cons]
      rw [this]
    . have := ih (current ++ [c]) s
      rw [held_concat] at this
      simp only [receive, hsep, Bool.false_eq_true, ↓reduceIte, List.nil_append]
      rw [this]

theorem segments_append (current stream more : List α)
    : segments isSep current (stream ++ more)
        =
      (
        (segments isSep current stream).1 ++
          (segments isSep (segments isSep current stream).2 more).1,
        (segments isSep (segments isSep current stream).2 more).2
      ) := by
  induction stream generalizing current with
  | nil => rfl
  | cons c stream ih =>
    rw [List.cons_append]
    rw [segments_cons]
    rw [segments_cons]
    split
    . rw [ih]
      rfl
    . rw [ih]

theorem segments_of_forall (current : List α) {segment : List α}
    (h : ∀ c ∈ segment, isSep c = false)
    : segments isSep current segment = ([], current ++ segment) := by
  induction segment generalizing current with
  | nil => simp [segments]
  | cons c segment ih =>
    unfold segments
    rw [if_neg (by simp [h c (by simp)])]
    rw [ih]
    . simp
    . intro d hd
      exact h d (by simp [hd])

theorem segments_spec [DecidableEq α] (sep : α) (stream : List α)
    : (∀ segment ∈ (segments (· = sep) [] stream).1, sep ∉ segment) ∧
        sep ∉ (segments (· = sep) [] stream).2 ∧
        (segments (· = sep) [] stream).1.flatMap (· ++ [sep]) ++ (segments (· = sep) [] stream).2
          = stream := by
  induction stream using List.reverseRecOn with
  | nil => simp [segments]
  | append_singleton stream c ih =>
    rcases ih with ⟨hsegments, htail, hstream⟩
    rw [segments_append]
    rw [segments_cons]
    by_cases hc : c = sep
    . simp only [hc, decide_true, ↓reduceIte, segments]
      refine ⟨?_, by simp, ?_⟩
      . intro segment hmem
        rw [List.mem_append, List.mem_singleton] at hmem
        cases hmem with
        | inl hmem => exact hsegments segment hmem
        | inr heq =>
          rw [heq]
          exact htail
      . have := congrArg (· ++ [sep]) hstream
        simpa [List.flatMap_append] using this
    . simp only [hc, decide_false, Bool.false_eq_true, ↓reduceIte, segments, List.append_nil]
      refine ⟨hsegments, ?_, ?_⟩
      . simp [htail, Ne.symm hc]
      . rw [← List.append_assoc]
        rw [hstream]

-- `line` stands in `stream` after `pre`, is a whole segment there, and `c` ends it.
structure LineAt (stream pre line : List α) (c : α) : Prop where
  start : pre.getLast?.all isSep
  noSep : ∀ d ∈ line, isSep d = false
  sep : isSep c
  split : ∃ post, stream = pre ++ line ++ c :: post

theorem LineAt.alone {line : List α} {c : α} (hline : line.all fun d => !isSep d) (hc : isSep c)
    : LineAt isSep (line ++ [c]) [] line c where
  start := rfl
  noSep := by simpa using hline
  sep := hc
  split := ⟨[], rfl⟩

theorem segments_snd_of_start {pre : List α} (h : pre.getLast?.all isSep)
    : (segments isSep [] pre).2 = [] := by
  induction pre using List.reverseRecOn with
  | nil => rfl
  | append_singleton pre c _ =>
    simp at h
    rw [segments_append]
    rw [segments_cons]
    simp [h, segments]

theorem run_receive_line (handle : σ → List α → σ × List ο) (s : σ) {stream pre line : List α}
    {c : α} (h : LineAt isSep stream pre line c)
    : run (receive isSep push handle) (run (receive isSep push handle) ([], s) pre).1 (line ++ [c])
        =
      (
        (
          [],
          (handle (run (receive isSep push handle) ([], s) pre).1.2 (held push line)).1
        ),
        (handle (run (receive isSep push handle) ([], s) pre).1.2 (held push line)).2
      ) := by
  have hpre := run_receive isSep push handle [] s pre
  rw [segments_snd_of_start isSep h.start] at hpre
  rw [show held push [] = [] from rfl] at hpre
  rw [hpre]
  dsimp only
  have hline := run_receive isSep push handle []
    (run handle s ((segments isSep [] pre).1.map (held push))).1 (line ++ [c])
  rw [show held push [] = [] from rfl] at hline
  rw [hline]
  rw [segments_append]
  rw [segments_of_forall isSep [] h.noSep]
  rw [segments_cons]
  simp [h.sep, segments, held]

/-
Two buffers of `cap` elements: one that is emptied, with the element that did not fit, when it is full,
and one that drops what does not fit.
-/
variable (cap : Nat)

def pushOrClear (buffer : List α) (c : α) : List α :=
  if buffer.length ≥ cap then [] else buffer ++ [c]

def pushOrDrop (buffer : List α) (c : α) : List α :=
  if buffer.length < cap then buffer ++ [c] else buffer

theorem held_pushOrClear (segment : List α)
    : held (pushOrClear cap) segment = segment.rtake (segment.length % (cap + 1)) := by
  induction segment using List.reverseRecOn with
  | nil => simp [held]
  | append_singleton segment c ih =>
    have hmod := Nat.mod_lt segment.length (by omega : 0 < cap + 1)
    have hle := Nat.mod_le segment.length (cap + 1)
    have hlen : (segment.rtake (segment.length % (cap + 1))).length
        = segment.length % (cap + 1) := by
      unfold List.rtake
      rw [List.length_drop]
      omega
    rw [held_concat]
    rw [ih]
    rw [List.length_append, List.length_singleton]
    rw [← Nat.mod_add_mod]
    unfold pushOrClear
    rw [hlen]
    split
    . next hfull =>
      have : segment.length % (cap + 1) = cap := by omega
      rw [this]
      rw [Nat.mod_self]
      simp
    . next hroom =>
      rw [Nat.mod_eq_of_lt (by omega : segment.length % (cap + 1) + 1 < cap + 1)]
      rw [List.rtake_concat_succ]

theorem held_pushOrClear_of_le {segment : List α} (h : segment.length ≤ cap)
    : held (pushOrClear cap) segment = segment := by
  rw [held_pushOrClear]
  rw [Nat.mod_eq_of_lt (by omega)]
  simp [List.rtake]

theorem length_held_pushOrClear_le (segment : List α)
    : (held (pushOrClear cap) segment).length ≤ cap := by
  have hmod := Nat.mod_lt segment.length (by omega : 0 < cap + 1)
  rw [held_pushOrClear]
  unfold List.rtake
  rw [List.length_drop]
  omega

theorem held_pushOrDrop (segment : List α)
    : held (pushOrDrop cap) segment = segment.take cap := by
  induction segment using List.reverseRecOn with
  | nil => simp [held]
  | append_singleton segment c ih =>
    rw [held_concat]
    rw [ih]
    unfold pushOrDrop
    rw [List.length_take]
    split
    . next hroom =>
      rw [List.take_of_length_le (by omega)]
      rw [List.take_of_length_le (by simp; omega)]
    . next hfull =>
      rw [List.take_append_of_le_length (by omega)]

end Framing
