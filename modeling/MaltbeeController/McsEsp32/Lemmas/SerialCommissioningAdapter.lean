import MaltbeeController.Lib.Framing
import MaltbeeController.McsEsp32.Impl.SerialCommissioningAdapter

/-!
This module contains the theory of the serial adapter: it is a receiver of newline terminated lines, and
each line is executed as what the line buffer holds of it.
-/

namespace Maltbee

namespace BasicSerialCommissioningAdapter

open CommandLineParser
open StepRun

variable {N : Nat}

def inBuffer (line : Str) : Str :=
  Framing.held (Framing.pushOrClear kMaxLineLength) line

def lines (stream : Str) : List Str × Str :=
  Framing.segments (· = '\n') [] stream

def execute (session : BasicCommissioningSession N) (buffer : Str)
    : BasicCommissioningSession N × List Execution :=
  let command := parse (dropCR buffer)
  let res := session.apply command
  (res.1, [⟨command, res.2⟩])

theorem receive_eq (a : BasicSerialCommissioningAdapter N) (c : Char)
    : Framing.receive (· = '\n') (Framing.pushOrClear kMaxLineLength) execute
        (a.lineBuffer, a.session) c
        =
      (((receive a c).1.lineBuffer, (receive a c).1.session), (receive a c).2) := by
  unfold Framing.receive receive
  simp only [decide_eq_true_eq]
  split
  . rfl
  . unfold Framing.pushOrClear
    split
    . rfl
    . rfl

theorem run_receive_eq (a : BasicSerialCommissioningAdapter N) (stream : Str)
    : run (Framing.receive (· = '\n') (Framing.pushOrClear kMaxLineLength) execute)
        (a.lineBuffer, a.session) stream
        =
      (
        ((run receive a stream).1.lineBuffer, (run receive a stream).1.session),
        (run receive a stream).2
      ) := by
  apply run_simulate receive a
    (f := fun a : BasicSerialCommissioningAdapter N => (a.lineBuffer, a.session))
  intro a c
  apply receive_eq a c

theorem poll_eq (session : BasicCommissioningSession N) (stream : Str)
    : poll { session } stream
        =
      (
        {
          session := (run execute session ((lines stream).1.map inBuffer)).1
          lineBuffer := inBuffer (lines stream).2
        },
        (run execute session ((lines stream).1.map inBuffer)).2
      ) := by
  have hrun := run_receive_eq { session } stream
  have hframing := Framing.run_receive (· = '\n') (Framing.pushOrClear kMaxLineLength) execute []
    session stream
  rw [show Framing.held (Framing.pushOrClear kMaxLineLength) [] = [] from rfl] at hframing
  rw [hframing] at hrun
  unfold poll lines inBuffer
  generalize run receive { session } stream = res at *
  rcases res with ⟨⟨session', buffer⟩, out⟩
  simp only [Prod.mk.injEq] at hrun
  simp [hrun.1.1, hrun.1.2, hrun.2]

theorem run_execute (session : BasicCommissioningSession N) (buffers : List Str)
    : (run execute session buffers).2.map (·.command) = buffers.map (fun b => parse (dropCR b)) ∧
        run BasicCommissioningSession.call session (buffers.map (fun b => parse (dropCR b)))
          =
        (
          (run execute session buffers).1,
          (run execute session buffers).2.map (·.written)
        ) := by
  induction buffers generalizing session with
  | nil => simp
  | cons buffer buffers ih =>
    rcases ih (execute session buffer).1 with ⟨hcommands, hcall⟩
    rw [List.map_cons, run_cons, run_cons]
    constructor
    . rw [List.map_append]
      rw [hcommands]
      rfl
    . simp only [List.map_append]
      rw [show (session.call (parse (dropCR buffer))).1 = (execute session buffer).1 from rfl]
      rw [hcall]
      rfl

theorem inBuffer_of_le {line : Str} (h : line.length ≤ kMaxLineLength) : inBuffer line = line :=
  Framing.held_pushOrClear_of_le kMaxLineLength h

/--
Each line of the stream, however it is split over the calls of `poll`, is executed once and in turn, a
line that fits as it is, and what comes after the last newline is not.
-/
theorem polls (session : BasicCommissioningSession N) (chunks : List Str)
    : let res := run poll { session } chunks
      let stream := chunks.flatten
      let commands := res.2.map (·.command)
      res = poll { session } stream ∧
        (∀ line ∈ (lines stream).1, '\n' ∉ line) ∧
        '\n' ∉ (lines stream).2 ∧
        (lines stream).1.flatMap (· ++ ['\n']) ++ (lines stream).2 = stream ∧
        commands = (lines stream).1.map (fun line => parse (dropCR (inBuffer line))) ∧
        (∀ line, line.length ≤ kMaxLineLength → inBuffer line = line) ∧
        run BasicCommissioningSession.call session commands
          = (res.1.session, res.2.map (·.written)) ∧
        res.1.lineBuffer.length ≤ kMaxLineLength := by
  intro res stream commands
  have hwhole : res = poll { session } stream := run_run receive { session } chunks
  rcases Framing.segments_spec '\n' stream with ⟨hlines, htail, hstream⟩
  refine ⟨hwhole, hlines, htail, hstream, ?_⟩
  rcases run_execute session ((lines stream).1.map inBuffer) with ⟨hcommands, hcall⟩
  rw [poll_eq] at hwhole
  have hcommands : commands = (lines stream).1.map (fun line => parse (dropCR (inBuffer line))) := by
    dsimp only [commands]
    rw [hwhole]
    rw [hcommands]
    rw [List.map_map]
    rfl
  refine ⟨hcommands, fun line => inBuffer_of_le, ?_, ?_⟩
  . rw [List.map_map] at hcall
    rw [hcommands]
    rw [hwhole]
    exact hcall
  . rw [hwhole]
    apply Framing.length_held_pushOrClear_le kMaxLineLength _

-- What is left of a line at its newline: all of it if it fits, else what came in since the buffer was last
-- emptied.
def kept (line : Str) : Str :=
  if line.length ≤ kMaxLineLength then line else line.rtake (line.length % (kMaxLineLength + 1))

theorem inBuffer_eq (line : Str) : inBuffer line = kept line := by
  unfold kept
  split
  . next hfits => exact inBuffer_of_le hfits
  . apply Framing.held_pushOrClear kMaxLineLength line

theorem kept_of_le {line : Str} (h : line.length ≤ kMaxLineLength) : kept line = line :=
  if_pos h

theorem poll_line (session : BasicCommissioningSession N) {stream pre line : Str}
    (h : Framing.LineAt (· = '\n') stream pre line '\n')
    : let before := (poll { session } pre).1
      let res := execute before.session (kept line)
      poll before (line ++ ['\n']) = ({ session := res.1 }, res.2) := by
  dsimp only
  have hpre := run_receive_eq { session } pre
  have hline := run_receive_eq (run receive { session } pre).1 (line ++ ['\n'])
  have hframing := Framing.run_receive_line (· = '\n') (Framing.pushOrClear kMaxLineLength) execute
    session h
  rw [hpre] at hframing
  rw [show Framing.held (Framing.pushOrClear kMaxLineLength) line = kept line from inBuffer_eq line]
    at hframing
  dsimp only at hframing
  rw [hframing] at hline
  unfold poll
  generalize run receive (run receive { session } pre).1 (line ++ ['\n']) = res at hline ⊢
  rcases res with ⟨⟨session', buffer⟩, out⟩
  simp only [Prod.mk.injEq] at hline
  rcases hline with ⟨⟨rfl, rfl⟩, rfl⟩
  rfl

structure Untouched (s s' : BasicCommissioningSession N) : Prop where
  draft : s'.draft = s.draft
  store : s'.store = s.store
  rebootRequested : s'.rebootRequested = s.rebootRequested

-- A line that is too long leaves the session as it is, and every line that fits is executed as it is.
structure DiscardsOverlong (session : BasicCommissioningSession N) (stream : Str) : Prop where
  overlong : ∀ pre line, Framing.LineAt (· = '\n') stream pre line '\n' →
    kMaxLineLength < line.length →
      let before := (poll { session } pre).1
      Untouched before.session (poll before (line ++ ['\n'])).1.session
  fitting : ∀ pre line, Framing.LineAt (· = '\n') stream pre line '\n' →
    line.length ≤ kMaxLineLength →
      let before := (poll { session } pre).1
      let res := execute before.session line
      poll before (line ++ ['\n']) = ({ session := res.1 }, res.2)

theorem discardsOverlong_iff (session : BasicCommissioningSession N) (stream : Str)
    : DiscardsOverlong session stream
        ↔
      ∀ pre line, Framing.LineAt (· = '\n') stream pre line '\n' →
        kMaxLineLength < line.length →
          let before := (poll { session } pre).1
          Untouched before.session (execute before.session (kept line)).1 := by
  constructor
  . intro h pre line hline hlong
    have hdiscards := h.overlong pre line hline hlong
    dsimp only at hdiscards
    rw [poll_line session hline] at hdiscards
    exact hdiscards
  . intro h
    constructor
    . intro pre line hline hlong
      dsimp only
      rw [poll_line session hline]
      exact h pre line hline hlong
    . intro pre line hline hfits
      dsimp only
      rw [poll_line session hline]
      rw [kept_of_le hfits]

end BasicSerialCommissioningAdapter

end Maltbee
