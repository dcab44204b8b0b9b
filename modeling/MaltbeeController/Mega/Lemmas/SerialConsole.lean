import MaltbeeController.Lib.Framing
import MaltbeeController.McsCore.Lemmas.MegaCommissioningSession
import MaltbeeController.Mega.Impl.SerialConsole

/-!
This module contains the theory of the serial console of the Mega: it is a receiver of lines, and each
line is executed as what the line buffer holds of it.
-/

namespace Maltbee

namespace Mega

namespace SerialConsole

open MegaCommissioningSession
open StepRun

variable {ρ : Type u} (port : ConfigurationRepository ρ) (toInt : Int → Int)

def isSep (c : Char) : Bool :=
  c = '\n' || c = '\r'

def push (buffer : List Char) (c : Char) : List Char :=
  Framing.pushOrDrop (SERIAL_LINE_BUFFER_SIZE - 1) buffer c

-- An empty line is not handed over.
def handle (session : MegaCommissioningSession ρ) (buffer : List Char)
    : MegaCommissioningSession ρ × List LineExecution :=
  if buffer.length > 0 then execute port toInt session buffer else (session, [])

theorem receive_eq (s : SerialConsole ρ) (c : Char)
    : Framing.receive isSep push (handle port toInt) (s.serialLineBuffer, s.commissioningSession) c
        =
      (
        ((receive port toInt s c).1.serialLineBuffer,
          (receive port toInt s c).1.commissioningSession),
        (receive port toInt s c).2
      ) := by
  unfold Framing.receive receive isSep handle push Framing.pushOrDrop
  simp only [Bool.or_eq_true, decide_eq_true_eq]
  split
  . split
    . rfl
    . next hempty =>
      have : s.serialLineBuffer = [] := by
        apply List.eq_nil_of_length_eq_zero
        omega
      simp [this]
  . split
    . rfl
    . rfl

theorem run_receive_eq (s : SerialConsole ρ) (stream : List Char)
    : run (Framing.receive isSep push (handle port toInt))
        (s.serialLineBuffer, s.commissioningSession) stream
        =
      (
        ((run (receive port toInt) s stream).1.serialLineBuffer,
          (run (receive port toInt) s stream).1.commissioningSession),
        (run (receive port toInt) s stream).2
      ) := by
  apply run_simulate (receive port toInt) s
    (f := fun s : SerialConsole ρ => (s.serialLineBuffer, s.commissioningSession))
  intro s c
  apply receive_eq port toInt s c

def kept (line : List Char) : List Char :=
  line.take (SERIAL_LINE_BUFFER_SIZE - 1)

theorem kept_of_le {line : List Char} (h : line.length ≤ SERIAL_LINE_BUFFER_SIZE - 1)
    : kept line = line :=
  List.take_of_length_le h

-- What a line is for: all but `show` and the empty line are for the session.
def executeLine (session : MegaCommissioningSession ρ) (line : List Char)
    : MegaCommissioningSession ρ × List LineExecution :=
  if line = [] then
    (session, [])
  else if FixedString32.untilTerminator line = "show".toList then
    (session, [⟨line, printStations session.draft⟩])
  else
    ((session.handleLine port toInt line).1,
      [⟨line, (session.handleLine port toInt line).2.c_str ++ "\r\n".toList⟩])

theorem handle_kept (session : MegaCommissioningSession ρ) (line : List Char)
    : handle port toInt session (kept line) = executeLine port toInt session (kept line) := by
  unfold handle executeLine execute
  simp only [gt_iff_lt, List.length_pos_iff, ne_eq, ite_not]

theorem poll_line (session : MegaCommissioningSession ρ) {stream pre line : List Char} {c : Char}
    (h : Framing.LineAt isSep stream pre line c)
    : let before := (poll port toInt { commissioningSession := session } pre).1
      let res := executeLine port toInt before.commissioningSession (kept line)
      poll port toInt before (line ++ [c]) = ({ commissioningSession := res.1 }, res.2) := by
  dsimp only
  have hpre := run_receive_eq port toInt { commissioningSession := session } pre
  have hline := run_receive_eq port toInt
    (run (receive port toInt) { commissioningSession := session } pre).1 (line ++ [c])
  have hframing := Framing.run_receive_line isSep push (handle port toInt) session h
  rw [hpre] at hframing
  rw [show Framing.held push line = kept line from
    Framing.held_pushOrDrop (SERIAL_LINE_BUFFER_SIZE - 1) line] at hframing
  rw [handle_kept] at hframing
  dsimp only at hframing
  rw [hframing] at hline
  unfold poll
  generalize run (receive port toInt)
    (run (receive port toInt) { commissioningSession := session } pre).1 (line ++ [c]) = res at hline ⊢
  rcases res with ⟨⟨session', buffer⟩, out⟩
  simp only [Prod.mk.injEq] at hline
  rcases hline with ⟨⟨rfl, rfl⟩, rfl⟩
  rfl

structure Untouched (s s' : MegaCommissioningSession ρ) : Prop where
  draft : s'.draft = s.draft
  repository : s'.repository = s.repository

-- A line that is too long leaves the session as it is, and every other line is executed as it is, but for
-- empty ones.
structure DiscardsOverlong (session : MegaCommissioningSession ρ) (stream : List Char) : Prop where
  overlong : ∀ pre line c, Framing.LineAt isSep stream pre line c →
    SERIAL_LINE_BUFFER_SIZE - 1 < line.length →
      let before := (poll port toInt { commissioningSession := session } pre).1
      Untouched before.commissioningSession
        (poll port toInt before (line ++ [c])).1.commissioningSession
  fitting : ∀ pre line c, Framing.LineAt isSep stream pre line c →
    line.length ≤ SERIAL_LINE_BUFFER_SIZE - 1 →
      let before := (poll port toInt { commissioningSession := session } pre).1
      let res := executeLine port toInt before.commissioningSession line
      poll port toInt before (line ++ [c]) = ({ commissioningSession := res.1 }, res.2)

theorem discardsOverlong_iff (session : MegaCommissioningSession ρ) (stream : List Char)
    : DiscardsOverlong port toInt session stream
        ↔
      ∀ pre line c, Framing.LineAt isSep stream pre line c →
        SERIAL_LINE_BUFFER_SIZE - 1 < line.length →
          let before := (poll port toInt { commissioningSession := session } pre).1
          Untouched before.commissioningSession
            (executeLine port toInt before.commissioningSession (kept line)).1 := by
  constructor
  . intro h pre line c hline hlong
    have hdiscards := h.overlong pre line c hline hlong
    dsimp only at hdiscards
    rw [poll_line port toInt session hline] at hdiscards
    exact hdiscards
  . intro h
    constructor
    . intro pre line c hline hlong
      dsimp only
      rw [poll_line port toInt session hline]
      exact h pre line c hline hlong
    . intro pre line c hline hfits
      dsimp only
      rw [poll_line port toInt session hline]
      rw [kept_of_le hfits]

end SerialConsole

end Mega

end Maltbee
