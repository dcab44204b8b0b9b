import MaltbeeController.McsEsp32.Lemmas.SerialCommissioningAdapter
import MaltbeeController.McsEsp32.Lemmas.CommissioningSession
import MaltbeeController.Mega.Lemmas.SerialConsole

/-!
This module contains what the two serial line buffers do with a line that is too long for them. The
ESP32 forgets what has come in each time its buffer is full, so that the end of the line is executed;
the Mega stops storing, so that the beginning of the line is.
-/

namespace Maltbee

variable {N : Nat} {ρ : Type u}

/--
Both execute every line as what their buffer keeps of it: all of a line that fits, a remainder of one
that does not. So a line that is too long leaves the session as it is exactly if the remainder does, as a
command that comes in then.
-/
theorem overlong_lines (session : BasicCommissioningSession N) (stream : Str)
    (port : ConfigurationRepository ρ) (toInt : Int → Int)
    (megaSession : MegaCommissioningSession ρ) (megaStream : List Char)
    : (∀ pre line, Framing.LineAt (· = '\n') stream pre line '\n' →
          let before := (BasicSerialCommissioningAdapter.poll { session } pre).1
          let command := CommandLineParser.parse (BasicSerialCommissioningAdapter.dropCR
            (BasicSerialCommissioningAdapter.kept line))
          let res := before.session.apply command
          before.poll (line ++ ['\n']) = ({ session := res.1 }, [⟨command, res.2⟩])) ∧
        (BasicSerialCommissioningAdapter.DiscardsOverlong session stream ↔
          ∀ pre line, Framing.LineAt (· = '\n') stream pre line '\n' →
            BasicSerialCommissioningAdapter.kMaxLineLength < line.length →
              let before := (BasicSerialCommissioningAdapter.poll { session } pre).1
              let command := CommandLineParser.parse (BasicSerialCommissioningAdapter.dropCR
                (BasicSerialCommissioningAdapter.kept line))
              BasicSerialCommissioningAdapter.Untouched before.session
                (before.session.apply command).1) ∧
        (∀ pre line c, Framing.LineAt Mega.SerialConsole.isSep megaStream pre line c →
          let before :=
            (Mega.SerialConsole.poll port toInt { commissioningSession := megaSession } pre).1
          let res := Mega.SerialConsole.executeLine port toInt before.commissioningSession
            (Mega.SerialConsole.kept line)
          before.poll port toInt (line ++ [c]) = ({ commissioningSession := res.1 }, res.2)) ∧
        (Mega.SerialConsole.DiscardsOverlong port toInt megaSession megaStream ↔
          ∀ pre line c, Framing.LineAt Mega.SerialConsole.isSep megaStream pre line c →
            Mega.SerialConsole.SERIAL_LINE_BUFFER_SIZE - 1 < line.length →
              let before :=
                (Mega.SerialConsole.poll port toInt { commissioningSession := megaSession } pre).1
              Mega.SerialConsole.Untouched before.commissioningSession
                (Mega.SerialConsole.executeLine port toInt before.commissioningSession
                  (Mega.SerialConsole.kept line)).1) := by
  refine ⟨?_, ?_, ?_, ?_⟩
  . intro pre line hline
    apply BasicSerialCommissioningAdapter.poll_line session hline
  . apply BasicSerialCommissioningAdapter.discardsOverlong_iff session stream
  . intro pre line c hline
    apply Mega.SerialConsole.poll_line port toInt megaSession hline
  . apply Mega.SerialConsole.discardsOverlong_iff port toInt megaSession megaStream

-- 129 characters fill the buffer of the ESP32 and empty it again.
def rebootAtEnd : Str :=
  List.replicate 129 'x' ++ "reboot".toList

def nameAtBegin : List Char :=
  "name 1 ".toList ++ List.replicate 60 'A'

theorem not_discardsOverlong
    : ¬BasicSerialCommissioningAdapter.DiscardsOverlong BasicCommissioningSession.newNode
          (rebootAtEnd ++ ['\n']) ∧
        ¬Mega.SerialConsole.DiscardsOverlong InMemoryConfigurationRepository.repository id
          ⟨{}, .buildDefaultConfig⟩ (nameAtBegin ++ ['\n']) := by
  constructor
  . intro h
    have hline : Framing.LineAt (· = '\n') (rebootAtEnd ++ ['\n']) [] rebootAtEnd '\n' :=
      .alone _ (by decide +kernel) (by decide)
    have huntouched := h.overlong [] rebootAtEnd hline (by decide +kernel)
    exact absurd huntouched.rebootRequested (by decide +kernel)
  . intro h
    have hline : Framing.LineAt Mega.SerialConsole.isSep (nameAtBegin ++ ['\n']) [] nameAtBegin
        '\n' :=
      .alone _ (by decide +kernel) (by decide)
    have huntouched := h.overlong [] nameAtBegin '\n' hline (by decide +kernel)
    exact absurd huntouched.draft (by decide +kernel)

end Maltbee
