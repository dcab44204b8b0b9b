import MaltbeeController.Lib.StepRun
import MaltbeeController.McsEsp32.Impl.CommandLineParser

/-!
This module contains the adapter that collects command lines from a serial port and has the
commissioning session execute them.
-/

namespace Maltbee

structure BasicSerialCommissioningAdapter (N : Nat) where
  session : BasicCommissioningSession N
  lineBuffer : Str := []

structure Execution where
  command : ParsedCommand
  written : Str
  deriving DecidableEq, Repr

namespace BasicSerialCommissioningAdapter

def kMaxLineLength : Nat := 128

variable {N : Nat}

def dropCR (line : Str) : Str :=
  if line.getLast? = some '\r' then line.dropLast else line

-- One iteration of the loop of `poll`.
def receive (a : BasicSerialCommissioningAdapter N) (c : Char)
    : BasicSerialCommissioningAdapter N × List Execution :=
  if c = '\n' then
    let command := CommandLineParser.parse (dropCR a.lineBuffer)
    let res := a.session.apply command
    ({ session := res.1, lineBuffer := [] }, [⟨command, res.2⟩])
  else if a.lineBuffer.length ≥ kMaxLineLength then
    ({ a with lineBuffer := [] }, [])
  else
    ({ a with lineBuffer := a.lineBuffer ++ [c] }, [])

-- `available` is what the port has to read until it has nothing more.
def poll (a : BasicSerialCommissioningAdapter N) (available : Str)
    : BasicSerialCommissioningAdapter N × List Execution :=
  StepRun.run receive a available

end BasicSerialCommissioningAdapter

end Maltbee
