import MaltbeeController.Lib.StepRun
import MaltbeeController.McsCore.Impl.MegaCommissioningSession

/-!
This module contains the part of the Mega loop that collects command lines from the serial port and
hands them to the commissioning session.
-/

namespace Maltbee

namespace Mega

-- `serialLineBuffer` is the part of the array that is in use: its length is `serialLineLength`.
structure SerialConsole (ρ : Type u) where
  commissioningSession : MegaCommissioningSession ρ
  serialLineBuffer : List Char := []

structure LineExecution where
  line : List Char
  printed : List Char
  deriving DecidableEq, Repr

namespace SerialConsole

def SERIAL_LINE_BUFFER_SIZE : Nat := 64

variable {ρ : Type u} (port : ConfigurationRepository ρ) (toInt : Int → Int)

def printStations (config : MegaConfig) : List Char :=
  (List.finRange 4).flatMap fun i =>
    "Station ".toList ++ Decimal.print (i.val + 1) ++ ": address=".toList ++
      Decimal.print (config.stations.get i).address ++ " name=".toList ++
      (config.stations.get i).name.c_str ++ "\r\n".toList

-- `line` becomes a C string when it is handed over, so a NUL byte in it ends it.
def execute (session : MegaCommissioningSession ρ) (line : List Char)
    : MegaCommissioningSession ρ × List LineExecution :=
  if FixedString32.untilTerminator line = "show".toList then
    (session, [⟨line, printStations session.draft⟩])
  else
    let res := session.handleLine port toInt line
    (res.1, [⟨line, res.2.c_str ++ "\r\n".toList⟩])

-- One iteration of the `while (Serial.available())` loop.
def receive (s : SerialConsole ρ) (c : Char) : SerialConsole ρ × List LineExecution :=
  if c = '\n' ∨ c = '\r' then
    if s.serialLineBuffer.length > 0 then
      let res := execute port toInt s.commissioningSession s.serialLineBuffer
      ({ commissioningSession := res.1, serialLineBuffer := [] }, res.2)
    else
      (s, [])
  else if s.serialLineBuffer.length < SERIAL_LINE_BUFFER_SIZE - 1 then
    ({ s with serialLineBuffer := s.serialLineBuffer ++ [c] }, [])
  else
    (s, [])

def poll (s : SerialConsole ρ) (available : List Char) : SerialConsole ρ × List LineExecution :=
  StepRun.run (receive port toInt) s available

end SerialConsole

end Mega

end Maltbee
