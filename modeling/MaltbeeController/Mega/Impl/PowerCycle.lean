import MaltbeeController.McsCore.Impl.EepromConfigurationRepository
import MaltbeeController.Mega.Impl.Loop

/-!
This module contains the Mega panel over several boots: it is switched on with what is in the EEPROM, runs
and is switched off again, between two iterations of the loop or in the middle of a `save`.
-/

namespace Maltbee

namespace Mega

open EepromConfigurationRepository (Formatted interruptedSave)

namespace Panel

def switchOn (eeprom : ByteMemory) : Panel ByteMemory :=
  setup (.new EepromConfigurationRepository.repository eeprom .buildDefaultConfig)

def runFrom (toInt : Int → Int) (clock : Nat → Nat) (eeprom : ByteMemory) (inputs : List LoopInput)
    : Panel ByteMemory :=
  (StepRun.run (loop EepromConfigurationRepository.repository toInt clock) (switchOn eeprom) inputs).1

-- The console while an iteration goes on, after it has received `serial` in that iteration.
def receiving (toInt : Int → Int) (p : Panel ByteMemory) (serial : List Char)
    : SerialConsole ByteMemory :=
  (p.console.poll EepromConfigurationRepository.repository toInt serial).1

end Panel

-- The serial port delivers bytes.
def Bytes (stream : List Char) : Prop :=
  ∀ c ∈ stream, c.toNat < 256

/--
What the EEPROM holds after the panel has been on once. The power may go when `k` bytes of a `save` have
been written, at the line end that follows the command. That this is not the first `save` ever is part of it.
-/
inductive PowerCycle (toInt : Int → Int) (eeprom : ByteMemory) : ByteMemory → Prop where
  | off (clock : Nat → Nat) (inputs : List LoopInput) (hbytes : ∀ i ∈ inputs, Bytes i.serial)
      : PowerCycle toInt eeprom
          (Panel.runFrom toInt clock eeprom inputs).console.commissioningSession.repository
  | cutOff (clock : Nat → Nat) (inputs : List LoopInput) (hbytes : ∀ i ∈ inputs, Bytes i.serial)
      (serial : List Char) (hserial : Bytes serial) (k : Nat) (console : SerialConsole ByteMemory)
      (hconsole : console = (Panel.runFrom toInt clock eeprom inputs).receiving toInt serial)
      (hsave : FixedString32.untilTerminator console.serialLineBuffer = "save".toList)
      (hformatted : Formatted console.commissioningSession.repository)
      : PowerCycle toInt eeprom
          (interruptedSave console.commissioningSession.repository console.commissioningSession.draft k)

end Mega

end Maltbee
