import MaltbeeController.McsCore.Impl.Turnout

/-!
This module contains the digital inputs and outputs of a board.
-/

namespace Maltbee

-- `digitalRead` is the level of each pin when it is read.
structure ArduinoDigitalInput where
  pin : Nat
  activeLow : Bool
  useInternalPullup : Bool
  deriving DecidableEq, Repr

namespace ArduinoDigitalInput

def isActive (i : ArduinoDigitalInput) (digitalRead : Nat → Bool) : Bool :=
  let raw := digitalRead i.pin
  if i.activeLow then !raw else raw

end ArduinoDigitalInput

-- An output is what has been written to it, the oldest write first.
structure DigitalOutput where
  writes : List Bool := []
  deriving DecidableEq, Repr

namespace DigitalOutput

def set (o : DigitalOutput) (active : Bool) : DigitalOutput where
  writes := o.writes ++ [active]

def isSet (o : DigitalOutput) : Bool :=
  o.writes.getLast?.getD false

end DigitalOutput

end Maltbee
