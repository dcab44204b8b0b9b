import MaltbeeController.McsCore.Impl.DigitalPins

/-!
This module contains the trigger of the wireless setup: a button that is held long enough and released.
-/

namespace Maltbee

structure EitherActiveDigitalInput where
  first : ArduinoDigitalInput
  second : ArduinoDigitalInput
  deriving DecidableEq, Repr

namespace EitherActiveDigitalInput

def isActive (i : EitherActiveDigitalInput) (digitalRead : Nat → Bool) : Bool :=
  i.first.isActive digitalRead || i.second.isActive digitalRead

end EitherActiveDigitalInput

structure ButtonSetupModeTrigger where
  minHoldMs : Millis
  holding : Bool := false
  holdStartMs : Millis := 0
  releasing : Bool := false
  releaseStartMs : Millis := 0
  requestedThisTick : Bool := false
  deriving DecidableEq, Repr

namespace ButtonSetupModeTrigger

def kReleaseSettleMs : Millis := 50

-- `active` is what the button reads. The clock is read at most once.
def update (t : ButtonSetupModeTrigger) (active : Bool) (now : Millis) : ButtonSetupModeTrigger :=
  let t := { t with requestedThisTick := false }
  if active && !t.holding then
    { t with holding := true, holdStartMs := now }
  else if !active && t.holding && !t.releasing then
    { t with releasing := true, releaseStartMs := now }
  else if t.releasing then
    if active then
      -- Contact bounce: the original press time stands.
      { t with releasing := false }
    else if now - t.releaseStartMs ≥ kReleaseSettleMs then
      let t := { t with holding := false, releasing := false }
      let heldFor := t.releaseStartMs - t.holdStartMs
      if heldFor ≥ t.minHoldMs then
        { t with requestedThisTick := true }
      else
        t
    else
      t
  else
    t

def requested (t : ButtonSetupModeTrigger) : Bool :=
  t.requestedThisTick

end ButtonSetupModeTrigger

end Maltbee
