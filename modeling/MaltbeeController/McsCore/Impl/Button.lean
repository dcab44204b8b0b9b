import MaltbeeController.McsCore.Impl.Turnout

/-!
This module contains the debounced push button.
-/

namespace Maltbee

structure Button where
  debounceMilliseconds : Millis
  lastRawReading : Bool := false
  lastRawTransitionTime : Millis := 0
  stableReading : Bool := false
  previousStableReading : Bool := false
  deriving DecidableEq, Repr

namespace Button

-- `raw` is what the input reads. The clock is read when that has changed and once more after that.
def update (b : Button) (raw : Bool) (now₁ now₂ : Millis) : Button :=
  let b :=
    if raw ≠ b.lastRawReading then
      { b with lastRawReading := raw, lastRawTransitionTime := now₁ }
    else
      b
  let b := { b with previousStableReading := b.stableReading }
  if now₂ - b.lastRawTransitionTime ≥ b.debounceMilliseconds then
    { b with stableReading := raw }
  else
    b

def isPressed (b : Button) : Bool :=
  b.stableReading

def wasPressed (b : Button) : Bool :=
  b.stableReading && !b.previousStableReading

def wasReleased (b : Button) : Bool :=
  !b.stableReading && b.previousStableReading

end Button

end Maltbee
