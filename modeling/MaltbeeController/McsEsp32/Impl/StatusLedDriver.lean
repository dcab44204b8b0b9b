import MaltbeeController.McsCore.Impl.DigitalPins

/-!
This module contains the timer behind the identify mode and the activity LED, and the driver of the
network status LED.
-/

namespace Maltbee

structure IdentifyModeTimer where
  durationMs : Millis
  triggered : Bool := false
  triggeredAtMs : Millis := 0
  deriving DecidableEq, Repr

namespace IdentifyModeTimer

def trigger (t : IdentifyModeTimer) (now : Millis) : IdentifyModeTimer :=
  { t with triggered := true, triggeredAtMs := now }

def isActive (t : IdentifyModeTimer) (now : Millis) : Bool :=
  t.triggered && now - t.triggeredAtMs < t.durationMs

end IdentifyModeTimer

inductive StatusLedState where
  | Off
  | On
  | SlowBlink
  | FastBlink
  deriving DecidableEq, Repr

structure StatusLedDriver where
  gpio : DigitalOutput := {}
  slowBlinkIntervalMs : Millis
  fastBlinkIntervalMs : Millis
  state : StatusLedState := .Off
  blinkShowingOn : Bool := true
  lastToggleTime : Millis := 0
  deriving DecidableEq, Repr

namespace StatusLedDriver

def applyGpio (d : StatusLedDriver) : StatusLedDriver :=
  match d.state with
  | .Off => { d with gpio := d.gpio.set false }
  | .On => { d with gpio := d.gpio.set true }
  | .SlowBlink | .FastBlink => { d with gpio := d.gpio.set d.blinkShowingOn }

def new (slowBlinkIntervalMs fastBlinkIntervalMs now : Millis) : StatusLedDriver :=
  let d : StatusLedDriver := { slowBlinkIntervalMs, fastBlinkIntervalMs, lastToggleTime := now }
  d.applyGpio

def begin (d : StatusLedDriver) (now : Millis) : StatusLedDriver :=
  { d with lastToggleTime := now, blinkShowingOn := true }.applyGpio

def setState (d : StatusLedDriver) (state : StatusLedState) (now : Millis) : StatusLedDriver :=
  if state = d.state then
    d
  else
    { d with state, blinkShowingOn := true, lastToggleTime := now }.applyGpio

def update (d : StatusLedDriver) (now : Millis) : StatusLedDriver :=
  if d.state ≠ .SlowBlink ∧ d.state ≠ .FastBlink then
    d
  else
    let intervalMs := if d.state = .FastBlink then d.fastBlinkIntervalMs else d.slowBlinkIntervalMs
    if now - d.lastToggleTime < intervalMs then
      d
    else
      { d with blinkShowingOn := !d.blinkShowingOn, lastToggleTime := now }.applyGpio

end StatusLedDriver

end Maltbee
