import MaltbeeController.Esp32.Impl.Node

/-!
This module contains the main loops of the two ESP32 boards: the panel with its key matrix and the node
with four turnouts, each with a button of its own. Neither returns once it restarts the board.
-/

namespace Maltbee

namespace Esp32

def bootButton : ArduinoDigitalInput where
  pin := 0
  activeLow := true
  useInternalPullup := true

structure Panel (N : Nat) where
  node : Node N MatrixDigitalInput LedPairDriver
  matrixScanner : MatrixScanner := {}

namespace Panel

variable {N : Nat}

-- The GPIO of the LED pairs is left out.
def TURNOUT_CONFIGS : List (MatrixDigitalInput × Int × List Char) := [
  (⟨0, 0⟩, 1, "T1".toList),
  (⟨0, 1⟩, 2, "T2".toList),
  (⟨0, 2⟩, 3, "T3".toList),
  (⟨0, 3⟩, 4, "T4".toList),
  (⟨1, 0⟩, 5, "T5".toList),
  (⟨1, 1⟩, 6, "T6".toList),
  (⟨1, 2⟩, 7, "T7".toList),
  (⟨1, 3⟩, 8, "T8".toList),
  (⟨2, 0⟩, 9, "T9".toList),
  (⟨2, 1⟩, 10, "T10".toList),
  (⟨2, 2⟩, 11, "T11".toList),
  (⟨2, 3⟩, 12, "T12".toList)
]

def MATRIX_COLUMN_PINS : Vector Nat MatrixScanner.kColumnCount :=
  #v[34, 35, 36, 39]

def matrixColumn (col : Fin MatrixScanner.kColumnCount) : ArduinoDigitalInput where
  pin := MATRIX_COLUMN_PINS.get col
  activeLow := true
  useInternalPullup := false

def boot (ownMac : MacAddress) (configStore : BasicConfigStore 12) (runningConfig : BasicNodeConfig 12)
    (wirelessSetupRequested : Bool) (now : Nat → Nat → Millis)
    : Panel 12 where
  node := .boot ownMac configStore runningConfig wirelessSetupRequested TURNOUT_CONFIGS now

-- From the network on. `collision` is what the guard said when the buttons were gated.
def attend (p : Panel N) (collision : Bool) (input : LoopInput N) : Panel N × List Effect :=
  let node := p.node.pollMqtt input
  let announced := node.announce (input.mqttConnected 0) input
  let node := announced.1
  let node :=
    if node.configValid && input.mqttConnected 1 && !collision then
      input.stateUpdates.zipIdx.foldl
        (fun node u => node.applyFeedback (BasicLoco2MqttFeedbackSource.poll u.1) u.2 input) node
    else
      node.clearIndicators input
  let node := node.identify input
  let node := node.updateLeds input
  let updated := node.updateStations (fun button => button.isActive p.matrixScanner) input
  ({ p with node := updated.1 }, announced.2 ++ updated.2.flatMap node.send)

def loop (p : Panel N) (input : LoopInput N) : Option (Panel N) × List Effect :=
  let polled := p.node.pollSerial input
  let node := polled.1
  if node.rebootRequested then
    (none, polled.2)
  else if node.bootMode = .WirelessSetup then
    let served := node.serveSetup input
    (some { p with node := served.1 }, polled.2 ++ served.2)
  else
    let scanned := p.matrixScanner.update fun col => (matrixColumn col).isActive input.digitalRead
    let collision := node.identityGuard.collisionDetected
    let checked := node.checkIdentity "panel".toList (bootButton.isActive input.digitalRead) input
    let requested := checked.1.requestSetup input
    let effects := polled.2 ++ scanned.2.map .drive ++ checked.2 ++ requested.2
    if requested.1 then
      (none, effects)
    else
      let res := { p with node := checked.1, matrixScanner := scanned.1 }.attend collision input
      (some res.1, effects ++ res.2)

end Panel

structure Node4 (N : Nat) where
  node : Node N ArduinoDigitalInput IndependentLedPairDriver
  networkStatusLedDriver : StatusLedDriver
  activityFlashTimer : IdentifyModeTimer
  activityLedGpio : DigitalOutput := {}

namespace Node4

def NETWORK_LED_SLOW_BLINK_MS : Millis := 500
def NETWORK_LED_FAST_BLINK_MS : Millis := 150
def ACTIVITY_FLASH_DURATION_MS : Millis := 150

variable {N : Nat}

def button (buttonGpio : Nat) : ArduinoDigitalInput where
  pin := buttonGpio
  activeLow := true
  useInternalPullup := false

-- The GPIOs of the LED pairs are left out.
def TURNOUT_CONFIGS : List (ArduinoDigitalInput × Int × List Char) := [
  (button 34, 1, "T1".toList),
  (button 35, 2, "T2".toList),
  (button 36, 3, "T3".toList),
  (button 39, 4, "T4".toList)
]

def setupTriggerInput : EitherActiveDigitalInput where
  first := bootButton
  second := {
    pin := 16
    activeLow := true
    useInternalPullup := true
  }

def boot (ownMac : MacAddress) (configStore : BasicConfigStore 4) (runningConfig : BasicNodeConfig 4)
    (wirelessSetupRequested : Bool) (now : Nat → Nat → Millis) (now₁ now₂ : Millis)
    : Node4 4 where
  node := .boot ownMac configStore runningConfig wirelessSetupRequested TURNOUT_CONFIGS now
  networkStatusLedDriver :=
    (StatusLedDriver.new NETWORK_LED_SLOW_BLINK_MS NETWORK_LED_FAST_BLINK_MS now₁).begin now₂
  activityFlashTimer := { durationMs := ACTIVITY_FLASH_DURATION_MS }

def networkLedState (collision : Bool) (input : LoopInput N) : StatusLedState :=
  if collision then
    .FastBlink
  else if !input.wifiConnected 1 then
    .Off
  else if !input.mqttConnected 0 then
    .SlowBlink
  else
    .On

def updateNetworkLed (p : Node4 N) (collision : Bool) (input : LoopInput N) : Node4 N :=
  {
    p with
    networkStatusLedDriver :=
      (p.networkStatusLedDriver.setState (networkLedState collision input)
        (input.now (.networkLed 0))).update (input.now (.networkLed 1))
  }

def applyFeedback (p : Node4 N) (feedback : TurnoutFeedback) (m : Nat) (input : LoopInput N)
    : Node4 N :=
  {
    p with
    activityFlashTimer := p.activityFlashTimer.trigger (input.now (.feedbackActivity m))
    node := p.node.applyFeedback feedback m input
  }

-- `ActivityTrackingTurnoutCommandPort` triggers the timer for each command that goes through it.
def trackCommands (timer : IdentifyModeTimer) (sent : List TurnoutCommand) (input : LoopInput N)
    : IdentifyModeTimer :=
  sent.zipIdx.foldl (fun timer c => timer.trigger (input.now (.commandActivity c.2))) timer

def attend (p : Node4 N) (collision : Bool) (input : LoopInput N) : Node4 N × List Effect :=
  let p := { p with node := p.node.pollMqtt input }
  let p := p.updateNetworkLed collision input
  let announced := p.node.announce (input.mqttConnected 1) input
  let p := { p with node := announced.1 }
  let p :=
    if p.node.configValid && input.mqttConnected 2 && !collision then
      input.stateUpdates.zipIdx.foldl
        (fun p u => p.applyFeedback (BasicLoco2MqttFeedbackSource.poll u.1) u.2 input) p
    else
      { p with node := p.node.clearIndicators input }
  let node := p.node.identify input
  let node := node.updateLeds input
  let updated := node.updateStations (fun button => button.isActive input.digitalRead) input
  let timer := trackCommands p.activityFlashTimer updated.2 input
  (
    {
      p with
      node := updated.1
      activityFlashTimer := timer
      activityLedGpio := p.activityLedGpio.set (timer.isActive (input.now .activityLed))
    },
    announced.2 ++ updated.2.flatMap node.send
  )

def loop (p : Node4 N) (input : LoopInput N) : Option (Node4 N) × List Effect :=
  let polled := p.node.pollSerial input
  let node := polled.1
  if node.rebootRequested then
    (none, polled.2)
  else if node.bootMode = .WirelessSetup then
    let served := node.serveSetup input
    (some { p with node := served.1 }, polled.2 ++ served.2)
  else
    let collision := node.identityGuard.collisionDetected
    let checked :=
      node.checkIdentity "node".toList (setupTriggerInput.isActive input.digitalRead) input
    let requested := checked.1.requestSetup input
    let effects := polled.2 ++ checked.2 ++ requested.2
    if requested.1 then
      (none, effects)
    else
      let res := { p with node := checked.1 }.attend collision input
      (some res.1, effects ++ res.2)

end Node4

end Esp32

end Maltbee
