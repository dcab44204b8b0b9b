import MaltbeeController.McsEsp32.Impl.ButtonSetupModeTrigger
import MaltbeeController.McsEsp32.Impl.Mqtt
import MaltbeeController.McsEsp32.Impl.SerialCommissioningAdapter
import MaltbeeController.McsEsp32.Impl.StatusLedDriver
import MaltbeeController.McsEsp32.Impl.ToggleTurnoutStation
import MaltbeeController.McsEsp32.Impl.WebFormCommissioningAdapter
import MaltbeeController.McsEsp32.Impl.MatrixScanner

/-!
This module contains what the panel and the node with four turnouts have in common: the state that both
of their main loops work on and the parts these loops are made of.
-/

namespace Maltbee

namespace Esp32

/--
The places of a loop that read the clock. The last number of a place counts its readings, the ones
before it say which station `i` and which message or feedback `n` the reading is for.
-/
inductive ClockRead where
  | setupTrigger
  | delivery (n : Nat)
  | networkLed (k : Nat)
  | announcer (k : Nat)
  | feedback (n i k : Nat)
  | feedbackActivity (n : Nat)
  | clear (i k : Nat)
  | identify
  | setIdentifying (i : Nat)
  | led (i : Nat)
  | station (i k : Nat)
  | commandActivity (n : Nat)
  | activityLed
  deriving DecidableEq, Repr

/-
What one iteration of the loop meets. The links are not part of the source: `wifiConnected k` and
`mqttConnected k` are what `connected` returns at the `k`-th place that asks, `messages` is what `poll` of
the MQTT link delivers and `stateUpdates` what the state source has to report.
-/
structure LoopInput (N : Nat) where
  serial : Str := []
  submissions : List (BasicWebFormSubmission N) := []
  digitalRead : Nat → Bool
  requestStored : Bool := false
  wifiConnected : Nat → Bool := fun _ => false
  mqttConnected : Nat → Bool := fun _ => false
  messages : List MqttMessage := []
  stateUpdates : List Loco2MqttStateUpdate := []
  now : ClockRead → Millis

inductive Effect where
  | write (text : Str)
  | respond (text : Str)
  | drive (row : RowWrite)
  | send (command : TurnoutCommand)
  | publish (publication : Publication)
  deriving DecidableEq, Repr

namespace Effect

def command? (effect : Effect) : Option TurnoutCommand :=
  match effect with
  | .send command => some command
  | _ => none

end Effect

def commands (effects : List Effect) : List TurnoutCommand :=
  effects.filterMap Effect.command?

structure StationUnit (β : Type u) (δ : Type v) where
  button : β
  gatedButton : GatedDigitalInput := {}
  ledStation : δ
  station : ToggleTurnoutStation
  deriving DecidableEq, Repr

namespace StationUnit

variable {β : Type u} {δ : Type v} [LedPairStation δ]

def clearIndicator (u : StationUnit β δ) (now₁ now₂ : Millis) : StationUnit β δ :=
  {
    u with
    ledStation := ToggleTurnoutStation.clearIndicator LedPairOutput.set now₁ now₂ u.ledStation
  }

def applyFeedback (u : StationUnit β δ) (feedback : TurnoutFeedback) (now₁ now₂ : Millis)
    : StationUnit β δ :=
  let res := u.station.applyFeedback LedPairOutput.set feedback now₁ now₂ u.ledStation
  { u with station := res.1, ledStation := res.2 }

def update (u : StationUnit β δ) (inner : Bool) (now₁ now₂ : Millis)
    : StationUnit β δ × List TurnoutCommand :=
  let res := u.station.update (u.gatedButton.isActive inner) now₁ now₂
  ({ u with station := res.1 }, res.2)

end StationUnit

structure Node (N : Nat) (β : Type u) (δ : Type v) where
  ownMac : MacAddress
  serialCommissioningAdapter : BasicSerialCommissioningAdapter N
  runningConfig : BasicNodeConfig N
  bootMode : BootMode
  setupTrigger : ButtonSetupModeTrigger
  identityGuard : NodeIdentityGuard
  presenceAnnouncer : MqttPresenceAnnouncer
  identifyTimer : IdentifyModeTimer
  collisionLogged : Bool := false
  units : List (StationUnit β δ)

namespace Node

def BLINK_INTERVAL_MS : Millis := 500
def DEFAULT_LED_COLOR : LedPairColor := .Red
def SETUP_TRIGGER_HOLD_MS : Millis := 3000
def IDENTIFY_DURATION_MS : Millis := 10000

variable {N : Nat} {β : Type u} {δ : Type v} [LedPairStation δ]

/-
The globals and `setup`: the pairs are constructed, started, cleared and show the boot mode. `now i k`
is the reading of the clock number `k` for station `i`.
-/
def bootUnit (bootMode : BootMode) (now : Nat → Nat → Millis) (i : Nat)
    (wiring : β × Int × List Char)
    : StationUnit β δ :=
  let led : δ := LedPairStation.new BLINK_INTERVAL_MS DEFAULT_LED_COLOR (now i 0)
  let led := LedPairStation.begin led (now i 1)
  let led := ToggleTurnoutStation.begin LedPairOutput.set (now i 2) (now i 3) led
  {
    button := wiring.1
    ledStation := LedPairFlashIndicator.showMode bootMode (now i 4) (now i 5) (now i 6) led
    station := .new wiring.2.1 wiring.2.2
  }

-- `runningConfig` has been loaded after the draft of the session.
def boot (ownMac : MacAddress) (configStore : BasicConfigStore N) (runningConfig : BasicNodeConfig N)
    (wirelessSetupRequested : Bool) (wirings : List (β × Int × List Char)) (now : Nat → Nat → Millis)
    : Node N β δ :=
  let bootMode := BootModeSelector.select runningConfig wirelessSetupRequested
  {
    ownMac
    serialCommissioningAdapter := { session := .new configStore }
    runningConfig
    bootMode
    setupTrigger := { minHoldMs := SETUP_TRIGGER_HOLD_MS }
    identityGuard := { ownMac := ownMac.lastFourHexDigits }
    presenceAnnouncer := {
      nodeId := runningConfig.nodeId
      ownMac := ownMac.lastFourHexDigits
    }
    identifyTimer := { durationMs := IDENTIFY_DURATION_MS }
    units := wirings.mapIdx (bootUnit bootMode now)
  }

def configValid (n : Node N β δ) : Bool :=
  n.runningConfig.validate.isEmpty

def positions (n : Node N β δ) : List TurnoutPosition :=
  n.units.map fun u => u.station.turnout.position

def mapUnits (n : Node N β δ) (f : Nat → StationUnit β δ → StationUnit β δ) : Node N β δ :=
  { n with units := n.units.mapIdx f }

def pollSerial (n : Node N β δ) (input : LoopInput N) : Node N β δ × List Effect :=
  let res := n.serialCommissioningAdapter.poll input.serial
  ({ n with serialCommissioningAdapter := res.1 }, res.2.map fun e => .write e.written)

def rebootRequested (n : Node N β δ) : Bool :=
  n.serialCommissioningAdapter.session.rebootRequested

-- The portal works on the session of the serial adapter.
def submit (n : Node N β δ) (form : BasicWebFormSubmission N) : Node N β δ × List Effect :=
  let res := BasicWebFormCommissioningAdapter.submit n.serialCommissioningAdapter.session form
  (
    {
      n with
      serialCommissioningAdapter := { n.serialCommissioningAdapter with session := res.1 }
    },
    [.respond res.2]
  )

def pollPortal (n : Node N β δ) (input : LoopInput N) : Node N β δ × List Effect :=
  StepRun.run submit n input.submissions

def updateSetupTrigger (n : Node N β δ) (active : Bool) (input : LoopInput N) : Node N β δ :=
  { n with setupTrigger := n.setupTrigger.update active (input.now .setupTrigger) }

-- `board` is what the source calls the board in this message.
def logCollision (n : Node N β δ) (board : Str) (collision : Bool) : Node N β δ × List Effect :=
  if collision && !n.collisionLogged then
    (
      { n with collisionLogged := true },
      [.write ("NodeId collision detected: this ".toList ++ board ++ " is ".toList ++
        n.ownMac.lastFourHexDigits ++ ", another ".toList ++ board ++
        " claiming this node id is ".toList ++ n.identityGuard.observedMac ++ "\n".toList)]
    )
  else
    (n, [])

def gateButtons (n : Node N β δ) (collision : Bool) : Node N β δ :=
  n.mapUnits fun _ u => { u with gatedButton := u.gatedButton.setSuppressed collision }

-- From the update of the setup trigger to the gates, with the one answer of the guard in between.
def checkIdentity (n : Node N β δ) (board : Str) (setupActive : Bool) (input : LoopInput N)
    : Node N β δ × List Effect :=
  let n := n.updateSetupTrigger setupActive input
  let collision := n.identityGuard.collisionDetected
  let logged := n.logCollision board collision
  (logged.1.gateButtons collision, logged.2)

-- Whether the board restarts for a requested setup, with what is written.
def requestSetup (n : Node N β δ) (input : LoopInput N) : Bool × List Effect :=
  if n.setupTrigger.requested then
    if input.requestStored then
      (true, [.write "Entering wireless setup...\n".toList])
    else
      (
        false,
        [.write "Failed to persist wireless setup request; staying in normal mode.\n".toList]
      )
  else
    (false, [])

-- `setup` has subscribed to two topics.
def deliver (n : Node N β δ) (message : MqttMessage) (now : Millis) : Node N β δ :=
  if message.topic = PresenceTopics.macTopic n.runningConfig.nodeId then
    { n with identityGuard := n.identityGuard.onMacObserved message.payload }
  else if message.topic = PresenceTopics.identifyTopic n.runningConfig.nodeId then
    { n with identifyTimer := n.identifyTimer.trigger now }
  else
    n

def pollMqtt (n : Node N β δ) (input : LoopInput N) : Node N β δ :=
  if n.configValid && input.wifiConnected 0 then
    input.messages.zipIdx.foldl (fun n m => n.deliver m.1 (input.now (.delivery m.2))) n
  else
    n

def announce (n : Node N β δ) (connected : Bool) (input : LoopInput N)
    : Node N β δ × List Effect :=
  let res := n.presenceAnnouncer.update connected (input.now (.announcer 0))
    (input.now (.announcer 1))
  ({ n with presenceAnnouncer := res.1 }, res.2.map .publish)

def applyFeedback (n : Node N β δ) (feedback : TurnoutFeedback) (m : Nat) (input : LoopInput N)
    : Node N β δ :=
  n.mapUnits fun i u =>
    u.applyFeedback feedback (input.now (.feedback m i 0)) (input.now (.feedback m i 1))

def clearIndicators (n : Node N β δ) (input : LoopInput N) : Node N β δ :=
  n.mapUnits fun i u => u.clearIndicator (input.now (.clear i 0)) (input.now (.clear i 1))

def identify (n : Node N β δ) (input : LoopInput N) : Node N β δ :=
  if n.bootMode = .Normal then
    let identifying := n.identifyTimer.isActive (input.now .identify)
    n.mapUnits fun i u =>
      {
        u with
        ledStation :=
          LedPairStation.setIdentifying u.ledStation identifying (input.now (.setIdentifying i))
      }
  else
    n

def updateLeds (n : Node N β δ) (input : LoopInput N) : Node N β δ :=
  n.mapUnits fun i u =>
    { u with ledStation := LedPairStation.update u.ledStation (input.now (.led i)) }

def serveSetup (n : Node N β δ) (input : LoopInput N) : Node N β δ × List Effect :=
  let served := n.pollPortal input
  (served.1.updateLeds input, served.2)

-- `read` is what the inputs behind the gates read.
def updateStations (n : Node N β δ) (read : β → Bool) (input : LoopInput N)
    : Node N β δ × List TurnoutCommand :=
  let res := n.units.mapIdx fun i u =>
    u.update (read u.button) (input.now (.station i 0)) (input.now (.station i 1))
  ({ n with units := res.map (·.1) }, res.flatMap (·.2))

-- The call of the command port and what the port makes of it.
def send (n : Node N β δ) (command : TurnoutCommand) : List Effect :=
  .send command ::
    (BasicLoco2MqttTurnoutCommandAdapter.send n.runningConfig.channelTurnoutAddresses
      command).map .publish

end Node

end Esp32

end Maltbee
