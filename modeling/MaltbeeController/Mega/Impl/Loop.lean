import MaltbeeController.McsCore.Impl.Route
import MaltbeeController.McsCore.Impl.TurnoutStation
import MaltbeeController.McsLoconet.Impl.PulsingLocoNetTransport
import MaltbeeController.Mega.Impl.SerialConsole

/-!
This module contains the main loop of the Mega panel.
-/

namespace Maltbee

namespace Mega

-- Where in the loop a request to the switch driver comes from: a command of a station or of the route
-- service makes the transport send its own ON and, if a pulse is still open, the OFF of that pulse before
-- it; `release` is the transport's own timer.
inductive Sender where
  | station
  | routeStart
  | routeUpdate
  | release
  deriving DecidableEq, Repr

structure Sent where
  time : Nat
  sender : Sender
  request : SwitchRequest
  deriving DecidableEq, Repr

/-
Everything that happens to the transport or looks at the clock is an event, and `clock n` is the real
time of event number `n`. Loop iterations take any time because the clock may advance by any amount
between two events.
-/
structure Bus where
  locoNetTransport : PulsingLocoNetTransport
  log : List Sent := []
  events : Nat := 0

namespace Bus

variable (clock : Nat → Nat)

def now (b : Bus) (n : Nat) : Millis :=
  .ofNat 32 (clock (b.events + n))

def pass (b : Bus) (n : Nat) : Bus :=
  { b with events := b.events + n }

def stamp (b : Bus) (n : Nat) (sender : Sender) (requests : List SwitchRequest) : List Sent :=
  requests.mapIdx fun i request => ⟨clock (b.events + n + i), sender, request⟩

/-
The requests go out first, at most two of them, and the clock is read after that.
-/
def send (b : Bus) (sender : Sender) (command : TurnoutCommand) : Bus :=
  let res := MrrwaLocoNetTurnoutAdapter.send b.locoNetTransport command.address command.position
    (b.now clock 2)
  {
    locoNetTransport := res.1
    log := b.log ++ b.stamp clock 0 sender res.2
    events := b.events + 3
  }

def sendAll (b : Bus) (sender : Sender) (commands : List TurnoutCommand) : Bus :=
  commands.foldl (fun b command => b.send clock sender command) b

def update (b : Bus) : Bus :=
  let res := b.locoNetTransport.update (b.now clock 0)
  {
    locoNetTransport := res.1
    log := b.log ++ b.stamp clock 1 .release res.2
    events := b.events + 2
  }

end Bus

structure LoopInput where
  throwRaw : Nat → Bool
  closeRaw : Nat → Bool
  report : Option SwitchOutputsReport
  route1Raw : Bool
  route2Raw : Bool
  serial : List Char

structure Panel (ρ : Type u) where
  bus : Bus
  stations : List TurnoutStation
  routeExecutionService : RouteExecutionService
  route1Button : Button
  route2Button : Button
  firstRoute : Route
  secondRoute : Route
  console : SerialConsole ρ

namespace Panel

def LOCONET_PULSE_DURATION_MS : Millis := 250
def ROUTE_COMMAND_SPACING_MS : Millis := 300
def ROUTE_BUTTON_DEBOUNCE_MS : Millis := 30

variable {ρ : Type u} (port : ConfigurationRepository ρ) (toInt : Int → Int) (clock : Nat → Nat)

def new (pulseDurationMs commandSpacingMs : Millis) (firstRoute secondRoute : Route)
    (session : MegaCommissioningSession ρ)
    : Panel ρ where
  bus := { locoNetTransport := { pulseDurationMs } }
  stations := session.draft.stations.toList.map fun station =>
    .new station.address station.name.c_str
  routeExecutionService := { commandSpacingMs }
  route1Button := { debounceMilliseconds := ROUTE_BUTTON_DEBOUNCE_MS }
  route2Button := { debounceMilliseconds := ROUTE_BUTTON_DEBOUNCE_MS }
  firstRoute := firstRoute
  secondRoute := secondRoute
  console := { commissioningSession := session }

def route1 : Route :=
  (((Route.new 1 "Example Route 1".toList).addTurnout 101 .thrown).2.addTurnout 102 .closed).2

def route2 : Route :=
  (((Route.new 2 "Example Route 2".toList).addTurnout 103 .closed).2.addTurnout 104 .closed).2

def setup (session : MegaCommissioningSession ρ) : Panel ρ :=
  new LOCONET_PULSE_DURATION_MS ROUTE_COMMAND_SPACING_MS route1 route2 session

-- The loop over the stations: `i` is the number of the first of `stations`.
def updateStations (input : LoopInput) (i : Nat) (stations : List TurnoutStation) (bus : Bus)
    : List TurnoutStation × Bus :=
  match stations with
  | [] => ([], bus)
  | station :: stations =>
    let res := station.update (input.throwRaw i) (input.closeRaw i)
      (bus.now clock 0) (bus.now clock 1) (bus.now clock 2) (bus.now clock 3)
    let bus := (bus.pass 4).sendAll clock .station res.2
    let rest := updateStations input (i + 1) stations bus
    (res.1 :: rest.1, rest.2)

def applyReport (report : Option SwitchOutputsReport) (stations : List TurnoutStation)
    : List TurnoutStation :=
  match report.bind LocoNetFeedbackDecoder.decode with
  | none => stations
  | some feedback => stations.map fun station => station.applyFeedback feedback

-- The command of `start` is sent before `start` looks at the clock.
def startRoute (p : Panel ρ) (route : Route) : Panel ρ :=
  let res := p.routeExecutionService.start route (p.bus.now clock 3)
  {
    p with
    routeExecutionService := res.1
    bus := (p.bus.sendAll clock .routeStart res.2).pass 4
  }

def updateRoute (p : Panel ρ) : Panel ρ :=
  let res := p.routeExecutionService.update (p.bus.now clock 0) (p.bus.now clock 4)
  {
    p with
    routeExecutionService := res.1
    bus := ((p.bus.pass 1).sendAll clock .routeUpdate res.2).pass 4
  }

def updateInputs (p : Panel ρ) (input : LoopInput) : Panel ρ :=
  let res := updateStations clock input 0 p.stations p.bus
  let bus := res.2.update clock
  {
    p with
    stations := applyReport input.report res.1
    route1Button := p.route1Button.update input.route1Raw (bus.now clock 0) (bus.now clock 1)
    route2Button := p.route2Button.update input.route2Raw (bus.now clock 2) (bus.now clock 3)
    bus := bus.pass 4
  }

def startPressed (p : Panel ρ) : Panel ρ :=
  let p := if p.route1Button.wasPressed then p.startRoute clock p.firstRoute else p
  if p.route2Button.wasPressed then p.startRoute clock p.secondRoute else p

def loop (p : Panel ρ) (input : LoopInput) : Panel ρ × List LineExecution :=
  let p := p.updateInputs clock input
  let p := p.startPressed clock
  let p := p.updateRoute clock
  let res := p.console.poll port toInt input.serial
  ({ p with console := res.1 }, res.2)

end Panel

end Mega

end Maltbee
