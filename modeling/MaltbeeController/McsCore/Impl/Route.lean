import MaltbeeController.Lib.BoundedArray
import MaltbeeController.Lib.StepRun
import MaltbeeController.McsCore.Impl.Turnout

/-!
This module contains routes, that is lists of turnout commands, and the service that sends the
commands of a route one at a time with a pause in between.
-/

namespace Maltbee

structure TurnoutPositionLookup where
  found : Bool
  position : TurnoutPosition
  deriving DecidableEq, Repr

structure Route where
  routeId : Int
  routeName : FixedString32
  commands : BoundedArray TurnoutCommand 64
  deriving DecidableEq, Repr

namespace Route

def MAX_TURNOUT_COMMANDS_PER_ROUTE : Nat := 64

def new (id : Int) (name : List Char) : Route where
  routeId := id
  routeName := .ofCStr name
  commands := .empty ⟨0, .closed⟩

instance : Inhabited Route where
  default := { routeId := 0, routeName := default, commands := .empty ⟨0, .closed⟩ }

def id (r : Route) : Int :=
  r.routeId

def getTurnoutCount (r : Route) : Nat :=
  r.commands.count

def containsTurnout (r : Route) (address : Int) : Bool :=
  r.commands.toList.any (·.address = address)

def getTurnoutPosition (r : Route) (address : Int) : TurnoutPositionLookup :=
  match r.commands.toList.find? (·.address = address) with
  | some command => ⟨true, command.position⟩
  | none => ⟨false, .closed⟩

def addTurnout (r : Route) (address : Int) (position : TurnoutPosition) : Bool × Route :=
  if r.containsTurnout address then
    (false, r)
  else if r.commands.count ≥ MAX_TURNOUT_COMMANDS_PER_ROUTE then
    (false, r)
  else
    (true, { r with commands := r.commands.push ⟨address, position⟩ })

-- Like the source this reads the array, not the part of it that is in use.
def commandAt (r : Route) (index : Nat) (h : index < 64) : TurnoutCommand :=
  r.commands.items[index]

theorem index_lt {r : Route} {index : Nat} (h : index < r.getTurnoutCount) : index < 64 := by
  have := r.commands.count_le
  unfold getTurnoutCount at h
  omega

theorem commandAt_eq (r : Route) (index : Nat) (h : index < r.getTurnoutCount)
    : r.commands.toList[index]? = some (r.commandAt index (index_lt h)) := by
  have hin : index < r.commands.toList.length := by
    simpa [getTurnoutCount] using h
  rw [List.getElem?_eq_getElem hin]
  rw [BoundedArray.getElem_toList _ _ (index_lt h)]
  rfl

end Route

-- `activeRoute` is a pointer in the source: the route behind it is not modified while it is active.
structure RouteExecutionService where
  commandSpacingMs : Millis
  activeRoute : Option Route := none
  nextCommandIndex : Nat := 0
  lastSendAtMs : Millis := 0
  deriving DecidableEq, Repr

namespace RouteExecutionService

-- `now` is read after the command has gone to the port.
def start (s : RouteExecutionService) (route : Route) (now : Millis)
    : RouteExecutionService × List TurnoutCommand :=
  if h:route.getTurnoutCount = 0 then
    ({ s with activeRoute := none }, [])
  else
    let firstCommand := route.commandAt 0 (Route.index_lt (r := route) (by omega))
    if 1 ≥ route.getTurnoutCount then
      ({ s with activeRoute := none, nextCommandIndex := 1 }, [firstCommand])
    else
      (
        { s with activeRoute := some route, nextCommandIndex := 1, lastSendAtMs := now },
        [firstCommand]
      )

-- `now` decides whether a command is due, `nowSent` is read after it has gone to the port.
def update (s : RouteExecutionService) (now nowSent : Millis)
    : RouteExecutionService × List TurnoutCommand :=
  match s.activeRoute with
  | none => (s, [])
  | some route =>
    if h:s.nextCommandIndex ≥ route.getTurnoutCount then
      ({ s with activeRoute := none }, [])
    else if now - s.lastSendAtMs < s.commandSpacingMs then
      (s, [])
    else
      let command := route.commandAt s.nextCommandIndex (Route.index_lt (r := route) (by omega))
      let nextCommandIndex := s.nextCommandIndex + 1
      if nextCommandIndex ≥ route.getTurnoutCount then
        ({ s with activeRoute := none, nextCommandIndex }, [command])
      else
        ({ s with nextCommandIndex, lastSendAtMs := nowSent }, [command])

def isRunning (s : RouteExecutionService) : Bool :=
  s.activeRoute.isSome

inductive Call where
  | start (route : Route)
  | update
  deriving DecidableEq, Repr

def call (s : RouteExecutionService) (c : Call) (now : Millis)
    : RouteExecutionService × List TurnoutCommand :=
  match c with
  | .start route => s.start route now
  | .update => s.update now now

end RouteExecutionService

end Maltbee
