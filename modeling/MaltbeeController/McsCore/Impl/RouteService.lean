import MaltbeeController.McsCore.Impl.Route
import MaltbeeController.McsCore.Impl.TurnoutCollection

/-!
This module contains the service that keeps routes by their ids and moves all turnouts of a route at
once.
-/

namespace Maltbee

inductive RouteActivationResult where
  | Success
  | RouteNotFound
  | TurnoutLocked
  | TurnoutDisabled
  | PartialSuccess
  deriving DecidableEq, Repr

structure RouteService where
  routes : BoundedArray Route 32 := .empty default
  deriving DecidableEq, Repr

namespace RouteService

def MAX_ROUTES : Nat := 32

def getRoute (s : RouteService) (id : Int) : Option Route :=
  s.routes.toList.find? (·.id = id)

def addRoute (s : RouteService) (route : Route) : Bool × RouteService :=
  if (s.getRoute route.id).isSome then
    (false, s)
  else if s.routes.count ≥ MAX_ROUTES then
    (false, s)
  else
    (true, { routes := s.routes.push route })

-- The loop of `activateRoute`, with the `return` that follows it. `indices` are those still to come.
def activateLoop (route : Route) (indices : List (Fin 64)) (hadMissingTurnout : Bool)
    (c : TurnoutCollection)
    : RouteActivationResult × TurnoutCollection :=
  match indices with
  | [] => (if hadMissingTurnout then .PartialSuccess else .Success, c)
  | i :: indices =>
    let cmd := route.commandAt i i.isLt
    let res :=
      if cmd.position = .closed then
        TurnoutService.throwStraight c cmd.address
      else
        TurnoutService.throwDiverging c cmd.address
    match res.1 with
    | .NotFound => activateLoop route indices true res.2
    | .Locked => (.TurnoutLocked, res.2)
    | .Disabled => (.TurnoutDisabled, res.2)
    | .Success => activateLoop route indices hadMissingTurnout res.2

-- `c` is the collection behind the `TurnoutService` that the route service holds a reference to.
def activateRoute (s : RouteService) (c : TurnoutCollection) (routeId : Int)
    : RouteActivationResult × TurnoutCollection :=
  match s.getRoute routeId with
  | none => (.RouteNotFound, c)
  | some route =>
    if route.getTurnoutCount = 0 then
      (.Success, c)
    else
      activateLoop route route.commands.indices false c

end RouteService

end Maltbee
