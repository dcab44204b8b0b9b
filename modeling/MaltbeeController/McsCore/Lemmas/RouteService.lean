import MaltbeeController.Lib.KeyedArray
import MaltbeeController.Lib.StepRun
import MaltbeeController.McsCore.Impl.RouteService

/-!
This module contains the proof that a route holds the commands it has accepted and the route service the
routes it has accepted, each as it was when it was accepted.
-/

namespace Maltbee

open StepRun (run run_append run_induction run_invariant)
open BoundedArray (accepted accepted_append)

namespace Route

variable {r : Route}

def Distinct (r : Route) : Prop :=
  r.commands.Distinct TurnoutCommand.address

theorem containsTurnout_iff (r : Route) (address : Int)
    : r.containsTurnout address ↔ address ∈ r.commands.toList.map (·.address) := by
  simp [containsTurnout]

theorem containsTurnout_eq_isSome (r : Route) (address : Int)
    : r.containsTurnout address = (r.commands.find? TurnoutCommand.address address).isSome := by
  rw [Bool.eq_iff_iff, containsTurnout_iff, BoundedArray.find?_isSome_iff]

theorem addTurnout_eq (r : Route) (address : Int) (position : TurnoutPosition)
    : r.addTurnout address position
        =
      (
        (r.commands.insertNew TurnoutCommand.address ⟨address, position⟩).1,
        { r with
          commands := (r.commands.insertNew TurnoutCommand.address ⟨address, position⟩).2
        }
      ) := by
  unfold addTurnout BoundedArray.insertNew MAX_TURNOUT_COMMANDS_PER_ROUTE
  rw [containsTurnout_eq_isSome]
  split
  . rfl
  . split
    . rfl
    . rfl

theorem getTurnoutPosition_eq (r : Route) (address : Int)
    : r.getTurnoutPosition address
        =
      match r.commands.find? TurnoutCommand.address address with
      | some command => ⟨true, command.position⟩
      | none => ⟨false, .closed⟩ := by
  rfl

def call (r : Route) (command : TurnoutCommand) : Route × List (TurnoutCommand × Bool) :=
  let res := r.addTurnout command.address command.position
  (res.2, [(command, res.1)])

theorem Distinct.addTurnout (h : r.Distinct) (address : Int) (position : TurnoutPosition)
    : (r.addTurnout address position).2.Distinct := by
  rw [addTurnout_eq]
  apply BoundedArray.Distinct.insertNew h

theorem distinct_new (id : Int) (name : List Char) : (Route.new id name).Distinct := by
  apply BoundedArray.distinct_empty

-- Everything that can be asked of a route is answered from the commands it has accepted.
structure Holds (r : Route) (commands : List TurnoutCommand) : Prop where
  count : r.getTurnoutCount = commands.length
  count_le : r.getTurnoutCount ≤ 64
  distinct : (commands.map (·.address)).Nodup
  commandAt : ∀ i (h : i < r.getTurnoutCount), commands[i]? = some (r.commandAt i (index_lt h))
  containsTurnout : ∀ address, r.containsTurnout address ↔ address ∈ commands.map (·.address)
  position : ∀ command ∈ commands,
    r.getTurnoutPosition command.address = ⟨true, command.position⟩
  noPosition : ∀ address, address ∉ commands.map (·.address) →
    r.getTurnoutPosition address = ⟨false, .closed⟩

structure Takes (r : Route) (address : Int) (position : TurnoutPosition) : Prop where
  accepted_iff : (r.addTurnout address position).1 = true ↔
    r.containsTurnout address = false ∧ r.getTurnoutCount < 64
  refused : (r.addTurnout address position).1 = false → (r.addTurnout address position).2 = r

theorem Holds.of_distinct (h : r.Distinct) : r.Holds r.commands.toList := by
  constructor
  . simp [getTurnoutCount]
  . exact r.commands.count_le
  . exact h
  . intro i hi
    exact commandAt_eq r i hi
  . intro address
    apply containsTurnout_iff
  . intro command hcommand
    have := (BoundedArray.find?_eq_some_iff h command.address command).mpr ⟨hcommand, rfl⟩
    rw [getTurnoutPosition_eq]
    rw [this]
  . intro address haddress
    have : r.commands.find? TurnoutCommand.address address = none := by
      rw [BoundedArray.find?_eq_none_iff]
      exact haddress
    rw [getTurnoutPosition_eq]
    rw [this]

theorem Takes.intro (r : Route) (address : Int) (position : TurnoutPosition)
    : r.Takes address position := by
  constructor
  . rw [addTurnout_eq, BoundedArray.insertNew_eq_true_iff, containsTurnout_eq_isSome]
    simp [getTurnoutCount]
  . rw [addTurnout_eq]
    intro h
    dsimp only at h ⊢
    rw [BoundedArray.insertNew_of_false h]

theorem run_call (id : Int) (name : List Char) (commands : List TurnoutCommand)
    : (run call (new id name) commands).1.Distinct ∧
        (run call (new id name) commands).1.commands.toList
          =
        accepted (run call (new id name) commands).2 := by
  apply run_induction call (new id name)
    (P := fun _ r log => r.Distinct ∧ r.commands.toList = accepted log)
  . constructor
    . apply distinct_new
    . simp [new, accepted]
  . intro _ command r log _ h
    rcases h with ⟨hdistinct, hlog⟩
    constructor
    . apply hdistinct.addTurnout
    . simp only [call, addTurnout_eq]
      rw [BoundedArray.toList_insertNew, accepted_append, hlog]

end Route

namespace RouteService

variable {s : RouteService}

def Distinct (s : RouteService) : Prop :=
  s.routes.Distinct Route.id

theorem getRoute_eq_find? (s : RouteService) (id : Int)
    : s.getRoute id = s.routes.find? Route.id id := by
  rfl

theorem addRoute_eq (s : RouteService) (route : Route)
    : s.addRoute route
        =
      ((s.routes.insertNew Route.id route).1, ⟨(s.routes.insertNew Route.id route).2⟩) := by
  unfold addRoute BoundedArray.insertNew MAX_ROUTES
  rw [getRoute_eq_find?]
  split
  . rfl
  . split
    . rfl
    . rfl

structure Holds (s : RouteService) (routes : List Route) : Prop where
  stored : s.routes.toList = routes
  count_le : routes.length ≤ 32
  distinct : (routes.map Route.id).Nodup
  getRoute : ∀ route ∈ routes, s.getRoute route.id = some route
  noRoute : ∀ id, id ∉ routes.map Route.id → s.getRoute id = none

structure Takes (s : RouteService) (route : Route) : Prop where
  accepted_iff : (s.addRoute route).1 = true ↔
    s.getRoute route.id = none ∧ s.routes.toList.length < 32
  refused : (s.addRoute route).1 = false → (s.addRoute route).2 = s

theorem Holds.of_distinct (h : s.Distinct) : s.Holds s.routes.toList := by
  constructor
  . rfl
  . rw [BoundedArray.length_toList]
    exact s.routes.count_le
  . exact h
  . intro route hroute
    rw [getRoute_eq_find?]
    rw [BoundedArray.find?_eq_some_iff h]
    exact ⟨hroute, rfl⟩
  . intro id hid
    rw [getRoute_eq_find?]
    rw [BoundedArray.find?_eq_none_iff]
    exact hid

theorem Takes.intro (s : RouteService) (route : Route) : s.Takes route := by
  constructor
  . rw [addRoute_eq, BoundedArray.insertNew_eq_true_iff, BoundedArray.length_toList]
    rfl
  . rw [addRoute_eq]
    intro h
    dsimp only at h ⊢
    rw [BoundedArray.insertNew_of_false h]

end RouteService

-- What a program that fills the service does: it has `Route` variables of its own, which it goes on
-- changing after it has added them.
structure RouteSetup where
  routes : Nat → Route := fun _ => default
  service : RouteService := {}

namespace RouteSetup

inductive Call where
  | construct (var : Nat) (id : Int) (name : List Char)
  | addTurnout (var : Nat) (address : Int) (position : TurnoutPosition)
  | addRoute (var : Nat)
  deriving DecidableEq, Repr

def assign (s : RouteSetup) (var : Nat) (route : Route) : RouteSetup :=
  { s with routes := fun i => if i = var then route else s.routes i }

-- The output is each route that is offered to the service and what `addRoute` returns for it.
def call (s : RouteSetup) (c : Call) : RouteSetup × List (Route × Bool) :=
  match c with
  | .construct var id name => (s.assign var (.new id name), [])
  | .addTurnout var address position =>
    (s.assign var ((s.routes var).addTurnout address position).2, [])
  | .addRoute var =>
    let res := s.service.addRoute (s.routes var)
    ({ s with service := res.2 }, [(s.routes var, res.1)])

structure Inv (s : RouteSetup) (routes : List Route) : Prop where
  own : ∀ i, (s.routes i).Distinct
  service : s.service.Distinct
  stored : s.service.routes.toList = routes
  distinct : ∀ route ∈ routes, route.Distinct

theorem Inv.assign {s : RouteSetup} {routes : List Route} (h : s.Inv routes) (var : Nat)
    {route : Route} (hroute : route.Distinct)
    : (s.assign var route).Inv routes := by
  refine ⟨?_, h.service, h.stored, h.distinct⟩
  intro i
  unfold RouteSetup.assign
  dsimp only
  split
  . exact hroute
  . exact h.own i

theorem Inv.addRoute {s : RouteSetup} {routes : List Route} (h : s.Inv routes) (var : Nat)
    : (s.call (.addRoute var)).1.Inv
        (routes ++ accepted (s.call (.addRoute var)).2) := by
  simp only [call, RouteService.addRoute_eq]
  refine ⟨h.own, ?_, ?_, ?_⟩
  . apply BoundedArray.Distinct.insertNew h.service
  . rw [BoundedArray.toList_insertNew, h.stored]
  . intro route hroute
    rcases List.mem_append.mp hroute with hold | hnew
    . exact h.distinct route hold
    . have : route = s.routes var := by
        simp [accepted] at hnew
        exact hnew.1
      rw [this]
      exact h.own var

theorem inv_run (calls : List Call) : (run call {} calls).1.Inv (accepted (run call {} calls).2) := by
  apply run_induction call {} (P := fun _ s log => s.Inv (accepted log))
  . refine ⟨?_, ?_, ?_, ?_⟩
    . intro i
      apply BoundedArray.distinct_empty
    . apply BoundedArray.distinct_empty
    . simp [accepted]
    . simp [accepted]
  . intro _ c s log _ h
    cases c with
    | construct var id name =>
      simp only [call, List.append_nil]
      apply h.assign var (Route.distinct_new id name)
    | addTurnout var address position =>
      simp only [call, List.append_nil]
      apply h.assign var ((h.own var).addTurnout address position)
    | addRoute var =>
      rw [accepted_append]
      apply h.addRoute var

-- A stored route is a copy: nothing the program does later changes it.
theorem getRoute_run {s : RouteSetup} {id : Int} {route : Route}
    (h : s.service.getRoute id = some route) (calls : List Call)
    : (run call s calls).1.service.getRoute id = some route := by
  apply run_invariant call s (P := fun s => s.service.getRoute id = some route) h
  intro s c h
  cases c with
  | construct var id name => exact h
  | addTurnout var address position => exact h
  | addRoute var =>
    simp only [call, RouteService.addRoute_eq]
    apply BoundedArray.find?_insertNew h

/--
Routes and the route service hold exactly what they have accepted, at most as much as they have room for.
-/
theorem holds_accepted (id : Int) (name : List Char) (commands : List TurnoutCommand)
    (calls more : List Call)
    : (
        let res := run Route.call (.new id name) commands
        res.1.Holds (accepted res.2) ∧ ∀ address position, res.1.Takes address position
      ) ∧ (
        let res := run call {} calls
        res.1.service.Holds (accepted res.2) ∧ (∀ route, res.1.service.Takes route) ∧
          (∀ route ∈ accepted res.2, route.Holds route.commands.toList) ∧
          ∀ id route, res.1.service.getRoute id = some route →
            (run call res.1 more).1.service.getRoute id = some route
      ) := by
  constructor
  . have ⟨hdistinct, haccepted⟩ := Route.run_call id name commands
    dsimp only
    rw [← haccepted]
    refine ⟨.of_distinct hdistinct, ?_⟩
    intro address position
    apply Route.Takes.intro
  . have h := inv_run calls
    refine ⟨?_, ?_, ?_, ?_⟩
    . rw [← h.stored]
      apply RouteService.Holds.of_distinct h.service
    . intro route
      apply RouteService.Takes.intro
    . intro route hroute
      apply Route.Holds.of_distinct (h.distinct route hroute)
    . intro id route hfind
      apply getRoute_run hfind more

end RouteSetup

end Maltbee
