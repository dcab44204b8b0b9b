import MaltbeeController.McsCore.Lemmas.RouteService
import MaltbeeController.McsCore.Lemmas.TurnoutCollection

/-!
This module contains the proof of what the activation of a route does to the turnouts of the layout: it
moves the turnouts of the route up to the first one that is locked or disabled, and nothing else.
-/

namespace Maltbee

open StepRun (run)
open BoundedArray (accepted)

namespace Turnout

def moveTo (t : Turnout) (position : TurnoutPosition) : Turnout :=
  { t with currentPosition := position }

@[simp]
theorem address_moveTo (t : Turnout) (position : TurnoutPosition)
    : (t.moveTo position).address = t.address := by
  rfl

def obey (commands : List TurnoutCommand) (t : Turnout) : Turnout :=
  match commands.find? (·.address = t.address) with
  | some command => t.moveTo command.position
  | none => t

@[simp]
theorem obey_nil (t : Turnout) : t.obey [] = t := by
  rfl

theorem obey_of_find? {commands : List TurnoutCommand} {t : Turnout} {command : TurnoutCommand}
    (h : commands.find? (·.address = t.address) = some command)
    : t.obey commands = t.moveTo command.position := by
  unfold obey
  rw [h]

theorem obey_of_not_mem {commands : List TurnoutCommand} {t : Turnout}
    (h : t.address ∉ commands.map (·.address))
    : t.obey commands = t := by
  have : commands.find? (·.address = t.address) = none := by simpa using h
  unfold obey
  rw [this]

theorem obey_singleton (command : TurnoutCommand) (t : Turnout)
    : t.obey [command] = if t.address = command.address then t.moveTo command.position else t := by
  split
  . next h => exact obey_of_find? (by simp [h])
  . next h => exact obey_of_not_mem (by simpa using h)

theorem obey_eq_moveTo (commands : List TurnoutCommand) (t : Turnout)
    : ∃ position, t.obey commands = t.moveTo position := by
  unfold obey
  split
  . next command _ => exact ⟨command.position, rfl⟩
  . exact ⟨t.currentPosition, rfl⟩

@[simp]
theorem address_obey (commands : List TurnoutCommand) (t : Turnout)
    : (t.obey commands).address = t.address := by
  rcases obey_eq_moveTo commands t with ⟨position, h⟩
  rw [h]
  rfl

@[simp]
theorem isLocked_obey (commands : List TurnoutCommand) (t : Turnout)
    : (t.obey commands).isLocked = t.isLocked := by
  rcases obey_eq_moveTo commands t with ⟨position, h⟩
  rw [h]
  rfl

@[simp]
theorem isDisabled_obey (commands : List TurnoutCommand) (t : Turnout)
    : (t.obey commands).isDisabled = t.isDisabled := by
  rcases obey_eq_moveTo commands t with ⟨position, h⟩
  rw [h]
  rfl

@[simp]
theorem canThrow_obey (commands : List TurnoutCommand) (t : Turnout)
    : (t.obey commands).canThrow = t.canThrow := by
  simp [canThrow]

theorem obey_cons {command : TurnoutCommand} {commands : List TurnoutCommand}
    (h : command.address ∉ commands.map (·.address)) (t : Turnout)
    : t.obey (command :: commands) = (t.obey [command]).obey commands := by
  rw [obey_singleton]
  split
  . next haddress =>
    rw [@obey_of_not_mem _ (t.moveTo command.position) (by rw [address_moveTo, haddress]; exact h)]
    apply obey_of_find?
    simp [haddress]
  . next haddress =>
    have hne : ¬command.address = t.address := fun h => haddress h.symm
    simp [obey, hne]

end Turnout

namespace RouteService

def execute (c : TurnoutCollection) (cmd : TurnoutCommand) : TurnoutServiceResult × TurnoutCollection :=
  if cmd.position = .closed then
    TurnoutService.throwStraight c cmd.address
  else
    TurnoutService.throwDiverging c cmd.address

-- The loop of `activateRoute` over the commands of the route instead of their indices.
def activateCommands (commands : List TurnoutCommand) (hadMissingTurnout : Bool)
    (c : TurnoutCollection)
    : RouteActivationResult × TurnoutCollection :=
  match commands with
  | [] => (if hadMissingTurnout then .PartialSuccess else .Success, c)
  | cmd :: commands =>
    match (execute c cmd).1 with
    | .NotFound => activateCommands commands true (execute c cmd).2
    | .Locked => (.TurnoutLocked, (execute c cmd).2)
    | .Disabled => (.TurnoutDisabled, (execute c cmd).2)
    | .Success => activateCommands commands hadMissingTurnout (execute c cmd).2

theorem activateLoop_eq (route : Route) (indices : List (Fin 64)) (hadMissingTurnout : Bool)
    (c : TurnoutCollection)
    : activateLoop route indices hadMissingTurnout c
        =
      activateCommands (indices.map fun (i : Fin 64) => route.commandAt i i.isLt) hadMissingTurnout c := by
  induction indices generalizing hadMissingTurnout c with
  | nil => rfl
  | cons i indices ih =>
    simp only [activateLoop, activateCommands, List.map_cons, ih]
    rfl

theorem activateRoute_of_known {s : RouteService} {id : Int} {route : Route}
    (h : s.getRoute id = some route) (c : TurnoutCollection)
    : s.activateRoute c id = activateCommands route.commands.toList false c := by
  unfold activateRoute
  rw [h]
  dsimp only
  split
  . next hempty =>
    have : route.commands.toList = [] := by
      apply List.eq_nil_of_length_eq_zero
      rw [BoundedArray.length_toList]
      exact hempty
    rw [this]
    rfl
  . rw [activateLoop_eq]
    rw [BoundedArray.toList_eq_map]
    rfl

section

variable {c : TurnoutCollection} {cmd : TurnoutCommand}

theorem execute_eq_operate (c : TurnoutCollection) (cmd : TurnoutCommand)
    : execute c cmd = TurnoutService.operate (·.confirm cmd.position) c cmd.address := by
  unfold execute
  cases hposition : cmd.position with
  | closed => rfl
  | thrown => rfl

def blocked (c : TurnoutCollection) (cmd : TurnoutCommand) : Bool :=
  (c.getByAddress cmd.address).any fun t => !t.canThrow

def missing (c : TurnoutCollection) (cmd : TurnoutCommand) : Bool :=
  (c.getByAddress cmd.address).isNone

theorem blocked_iff (c : TurnoutCollection) (cmd : TurnoutCommand)
    : blocked c cmd ↔ ∃ t, c.getByAddress cmd.address = some t ∧ t.canThrow = false := by
  simp [blocked, Option.any_eq_true]

theorem execute_of_missing (h : c.getByAddress cmd.address = none)
    : execute c cmd = (.NotFound, c) := by
  rw [execute_eq_operate]
  apply TurnoutService.operate_of_none h

theorem execute_of_blocked {t : Turnout} (h : c.getByAddress cmd.address = some t)
    (hblocked : ¬t.canThrow)
    : execute c cmd = (TurnoutService.validateTurnout (some t), c) := by
  rw [execute_eq_operate]
  apply TurnoutService.operate_of_blocked h hblocked

theorem execute_of_canThrow {t : Turnout} (h : c.getByAddress cmd.address = some t)
    (hthrow : t.canThrow)
    : ∃ i, c.getByAddressMut cmd.address = some i ∧ c.deref i = t ∧
        execute c cmd = (.Success, c.write i (t.moveTo cmd.position)) := by
  have hmove : t.confirm cmd.position = t.moveTo cmd.position :=
    Turnout.confirm_of_canThrow hthrow cmd.position
  rw [execute_eq_operate]
  rw [← hmove]
  apply TurnoutService.operate_of_canThrow h hthrow

theorem toList_execute (hdistinct : c.Distinct) (h : blocked c cmd = false)
    : (execute c cmd).2.turnouts.toList = c.turnouts.toList.map (Turnout.obey [cmd]) := by
  cases hfind : c.getByAddress cmd.address with
  | none =>
    rw [execute_of_missing hfind]
    have hother : ∀ t ∈ c.turnouts.toList, t.obey [cmd] = t := by
      intro t ht
      rw [Turnout.obey_singleton]
      apply if_neg
      intro haddress
      rw [TurnoutCollection.getByAddress_eq_find?, BoundedArray.find?_eq_none_iff] at hfind
      apply hfind
      rw [← haddress]
      exact List.mem_map_of_mem ht
    rw [List.map_congr_left hother]
    simp
  | some t =>
    have hthrow : t.canThrow := by simpa [blocked, hfind] using h
    have ht : t.address = cmd.address := BoundedArray.key_of_find? hfind
    rcases execute_of_canThrow hfind hthrow with ⟨i, hpointer, hderef, heq⟩
    have hin := (TurnoutCollection.of_getByAddressMut_eq_some hpointer).1
    have hkey : (t.moveTo cmd.position).address = (c.deref i).address := by
      rw [hderef]
      rfl
    rw [heq]
    apply (BoundedArray.toList_set_eq_map hdistinct hin hkey).trans
    apply List.map_congr_left
    intro u hu
    rw [Turnout.obey_singleton, Turnout.address_moveTo, ht]
    split
    . next haddress =>
      -- Its address is that of the turnout the command is for, so it is that turnout.
      have hsame : c.getByAddress cmd.address = some u := by
        rw [TurnoutCollection.getByAddress_eq_find?, BoundedArray.find?_eq_some_iff hdistinct]
        exact ⟨hu, haddress⟩
      rw [hfind, Option.some_inj] at hsame
      rw [hsame]
    . rfl

theorem execute_result (h : blocked c cmd = false)
    : (execute c cmd).1 = if missing c cmd then .NotFound else .Success := by
  unfold missing
  cases hfind : c.getByAddress cmd.address with
  | none =>
    rw [execute_of_missing hfind]
    rfl
  | some t =>
    have hthrow : t.canThrow := by simpa [blocked, hfind] using h
    rcases execute_of_canThrow hfind hthrow with ⟨i, _, _, heq⟩
    rw [heq]
    rfl

theorem activateCommands_cons (h : blocked c cmd = false) (commands : List TurnoutCommand)
    (hadMissingTurnout : Bool)
    : activateCommands (cmd :: commands) hadMissingTurnout c
        =
      activateCommands commands (hadMissingTurnout || missing c cmd) (execute c cmd).2 := by
  have hresult := execute_result h
  simp only [activateCommands]
  cases hmissing : missing c cmd with
  | true =>
    simp only [hmissing, ↓reduceIte] at hresult
    rw [hresult]
    simp
  | false =>
    simp only [hmissing, Bool.false_eq_true, ↓reduceIte] at hresult
    rw [hresult]
    simp

theorem activateCommands_of_blocked {t : Turnout} (h : c.getByAddress cmd.address = some t)
    (hblocked : t.canThrow = false) (commands : List TurnoutCommand) (hadMissingTurnout : Bool)
    : activateCommands (cmd :: commands) hadMissingTurnout c
        =
      (if t.isLocked then .TurnoutLocked else .TurnoutDisabled, c) := by
  have hexecute := execute_of_blocked h (by simp [hblocked])
  simp only [activateCommands]
  cases hlocked : t.isLocked with
  | true =>
    rw [TurnoutService.validateTurnout_of_locked hlocked] at hexecute
    rw [hexecute]
    rfl
  | false =>
    have hdisabled : t.isDisabled := by simpa [Turnout.canThrow, hlocked] using hblocked
    rw [TurnoutService.validateTurnout_of_disabled hlocked hdisabled] at hexecute
    rw [hexecute]
    rfl

end

-- `c'` is `c` after the turnouts of `commands` have been moved: each slot holds the same turnout, at
-- most in another position.
def Obeyed (commands : List TurnoutCommand) (c c' : TurnoutCollection) : Prop :=
  c'.turnouts.toList = c.turnouts.toList.map (Turnout.obey commands)

namespace Obeyed

variable {commands : List TurnoutCommand} {c c' : TurnoutCollection}

theorem getByAddress (h : Obeyed commands c c') (address : Int)
    : c'.getByAddress address = (c.getByAddress address).map (Turnout.obey commands) := by
  apply BoundedArray.find?_map (Turnout.address_obey commands) h

theorem distinct (h : Obeyed commands c c') (hdistinct : c.Distinct) : c'.Distinct := by
  apply BoundedArray.Distinct.map (Turnout.address_obey commands) h hdistinct

theorem blocked (h : Obeyed commands c c') (cmd : TurnoutCommand)
    : blocked c' cmd = blocked c cmd := by
  unfold RouteService.blocked
  rw [h.getByAddress]
  simp [Option.any_map]

theorem missing (h : Obeyed commands c c') (cmd : TurnoutCommand)
    : missing c' cmd = missing c cmd := by
  unfold RouteService.missing
  rw [h.getByAddress]
  simp

theorem nil (c : TurnoutCollection) : Obeyed [] c c := by
  unfold Obeyed
  have : Turnout.obey [] = id := by
    funext t
    exact Turnout.obey_nil t
  rw [this, List.map_id]

theorem cons {cmd : TurnoutCommand} {c'' : TurnoutCollection}
    (hnew : cmd.address ∉ commands.map (·.address)) (h : Obeyed [cmd] c c')
    (h' : Obeyed commands c' c'')
    : Obeyed (cmd :: commands) c c'' := by
  unfold Obeyed at *
  rw [h', h]
  rw [List.map_map]
  apply List.map_congr_left
  intro t _
  exact (Turnout.obey_cons hnew t).symm

end Obeyed

theorem activateCommands_append (pre post : List TurnoutCommand) (hadMissingTurnout : Bool)
    {c : TurnoutCollection} (hdistinct : c.Distinct) (hnodup : (pre.map (·.address)).Nodup)
    (hfree : ∀ cmd ∈ pre, blocked c cmd = false)
    : ∃ c', Obeyed pre c c' ∧
        activateCommands (pre ++ post) hadMissingTurnout c
          =
        activateCommands post (hadMissingTurnout || pre.any (missing c)) c' := by
  induction pre generalizing hadMissingTurnout c with
  | nil => exact ⟨c, .nil c, by simp⟩
  | cons cmd pre ih =>
    rw [List.map_cons, List.nodup_cons] at hnodup
    have hcmd := hfree cmd (by simp)
    have hobeyed : Obeyed [cmd] c (execute c cmd).2 := toList_execute hdistinct hcmd
    have hfree' : ∀ cmd' ∈ pre, blocked (execute c cmd).2 cmd' = false := by
      intro cmd' hmem
      rw [hobeyed.blocked]
      exact hfree cmd' (by simp [hmem])
    rcases ih (hadMissingTurnout || missing c cmd) (hobeyed.distinct hdistinct) hnodup.2 hfree'
      with ⟨c', hrest, heq⟩
    refine ⟨c', .cons hnodup.1 hobeyed hrest, ?_⟩
    rw [List.cons_append]
    rw [activateCommands_cons hcmd]
    rw [heq]
    have : missing (execute c cmd).2 = missing c := by
      funext cmd'
      apply hobeyed.missing
    rw [this, List.any_cons, Bool.or_assoc]

theorem execute_of_settled {c : TurnoutCollection} {cmd : TurnoutCommand}
    (hfree : blocked c cmd = false)
    (hsettled : ∀ t, c.getByAddress cmd.address = some t → t.moveTo cmd.position = t)
    : (execute c cmd).2 = c := by
  cases hfind : c.getByAddress cmd.address with
  | none => rw [execute_of_missing hfind]
  | some t =>
    have hthrow : t.canThrow := by simpa [blocked, hfind] using hfree
    rcases execute_of_canThrow hfind hthrow with ⟨i, _, hderef, heq⟩
    rw [heq]
    rw [hsettled t hfind]
    rw [← hderef]
    simp only [TurnoutCollection.write, TurnoutCollection.deref, BoundedArray.set_get_self]

theorem activateCommands_settled (pre post : List TurnoutCommand) (hadMissingTurnout : Bool)
    {c : TurnoutCollection} (hfree : ∀ cmd ∈ pre, blocked c cmd = false)
    (hsettled : ∀ cmd ∈ pre, ∀ t, c.getByAddress cmd.address = some t →
      t.moveTo cmd.position = t)
    : activateCommands (pre ++ post) hadMissingTurnout c
        =
      activateCommands post (hadMissingTurnout || pre.any (missing c)) c := by
  induction pre generalizing hadMissingTurnout with
  | nil => simp
  | cons cmd pre ih =>
    rw [List.forall_mem_cons] at hfree hsettled
    rw [List.cons_append]
    rw [activateCommands_cons hfree.1]
    rw [execute_of_settled hfree.1 hsettled.1]
    rw [ih _ hfree.2 hsettled.2]
    rw [List.any_cons, Bool.or_assoc]

-- Exactly the turnouts that `commands` are for and that exist are where they are commanded to be.
structure Moves (commands : List TurnoutCommand) (c c' : TurnoutCollection) : Prop where
  commanded : ∀ cmd ∈ commands, ∀ t, c.getByAddress cmd.address = some t →
    c'.getByAddress cmd.address = some (t.moveTo cmd.position)
  others : ∀ address, address ∉ commands.map (·.address) →
    c'.getByAddress address = c.getByAddress address

namespace Obeyed

variable {commands : List TurnoutCommand} {c c' : TurnoutCollection}

theorem moves (h : Obeyed commands c c') (hnodup : (commands.map (·.address)).Nodup)
    : Moves commands c c' := by
  constructor
  . intro cmd hcmd t ht
    have haddress : t.address = cmd.address := BoundedArray.key_of_find? ht
    have hfind := (find?_key_eq_some_iff hnodup t.address cmd).mpr ⟨hcmd, haddress.symm⟩
    rw [h.getByAddress, ht]
    rw [← Turnout.obey_of_find? hfind]
    rfl
  . intro address haddress
    rw [h.getByAddress]
    cases ht : c.getByAddress address with
    | none => rfl
    | some t =>
      have : t.address = address := BoundedArray.key_of_find? ht
      rw [Option.map_some]
      rw [Turnout.obey_of_not_mem (by rw [this]; exact haddress)]

theorem neverMoves (h : Obeyed commands c c') (hnodup : (commands.map (·.address)).Nodup)
    (hfree : ∀ cmd ∈ commands, RouteService.blocked c cmd = false) {address : Int} {t : Turnout}
    (ht : c.getByAddress address = some t) (hthrow : t.canThrow = false)
    : c'.getByAddress address = some t := by
  rw [(h.moves hnodup).others]
  . exact ht
  . intro hmem
    rcases List.mem_map.mp hmem with ⟨cmd, hcmd, heq⟩
    have : RouteService.blocked c cmd := (blocked_iff c cmd).mpr ⟨t, by rw [heq, ht], hthrow⟩
    rw [hfree cmd hcmd] at this
    contradiction

theorem onlyPositions (h : Obeyed commands c c')
    : c'.turnouts.toList.map (·.moveTo .closed) = c.turnouts.toList.map (·.moveTo .closed) := by
  unfold Obeyed at h
  rw [h]
  rw [List.map_map]
  apply List.map_congr_left
  intro t _
  rcases Turnout.obey_eq_moveTo commands t with ⟨position, heq⟩
  rw [Function.comp_apply, heq]
  rfl

theorem again (h : Obeyed commands c c') (hnodup : (commands.map (·.address)).Nodup)
    (hfree : ∀ cmd ∈ commands, RouteService.blocked c cmd = false) (post : List TurnoutCommand)
    : activateCommands (commands ++ post) false c'
        =
      activateCommands post (commands.any (RouteService.missing c)) c' := by
  have hmissing : RouteService.missing c' = RouteService.missing c := by
    funext cmd
    apply h.missing
  rw [activateCommands_settled commands post false]
  . rw [hmissing]
    rw [Bool.false_or]
  . intro cmd hcmd
    rw [h.blocked]
    exact hfree cmd hcmd
  . intro cmd hcmd t' ht'
    rw [h.getByAddress] at ht'
    cases ht : c.getByAddress cmd.address with
    | none => simp [ht] at ht'
    | some t =>
      have := (h.moves hnodup).commanded cmd hcmd t ht
      rw [h.getByAddress, ht'] at this
      rw [Option.some_inj] at this
      rw [this]
      rfl

end Obeyed

structure Activates (route : Route) (c : TurnoutCollection)
    (res : RouteActivationResult × TurnoutCollection) : Prop where
  stopped : ∀ pre cmd post t, route.commands.toList = pre ++ cmd :: post →
    (∀ cmd' ∈ pre, blocked c cmd' = false) → c.getByAddress cmd.address = some t →
      t.canThrow = false →
        res.1 = (if t.isLocked then .TurnoutLocked else .TurnoutDisabled) ∧ Moves pre c res.2
  completed : (∀ cmd ∈ route.commands.toList, blocked c cmd = false) →
    res.1 = (if route.commands.toList.any (missing c) then .PartialSuccess else .Success) ∧
      Moves route.commands.toList c res.2
  neverMoves : ∀ address t, c.getByAddress address = some t → t.canThrow = false →
    res.2.getByAddress address = some t
  outside : ∀ address, address ∉ route.commands.toList.map (·.address) →
    res.2.getByAddress address = c.getByAddress address
  onlyPositions : res.2.turnouts.toList.map (·.moveTo .closed)
    = c.turnouts.toList.map (·.moveTo .closed)

theorem activateCommands_cases (commands : List TurnoutCommand) (c : TurnoutCollection)
    : (∀ cmd ∈ commands, blocked c cmd = false) ∨
        ∃ pre cmd post t, commands = pre ++ cmd :: post ∧ (∀ cmd' ∈ pre, blocked c cmd' = false) ∧
          c.getByAddress cmd.address = some t ∧ t.canThrow = false := by
  cases hfind : commands.find? (blocked c) with
  | none =>
    left
    simpa using hfind
  | some cmd =>
    right
    rw [List.find?_eq_some_iff_append] at hfind
    rcases hfind with ⟨hblocked, pre, post, heq, hpre⟩
    rcases (blocked_iff c cmd).mp hblocked with ⟨t, ht, hthrow⟩
    exact ⟨pre, cmd, post, t, heq, by simpa using hpre, ht, hthrow⟩

theorem nodup_pre {route : Route} (h : route.Distinct) {pre post : List TurnoutCommand}
    (hsplit : route.commands.toList = pre ++ post)
    : (pre.map (·.address)).Nodup := by
  unfold Route.Distinct BoundedArray.Distinct at h
  rw [hsplit, List.map_append] at h
  exact h.of_append_left

/-
The route is split at its first blocked command, if there is one: the commands before it are obeyed, and the
result depends on the rest only.
-/
theorem activates_of_split {s : RouteService} {id : Int} {route : Route} {c : TurnoutCollection}
    (hroute : s.getRoute id = some route) (hdistinct : c.Distinct)
    {pre post : List TurnoutCommand} (hsplit : route.commands.toList = pre ++ post)
    (hnodup : (pre.map (·.address)).Nodup) (hfree : ∀ cmd ∈ pre, blocked c cmd = false)
    : ∃ c', Obeyed pre c c' ∧
        s.activateRoute c id = activateCommands post (pre.any (missing c)) c' ∧
        s.activateRoute c' id = s.activateRoute c id := by
  rcases activateCommands_append pre post false hdistinct hnodup hfree with ⟨c', hobeyed, heq⟩
  rw [Bool.false_or] at heq
  refine ⟨c', hobeyed, ?_, ?_⟩
  . rw [activateRoute_of_known hroute]
    rw [hsplit]
    exact heq
  . rw [activateRoute_of_known hroute, activateRoute_of_known hroute]
    rw [hsplit]
    rw [heq]
    apply hobeyed.again hnodup hfree

section

variable {s : RouteService} {id : Int} {route : Route} {c : TurnoutCollection}

theorem activateRoute_of_free (hroute : s.getRoute id = some route) (hdistinct : c.Distinct)
    (hcommands : route.Distinct) (hfree : ∀ cmd ∈ route.commands.toList, blocked c cmd = false)
    : ∃ c', Obeyed route.commands.toList c c' ∧
        s.activateRoute c id
          =
        (if route.commands.toList.any (missing c) then .PartialSuccess else .Success, c') ∧
        s.activateRoute c' id = s.activateRoute c id := by
  apply activates_of_split hroute hdistinct (List.append_nil _).symm hcommands hfree

theorem activateRoute_of_blocked (hroute : s.getRoute id = some route) (hdistinct : c.Distinct)
    (hcommands : route.Distinct) {pre post : List TurnoutCommand} {cmd : TurnoutCommand}
    {t : Turnout} (hsplit : route.commands.toList = pre ++ cmd :: post)
    (hfree : ∀ cmd ∈ pre, blocked c cmd = false) (ht : c.getByAddress cmd.address = some t)
    (hthrow : t.canThrow = false)
    : ∃ c', Obeyed pre c c' ∧
        s.activateRoute c id = (if t.isLocked then .TurnoutLocked else .TurnoutDisabled, c') ∧
        s.activateRoute c' id = s.activateRoute c id := by
  rcases activates_of_split hroute hdistinct hsplit (nodup_pre hcommands hsplit) hfree
    with ⟨c', hobeyed, heq, hagain⟩
  refine ⟨c', hobeyed, ?_, hagain⟩
  rw [heq]
  have ht' : c'.getByAddress cmd.address = some (t.obey pre) := by
    rw [hobeyed.getByAddress, ht]
    rfl
  rw [activateCommands_of_blocked ht' (by simpa using hthrow)]
  rw [Turnout.isLocked_obey]

theorem activateRoute_obeyed (hroute : s.getRoute id = some route) (hdistinct : c.Distinct)
    (hcommands : route.Distinct)
    : ∃ pre post, route.commands.toList = pre ++ post ∧
        (∀ cmd ∈ pre, blocked c cmd = false) ∧ Obeyed pre c (s.activateRoute c id).2 ∧
        s.activateRoute (s.activateRoute c id).2 id = s.activateRoute c id := by
  rcases activateCommands_cases route.commands.toList c with
    hfree | ⟨pre, cmd, post, t, hsplit, hfree, ht, hthrow⟩
  . rcases activateRoute_of_free hroute hdistinct hcommands hfree with ⟨c', hobeyed, heq, hagain⟩
    refine ⟨_, [], (List.append_nil _).symm, hfree, ?_, ?_⟩
    . rw [heq]
      exact hobeyed
    . rw [heq] at hagain ⊢
      exact hagain
  . rcases activateRoute_of_blocked hroute hdistinct hcommands hsplit hfree ht hthrow
      with ⟨c', hobeyed, heq, hagain⟩
    refine ⟨pre, _, hsplit, hfree, ?_, ?_⟩
    . rw [heq]
      exact hobeyed
    . rw [heq] at hagain ⊢
      exact hagain

theorem Activates.intro (hroute : s.getRoute id = some route) (hdistinct : c.Distinct)
    (hcommands : route.Distinct)
    : Activates route c (s.activateRoute c id) := by
  rcases activateRoute_obeyed hroute hdistinct hcommands with ⟨done, rest, hdone, hfree, hobeyed, _⟩
  have hnodup := nodup_pre hcommands hdone
  constructor
  . intro pre cmd post t hsplit hfree ht hthrow
    rcases activateRoute_of_blocked hroute hdistinct hcommands hsplit hfree ht hthrow
      with ⟨c', hobeyed, heq, _⟩
    rw [heq]
    exact ⟨rfl, hobeyed.moves (nodup_pre hcommands hsplit)⟩
  . intro hfree
    rcases activateRoute_of_free hroute hdistinct hcommands hfree with ⟨c', hobeyed, heq, _⟩
    rw [heq]
    exact ⟨rfl, hobeyed.moves hcommands⟩
  . intro address t ht hthrow
    apply hobeyed.neverMoves hnodup hfree ht hthrow
  . intro address haddress
    apply (hobeyed.moves hnodup).others
    intro hmem
    apply haddress
    rw [hdone, List.map_append]
    exact List.mem_append_left _ hmem
  . exact hobeyed.onlyPositions

theorem activateRoute_of_unknown (h : s.getRoute id = none) (c : TurnoutCollection)
    : s.activateRoute c id = (.RouteNotFound, c) := by
  unfold activateRoute
  rw [h]

end

/--
The activation of a route that the setup has added moves its turnouts up to the first one that is locked or
disabled, moves nothing else, and leaves nothing to do for a second activation. No other route is found.
-/
theorem activates (calls : List TurnoutCollection.Call) (setup : List RouteSetup.Call) (id : Int)
    : let c := (run TurnoutCollection.call {} calls).1
      let s := (run RouteSetup.call {} setup).1.service
      let routes := accepted (run RouteSetup.call {} setup).2
      let res := s.activateRoute c id
      (id ∉ routes.map Route.id → res = (.RouteNotFound, c)) ∧
        (∀ route ∈ routes, route.id = id → Activates route c res) ∧
        s.activateRoute res.2 id = res := by
  intro c s routes res
  have hdistinct : c.Distinct := (TurnoutCollection.represents_run calls).1.distinct
  have hsetup := RouteSetup.inv_run setup
  have hholds : s.Holds routes := by
    rw [show routes = s.routes.toList from hsetup.stored.symm]
    exact .of_distinct hsetup.service
  have hknows (route : Route) (hroute : route ∈ routes) (hid : route.id = id)
      : s.getRoute id = some route := by
    rw [← hid]
    exact hholds.getRoute route hroute
  refine ⟨?_, ?_, ?_⟩
  . intro hunknown
    apply activateRoute_of_unknown (hholds.noRoute id hunknown)
  . intro route hroute hid
    apply Activates.intro (hknows route hroute hid) hdistinct (hsetup.distinct route hroute)
  . by_cases hknown : id ∈ routes.map Route.id
    . rcases List.mem_map.mp hknown with ⟨route, hroute, hid⟩
      rcases activateRoute_obeyed (hknows route hroute hid) hdistinct (hsetup.distinct route hroute)
        with ⟨_, _, _, _, _, hagain⟩
      exact hagain
    . have hunknown := hholds.noRoute id hknown
      have hres : res = (.RouteNotFound, c) := activateRoute_of_unknown hunknown c
      rw [hres]
      apply activateRoute_of_unknown hunknown

-- Turnout 3 is locked, and turnout 1 is not part of the layout.
def layout : List TurnoutCollection.Call := [
  .add (.new 2 "Yard".toList .closed false false),
  .add (.new 3 "Main".toList .closed true false)
]

def throughYard : List RouteSetup.Call := [
  .construct 0 7 "Yard".toList,
  .addTurnout 0 1 .thrown,
  .addTurnout 0 2 .thrown,
  .addRoute 0,
  .construct 1 8 "Main".toList,
  .addTurnout 1 1 .thrown,
  .addTurnout 1 2 .thrown,
  .addTurnout 1 3 .thrown,
  .addRoute 1
]

theorem activates_throughYard
    : let c := (run TurnoutCollection.call {} layout).1
      let s := (run RouteSetup.call {} throughYard).1.service
      ((s.activateRoute c 7).1 = .PartialSuccess ∧ (s.activateRoute c 8).1 = .TurnoutLocked)
        ∧
      (s.activateRoute c 8).2.getByAddress 2 = some (.new 2 "Yard".toList .thrown false false)
        ∧
      (s.activateRoute c 8).2.getByAddress 3 = c.getByAddress 3 := by
  intro c s
  let routes := accepted (run RouteSetup.call {} throughYard).2
  have hpartial : ∃ route ∈ routes, route.id = 7 ∧
      route.commands.toList = [⟨1, .thrown⟩, ⟨2, .thrown⟩] := by
    decide +kernel
  have hlocked : ∃ route ∈ routes, route.id = 8 ∧
      route.commands.toList = [⟨1, .thrown⟩, ⟨2, .thrown⟩, ⟨3, .thrown⟩] := by
    decide +kernel
  rcases hpartial with ⟨route, hroute, hid, hcommands⟩
  rcases hlocked with ⟨route', hroute', hid', hcommands'⟩
  have hcompleted := ((activates layout throughYard 7).2.1 route hroute hid).completed
  have hstopped := ((activates layout throughYard 8).2.1 route' hroute' hid').stopped
    [⟨1, .thrown⟩, ⟨2, .thrown⟩] ⟨3, .thrown⟩ [] (.new 3 "Main".toList .closed true false) hcommands'
    (by decide +kernel) (by decide +kernel) rfl
  rw [hcommands] at hcompleted
  refine ⟨⟨?_, hstopped.1⟩, ?_, ?_⟩
  . rw [(hcompleted (by decide +kernel)).1]
    decide +kernel
  . exact hstopped.2.commanded ⟨2, .thrown⟩ (by simp) (.new 2 "Yard".toList .closed false false)
      (by decide +kernel)
  . exact hstopped.2.others 3 (by decide)

end RouteService

end Maltbee
