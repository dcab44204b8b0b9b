import MaltbeeController.Lib.WrapClock
import MaltbeeController.McsCore.Impl.Route

/-!
This module contains the correctness of route execution over whole runs: from one `start()` to the
next the service sends a prefix of the route, each command as soon as the spacing allows.
-/

open StepRun WrapClock

namespace Maltbee

namespace RouteExecutionService

def sends (spacing : Nat) (start : Millis) (calls : List (Nat × Call))
    : RouteExecutionService × List (Nat × TurnoutCommand) :=
  run (timed (reading start) call) { commandSpacingMs := .ofNat 32 spacing } calls

def ticksAt (ticks : List Nat) : List (Nat × Call) :=
  ticks.map fun t => (t, .update)

-- One `start()` and the `update()` calls up to the next one.
def execution (t₀ : Nat) (route : Route) (ticks : List Nat) : List (Nat × Call) :=
  (t₀, .start route) :: ticksAt ticks

def sentBy (spacing : Nat) (start : Millis) (pre : List (Nat × Call)) (t₀ : Nat) (route : Route)
    (ticks : List Nat)
    : List (Nat × TurnoutCommand) :=
  (run (timed (reading start) call) (sends spacing start pre).1 (execution t₀ route ticks)).2

@[simp]
theorem ticksAt_concat (ticks : List Nat) (t : Nat)
    : ticksAt (ticks ++ [t]) = ticksAt ticks ++ [(t, .update)] := by
  simp [ticksAt]

theorem execution_concat (t₀ : Nat) (route : Route) (ticks : List Nat) (t : Nat)
    : execution t₀ route (ticks ++ [t]) = execution t₀ route ticks ++ [(t, .update)] := by
  simp [execution]

theorem call_commandSpacingMs (s : RouteExecutionService) (c : Call) (now : Millis)
    : (s.call c now).1.commandSpacingMs = s.commandSpacingMs := by
  cases c with
  | start route =>
    simp only [call, RouteExecutionService.start]
    split
    . rfl
    . split
      . rfl
      . rfl
  | update =>
    simp only [call, update]
    split
    . rfl
    . split
      . rfl
      . split
        . rfl
        . split
          . rfl
          . rfl

theorem sends_commandSpacingMs (spacing : Nat) (start : Millis) (calls : List (Nat × Call))
    : (sends spacing start calls).1.commandSpacingMs = .ofNat 32 spacing := by
  apply run_invariant (P := fun s : RouteExecutionService => s.commandSpacingMs = .ofNat 32 spacing)
  . rfl
  . intro s c h
    simp only [timed]
    rw [call_commandSpacingMs]
    exact h

structure Running (start : Millis) (route : Route) (s : RouteExecutionService)
    (out : List (Nat × TurnoutCommand)) (now : Nat) : Prop where
  activeRoute : s.activeRoute = some route
  nextCommandIndex : s.nextCommandIndex = out.length
  length_lt : out.length < route.getTurnoutCount
  last : ∃ last, out.getLast? = some last ∧ s.lastSendAtMs = reading start last.1 ∧
    last.1 ≤ now ∧ now < last.1 + 2 ^ 31

structure Progress (spacing : Nat) (start : Millis) (route : Route) (s : RouteExecutionService)
    (out : List (Nat × TurnoutCommand)) (now : Nat) : Prop where
  commandSpacingMs : s.commandSpacingMs = .ofNat 32 spacing
  commands : out.map (·.2) = route.commands.toList.take out.length
  spaced : out.IsChain fun a b => a.1 + spacing ≤ b.1
  state : (s.activeRoute = none ∧ out.length = route.getTurnoutCount) ∨
    Running start route s out now

def due (spacing : Nat) (out : List (Nat × TurnoutCommand)) (t : Nat) : Bool :=
  out.getLast?.any fun last => last.1 + spacing ≤ t

namespace Progress

variable {spacing : Nat} {start : Millis} {route : Route} {s : RouteExecutionService}
variable {out : List (Nat × TurnoutCommand)} {now t : Nat}

theorem isRunning_iff (h : Progress spacing start route s out now)
    : s.isRunning ↔ out.length < route.getTurnoutCount := by
  unfold isRunning
  rcases h.state with ⟨hnone, hlen⟩ | hrun
  . simp [hnone, hlen]
  . simp [hrun.activeRoute, hrun.length_lt]

theorem take_succ_eq (index : Nat) (h : index < route.getTurnoutCount)
    : route.commands.toList.take (index + 1)
        =
      route.commands.toList.take index ++ [route.commandAt index (Route.index_lt h)] := by
  rw [List.take_add_one]
  rw [Route.commandAt_eq route index h]
  rfl

theorem of_start (hspacing : s.commandSpacingMs = .ofNat 32 spacing) (t₀ : Nat)
    : Progress spacing start route (s.start route (reading start t₀)).1
        ((s.start route (reading start t₀)).2.map fun c => (t₀, c)) t₀ := by
  unfold RouteExecutionService.start
  split
  . next hzero =>
    constructor
    . exact hspacing
    . simp
    . simp
    . simp [hzero]
  . next hpos =>
    have hfirst : route.commands.toList.take 1 = _ := take_succ_eq 0 (by omega)
    simp at hfirst
    split
    . constructor
      . exact hspacing
      . simp [hfirst]
      . simp
      . left
        simp
        omega
    . constructor
      . exact hspacing
      . simp [hfirst]
      . simp
      . right
        constructor
        . rfl
        . rfl
        . simp
          omega
        . simp

-- With the calls that close together `now - lastSendAtMs_` is the time since the last command.
theorem reading_sub_lt_iff_due (h : Running start route s out now) (hspacing : spacing < 2 ^ 31)
    (hle : now ≤ t) (hlt : t < now + 2 ^ 31)
    : reading start t - s.lastSendAtMs < .ofNat 32 spacing ↔ due spacing out t = false := by
  rcases h.last with ⟨last, hlast, hat, hbefore, hsince⟩
  rw [hat]
  rw [reading_sub_lt_iff start (by omega) (by omega)]
  have : (BitVec.ofNat 32 spacing).toNat = spacing := by
    rw [BitVec.toNat_ofNat]
    omega
  rw [this]
  simp [due, hlast]

theorem update_of_not_due (h : Progress spacing start route s out now) (hspacing : spacing < 2 ^ 31)
    (hle : now ≤ t) (hlt : t < now + 2 ^ 31) (hdue : ¬(s.isRunning ∧ due spacing out t))
    : s.update (reading start t) (reading start t) = (s, []) := by
  rcases h.state with ⟨hnone, _⟩ | hrun
  . simp [update, hnone]
  . have hlen := hrun.length_lt
    have hnot : ¬s.nextCommandIndex ≥ route.getTurnoutCount := by
      rw [hrun.nextCommandIndex]
      omega
    simp only [isRunning, hrun.activeRoute, Option.isSome_some, true_and, Bool.not_eq_true] at hdue
    rw [← reading_sub_lt_iff_due hrun hspacing hle hlt] at hdue
    simp [update, hrun.activeRoute, hnot, h.commandSpacingMs, hdue]

theorem update_of_due (h : Progress spacing start route s out now) (hspacing : spacing < 2 ^ 31)
    (hle : now ≤ t) (hlt : t < now + 2 ^ 31) (hrunning : s.isRunning) (hdue : due spacing out t)
    : ∃ c, route.commands.toList[out.length]? = some c ∧
        s.update (reading start t) (reading start t)
          =
        (
          if out.length + 1 ≥ route.getTurnoutCount then
            { s with activeRoute := none, nextCommandIndex := out.length + 1 }
          else
            { s with nextCommandIndex := out.length + 1, lastSendAtMs := reading start t },
          [c]
        ) := by
  rcases h.state with ⟨hnone, _⟩ | hrun
  . simp [isRunning, hnone] at hrunning
  . have hlen := hrun.length_lt
    have hnot : ¬out.length ≥ route.getTurnoutCount := by omega
    have hlate : ¬reading start t - s.lastSendAtMs < .ofNat 32 spacing := by
      rw [reading_sub_lt_iff_due hrun hspacing hle hlt]
      simp [hdue]
    exists route.commandAt out.length (Route.index_lt hlen)
    constructor
    . apply Route.commandAt_eq route _ hlen
    . simp only [update, hrun.activeRoute, hrun.nextCommandIndex, hnot, ↓reduceDIte,
        h.commandSpacingMs, hlate, ↓reduceIte]
      split
      . rfl
      . rw [← h.commandSpacingMs]

theorem of_update_of_due (h : Progress spacing start route s out now) (hspacing : spacing < 2 ^ 31)
    (hle : now ≤ t) (hlt : t < now + 2 ^ 31) (hrunning : s.isRunning) (hdue : due spacing out t)
    : Progress spacing start route (s.update (reading start t) (reading start t)).1
        (out ++ (s.update (reading start t) (reading start t)).2.map fun c => (t, c)) t := by
  rcases update_of_due h hspacing hle hlt hrunning hdue with ⟨c, hc, hupdate⟩
  have hlen := h.isRunning_iff.mp hrunning
  have hactive : s.activeRoute = some route := by
    rcases h.state with ⟨hnone, _⟩ | hrun
    . simp [isRunning, hnone] at hrunning
    . exact hrun.activeRoute
  rw [hupdate]
  constructor
  . dsimp
    split
    . exact h.commandSpacingMs
    . exact h.commandSpacingMs
  . rw [List.map_append]
    rw [h.commands]
    simp [List.take_add_one, hc]
  . dsimp
    rw [List.isChain_append]
    constructor
    . exact h.spaced
    . constructor
      . simp
      . intro last hlast next hnext
        simp at hnext
        subst hnext
        simpa [due, Option.mem_def.mp hlast] using hdue
  . dsimp
    split
    . left
      simp
      omega
    . right
      constructor
      . exact hactive
      . simp
      . simp
        omega
      . simp

theorem of_update_of_not_due (h : Progress spacing start route s out now)
    (hspacing : spacing < 2 ^ 31) (hle : now ≤ t) (hlt : t < now + 2 ^ 31)
    (hdue : ¬(s.isRunning ∧ due spacing out t))
    : Progress spacing start route (s.update (reading start t) (reading start t)).1
        (out ++ (s.update (reading start t) (reading start t)).2.map fun c => (t, c)) t := by
  rw [update_of_not_due h hspacing hle hlt hdue]
  constructor
  . exact h.commandSpacingMs
  . simpa using h.commands
  . simpa using h.spaced
  . rcases h.state with hdone | hrun
    . left
      simpa using hdone
    . right
      -- A call that sends nothing leaves less than the spacing to the last command.
      have hearly : due spacing out t = false := by
        simpa [isRunning, hrun.activeRoute] using hdue
      constructor
      . exact hrun.activeRoute
      . simpa using hrun.nextCommandIndex
      . simpa using hrun.length_lt
      . rcases hrun.last with ⟨last, hlast, hat, hbefore, _⟩
        simp [due, hlast] at hearly
        exists last
        simp [hlast, hat]
        omega

theorem of_update (h : Progress spacing start route s out now) (hspacing : spacing < 2 ^ 31)
    (hle : now ≤ t) (hlt : t < now + 2 ^ 31)
    : Progress spacing start route (s.update (reading start t) (reading start t)).1
        (out ++ (s.update (reading start t) (reading start t)).2.map fun c => (t, c)) t := by
  by_cases hdue : s.isRunning ∧ due spacing out t
  . apply of_update_of_due h hspacing hle hlt hdue.1 hdue.2
  . apply of_update_of_not_due h hspacing hle hlt hdue

end Progress

theorem sends_execution_concat (spacing : Nat) (start : Millis) (pre : List (Nat × Call)) (t₀ : Nat)
    (route : Route) (ticks : List Nat) (t : Nat)
    : let s := (sends spacing start (pre ++ execution t₀ route ticks)).1
      let next := s.update (reading start t) (reading start t)
      (sends spacing start (pre ++ execution t₀ route (ticks ++ [t]))).1 = next.1 ∧
        sentBy spacing start pre t₀ route (ticks ++ [t])
          =
        sentBy spacing start pre t₀ route ticks ++ next.2.map fun c => (t, c) := by
  unfold sentBy sends
  rw [execution_concat]
  simp only [run_append, run_singleton]
  constructor
  . rfl
  . rfl

theorem execution_progress (spacing : Nat) (hspacing : spacing < 2 ^ 31) (start : Millis)
    (pre : List (Nat × Call)) (t₀ : Nat) (route : Route) (ticks : List Nat) (last : Nat × Call)
    (hspaced : Spaced (2 ^ 31) (execution t₀ route ticks))
    (hlast : (execution t₀ route ticks).getLast? = some last)
    : Progress spacing start route (sends spacing start (pre ++ execution t₀ route ticks)).1
        (sentBy spacing start pre t₀ route ticks) last.1 := by
  induction ticks using List.reverseRecOn generalizing last with
  | nil =>
    simp [execution, ticksAt] at hlast
    subst hlast
    have hsolo : execution t₀ route [] = [(t₀, .start route)] := by rfl
    unfold sentBy sends
    rw [run_append]
    rw [hsolo]
    rw [run_singleton]
    apply Progress.of_start (sends_commandSpacingMs spacing start pre) t₀
  | append_singleton ticks t ih =>
    rcases sends_execution_concat spacing start pre t₀ route ticks t with ⟨hstate, hsent⟩
    rw [hstate]
    rw [hsent]
    rw [execution_concat] at hspaced hlast
    simp at hlast
    subst hlast
    cases hprev : (execution t₀ route ticks).getLast? with
    | none => simp [execution] at hprev
    | some prev =>
      have hstep := Spaced.step hspaced hprev
      have hprogress := ih prev (Spaced.left_of_append hspaced) hprev
      apply Progress.of_update hprogress hspacing hstep.1 hstep.2

theorem update_of_idle {s : RouteExecutionService} (h : s.activeRoute = none) (now nowSent : Millis)
    : s.update now nowSent = (s, []) := by
  simp [update, h]

theorem sends_ticksAt (spacing : Nat) (start : Millis) (ticks : List Nat)
    : (sends spacing start (ticksAt ticks)).1.activeRoute = none ∧
        (sends spacing start (ticksAt ticks)).2 = [] := by
  unfold sends
  induction ticks using List.reverseRecOn with
  | nil => simp [ticksAt]
  | append_singleton ticks t ih =>
    rcases ih with ⟨hidle, hnothing⟩
    rw [ticksAt_concat]
    rw [run_concat]
    simp only [timed, call]
    rw [update_of_idle hidle]
    constructor
    . exact hidle
    . rw [hnothing]
      rfl

-- What a run of `start()` and `update()` calls sends between one `start()` and the next, and what the
-- `update()` after that sends.
structure Executes (spacing : Nat) (start : Millis) (pre : List (Nat × Call)) (t₀ : Nat)
    (route : Route) (ticks : List Nat) : Prop where
  isPrefix :
    (sentBy spacing start pre t₀ route ticks).map (·.2) <+: route.commands.toList
  atOnce : ∀ c, route.commands.toList.head? = some c →
    (sentBy spacing start pre t₀ route ticks).head? = some (t₀, c)
  spaced : (sentBy spacing start pre t₀ route ticks).IsChain fun a b => a.1 + spacing ≤ b.1
  isRunning : (sends spacing start (pre ++ execution t₀ route ticks)).1.isRunning ↔
    (sentBy spacing start pre t₀ route ticks).length < route.getTurnoutCount

theorem start_sent (s : RouteExecutionService) (route : Route) (now : Millis)
    : (s.start route now).2 = route.commands.toList.head?.toList := by
  have hlen := BoundedArray.length_toList route.commands
  unfold start
  split
  . next hzero =>
    unfold Route.getTurnoutCount at hzero
    have : route.commands.toList = [] := by
      apply List.eq_nil_of_length_eq_zero
      omega
    simp [this]
  . next hpos =>
    have hfirst := Route.commandAt_eq route 0 (by omega)
    rw [List.head?_eq_getElem?]
    rw [hfirst]
    split
    . rfl
    . rfl

theorem sentBy_head? {c : TurnoutCommand} (spacing : Nat) (start : Millis) (pre : List (Nat × Call))
    (t₀ : Nat) (route : Route) (ticks : List Nat) (hc : route.commands.toList.head? = some c)
    : (sentBy spacing start pre t₀ route ticks).head? = some (t₀, c) := by
  unfold sentBy execution
  rw [run_cons]
  simp only [timed, call]
  rw [start_sent]
  rw [hc]
  rfl

theorem Executes.of_progress {spacing : Nat} {start : Millis} {pre : List (Nat × Call)} {t₀ : Nat}
    {route : Route} {ticks : List Nat} {now : Nat}
    (h : Progress spacing start route (sends spacing start (pre ++ execution t₀ route ticks)).1
      (sentBy spacing start pre t₀ route ticks) now)
    : Executes spacing start pre t₀ route ticks := by
  constructor
  . rw [h.commands]
    apply List.take_prefix
  . intro c hc
    apply sentBy_head? spacing start pre t₀ route ticks hc
  . exact h.spaced
  . exact h.isRunning_iff

structure Updates (spacing : Nat) (start : Millis) (pre : List (Nat × Call)) (t₀ : Nat)
    (route : Route) (ticks : List Nat) (t : Nat) : Prop where
  onTime : (sends spacing start (pre ++ execution t₀ route ticks)).1.isRunning →
    due spacing (sentBy spacing start pre t₀ route ticks) t →
      ∃ c, route.commands.toList[(sentBy spacing start pre t₀ route ticks).length]? = some c ∧
        sentBy spacing start pre t₀ route (ticks ++ [t])
          =
        sentBy spacing start pre t₀ route ticks ++ [(t, c)]
  notEarly : ¬((sends spacing start (pre ++ execution t₀ route ticks)).1.isRunning ∧
    due spacing (sentBy spacing start pre t₀ route ticks) t) →
      sentBy spacing start pre t₀ route (ticks ++ [t])
        =
      sentBy spacing start pre t₀ route ticks

theorem Updates.of_progress {spacing : Nat} {start : Millis} {pre : List (Nat × Call)} {t₀ : Nat}
    {route : Route} {ticks : List Nat} {now t : Nat}
    (h : Progress spacing start route (sends spacing start (pre ++ execution t₀ route ticks)).1
      (sentBy spacing start pre t₀ route ticks) now)
    (hspacing : spacing < 2 ^ 31) (hle : now ≤ t) (hlt : t < now + 2 ^ 31)
    : Updates spacing start pre t₀ route ticks t := by
  rcases sends_execution_concat spacing start pre t₀ route ticks t with ⟨_, hsent⟩
  constructor
  . intro hrunning hdue
    rcases h.update_of_due hspacing hle hlt hrunning hdue with ⟨c, hc, hupdate⟩
    rw [hsent]
    rw [hupdate]
    exact ⟨c, hc, rfl⟩
  . intro hdue
    rw [hsent]
    rw [h.update_of_not_due hspacing hle hlt hdue]
    simp

theorem spaced_execution {pre post : List (Nat × Call)} {t₀ : Nat} {route : Route}
    {ticks : List Nat} (hspaced : Spaced gap (pre ++ execution t₀ route ticks ++ post))
    : Spaced gap (execution t₀ route ticks) :=
  Spaced.right_of_append (Spaced.left_of_append hspaced)

theorem executes (spacing : Nat) (hspacing : spacing < 2 ^ 31) (start : Millis)
    (calls : List (Nat × Call)) (hspaced : Spaced (2 ^ 31) calls)
    : (∀ ticks post, calls = ticksAt ticks ++ post →
        (sends spacing start (ticksAt ticks)).1.isRunning = false ∧
          (sends spacing start (ticksAt ticks)).2 = []) ∧
      (∀ pre t₀ route ticks post, calls = pre ++ execution t₀ route ticks ++ post →
        Executes spacing start pre t₀ route ticks) ∧
      (∀ pre t₀ route ticks t post, calls = pre ++ execution t₀ route (ticks ++ [t]) ++ post →
        Updates spacing start pre t₀ route ticks t) := by
  constructor
  . intro ticks post _
    rcases sends_ticksAt spacing start ticks with ⟨hidle, hnothing⟩
    simp [isRunning, hidle, hnothing]
  . constructor
    . intro pre t₀ route ticks post hcalls
      subst hcalls
      have hexecution := spaced_execution hspaced
      cases hlast : (execution t₀ route ticks).getLast? with
      | none => simp [execution] at hlast
      | some last =>
        apply Executes.of_progress
        apply execution_progress spacing hspacing start pre t₀ route ticks last hexecution hlast
    . intro pre t₀ route ticks t post hcalls
      subst hcalls
      have hexecution := spaced_execution hspaced
      rw [execution_concat] at hexecution
      cases hlast : (execution t₀ route ticks).getLast? with
      | none => simp [execution] at hlast
      | some last =>
        have hstep := Spaced.step hexecution hlast
        have hprogress := execution_progress spacing hspacing start pre t₀ route ticks last
          (Spaced.left_of_append hexecution) hlast
        apply Updates.of_progress hprogress hspacing hstep.1 hstep.2

def twoCommands : Route :=
  (((Route.new 1 []).addTurnout 101 .thrown).2.addTurnout 102 .closed).2

theorem executes_twoCommands
    : Executes 300 4294967196 [] 0 twoCommands [299, 300] ∧
        Updates 300 4294967196 [] 0 twoCommands [299] 300 := by
  have h := executes 300 (by decide) 4294967196 (execution 0 twoCommands [299, 300]) (by decide)
  exact ⟨h.2.1 [] 0 twoCommands [299, 300] [] rfl, h.2.2 [] 0 twoCommands [299] 300 [] rfl⟩

end RouteExecutionService

end Maltbee
