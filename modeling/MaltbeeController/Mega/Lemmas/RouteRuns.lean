import MaltbeeController.Lib.WrapClock
import MaltbeeController.Mega.Lemmas.Coils

/-!
This module contains the execution of a route by the Mega loop: once a route is started and no button of a
route is pressed again all of its commands go out, in order and in time, whatever the stations do meanwhile
and also when the clock wraps in between.
-/

namespace Maltbee

open StepRun WrapClock

namespace RouteExecutionService

variable {spacing : Millis} {route : Route} {s : RouteExecutionService} {k last : Nat}

-- The service has sent the first `k` commands of `route`, the last of them at time `last`.
structure Underway (spacing : Millis) (route : Route) (s : RouteExecutionService) (k last : Nat)
    : Prop where
  commandSpacingMs : s.commandSpacingMs = spacing
  le_count : k ≤ route.getTurnoutCount
  activeRoute : s.activeRoute = if k < route.getTurnoutCount then some route else none
  next : k < route.getTurnoutCount → s.nextCommandIndex = k ∧ s.lastSendAtMs = .ofNat 32 last

theorem start_commandSpacingMs (route : Route) (now : Millis)
    : (s.start route now).1.commandSpacingMs = s.commandSpacingMs := by
  unfold start
  split
  . rfl
  . dsimp only
    split
    . rfl
    . rfl

theorem update_commandSpacingMs (now nowSent : Millis)
    : (s.update now nowSent).1.commandSpacingMs = s.commandSpacingMs := by
  unfold update
  split
  . rfl
  . split
    . rfl
    . split
      . rfl
      . dsimp only
        split
        . rfl
        . rfl

theorem take_succ (h : k < route.getTurnoutCount)
    : route.commands.toList.take (k + 1)
        =
      route.commands.toList.take k ++ [route.commandAt k (Route.index_lt h)] := by
  rw [List.take_add_one]
  rw [Route.commandAt_eq route k h]
  rfl

theorem start_underway (hspacing : s.commandSpacingMs = spacing) (route : Route) (now : Nat)
    : Underway spacing route (s.start route (.ofNat 32 now)).1 (min 1 route.getTurnoutCount) now
        ∧
      (s.start route (.ofNat 32 now)).2 = route.commands.toList.take (min 1 route.getTurnoutCount) := by
  unfold start
  split
  . next hnone =>
    rw [hnone]
    exact ⟨⟨hspacing, by simp, by simp [hnone], by simp [hnone]⟩, rfl⟩
  . next hsome =>
    have hmin : min 1 route.getTurnoutCount = 0 + 1 := by omega
    rw [hmin, take_succ (by omega)]
    dsimp only
    split
    . next hone =>
      have hone : route.getTurnoutCount = 1 := by omega
      exact ⟨⟨hspacing, by omega, by simp [hone], by simp [hone]⟩, rfl⟩
    . next hmore =>
      have hmore : 1 < route.getTurnoutCount := by omega
      exact ⟨⟨hspacing, by omega, by simp [hmore], by simp⟩, rfl⟩

theorem update_underway (h : Underway spacing route s k last) {now : Nat} (nowSent : Nat)
    (hlast : k < route.getTurnoutCount → last ≤ now ∧ now < last + 2 ^ 32)
    : (s.update (.ofNat 32 now) (.ofNat 32 nowSent) = (s, [])
        ∧
      (k < route.getTurnoutCount → now < last + spacing.toNat))
        ∨
      (k < route.getTurnoutCount
        ∧
      Underway spacing route (s.update (.ofNat 32 now) (.ofNat 32 nowSent)).1 (k + 1) nowSent
        ∧
      route.commands.toList.take (k + 1)
        = route.commands.toList.take k ++ (s.update (.ofNat 32 now) (.ofNat 32 nowSent)).2) := by
  cases Nat.lt_or_ge k route.getTurnoutCount with
  | inr hdone =>
    left
    have hidle : s.activeRoute = none := by
      rw [h.activeRoute]
      simp
      omega
    constructor
    . simp [update, hidle]
    . omega
  | inl hmore =>
    have hactive : s.activeRoute = some route := by
      rw [h.activeRoute]
      simp [hmore]
    have ⟨hindex, hsent⟩ := h.next hmore
    have ⟨hbefore, hturn⟩ := hlast hmore
    have hdue : BitVec.ofNat 32 now - s.lastSendAtMs < s.commandSpacingMs
        ↔ now < last + spacing.toNat := by
      have := reading_sub_lt_iff (0 : Millis) (d := spacing) hbefore (by omega)
      rw [hsent, h.commandSpacingMs]
      simpa [reading] using this
    unfold update
    simp only [hactive, hindex, ge_iff_le, Nat.not_le.mpr hmore, ↓reduceDIte]
    split
    . next hwait =>
      left
      exact ⟨rfl, fun _ => hdue.mp hwait⟩
    . right
      rw [take_succ hmore]
      split
      . next hlast =>
        have hnot : ¬k + 1 < route.getTurnoutCount := by omega
        refine ⟨hmore, ⟨h.commandSpacingMs, hmore, ?_, ?_⟩, rfl⟩
        . simp [hnot]
        . simp [hnot]
      . next hnext =>
        have hnext : k + 1 < route.getTurnoutCount := by omega
        refine ⟨hmore, ⟨h.commandSpacingMs, hmore, ?_, ?_⟩, rfl⟩
        . simp [hnext]
        . simp

end RouteExecutionService

namespace Mega

def routeCommands (log : List Sent) : List TurnoutCommand :=
  (log.filter fun sent => sent.sender.isRoute && sent.request.outputOn).map fun sent =>
    ⟨sent.request.address, sent.request.position⟩

section

variable (clock : Nat → Nat) (b : Bus)

theorem routeCommands_send (sender : Sender) (command : TurnoutCommand)
    : routeCommands (b.send clock sender command).log
        =
      routeCommands b.log ++ if sender.isRoute then [command] else [] := by
  cases hpending : b.locoNetTransport.releasePending with
  | false =>
    rw [send_of_idle hpending]
    cases hsender : sender.isRoute <;> simp [Bus.sent, routeCommands, on, hsender]
  | true =>
    rw [send_of_pending hpending]
    cases hsender : sender.isRoute <;> simp [Bus.sent, routeCommands, on, Bus.off, hsender]

theorem routeCommands_sendAll (sender : Sender) (commands : List TurnoutCommand)
    : routeCommands (b.sendAll clock sender commands).log
        =
      routeCommands b.log ++ if sender.isRoute then commands else [] := by
  induction commands generalizing b with
  | nil => simp [Bus.sendAll]
  | cons command commands ih =>
    have hcons : b.sendAll clock sender (command :: commands)
        = (b.send clock sender command).sendAll clock sender commands := by
      rfl
    rw [hcons]
    rw [ih]
    rw [routeCommands_send]
    cases sender.isRoute <;> simp

theorem routeCommands_update : routeCommands (b.update clock).log = routeCommands b.log := by
  unfold Bus.update PulsingLocoNetTransport.update
  dsimp only
  split
  . simp [routeCommands, Bus.stamp, PulsingLocoNetTransport.releasePendingSwitch]
  . simp [Bus.stamp]

theorem routeCommands_updateStations (input : LoopInput) (i : Nat) (stations : List TurnoutStation)
    : routeCommands (Panel.updateStations clock input i stations b).2.log = routeCommands b.log := by
  induction stations generalizing i b with
  | nil => rfl
  | cons station stations ih =>
    unfold Panel.updateStations
    rw [ih]
    rw [routeCommands_sendAll]
    simp [Sender.isRoute, Bus.pass]

theorem events_sendAll_le (sender : Sender) (commands : List TurnoutCommand)
    : b.events ≤ (b.sendAll clock sender commands).events := by
  induction commands generalizing b with
  | nil => exact Nat.le_refl _
  | cons command commands ih =>
    have := ih (b.send clock sender command)
    have hsend : (b.send clock sender command).events = b.events + 3 := by rfl
    have hcons : b.sendAll clock sender (command :: commands)
        = (b.send clock sender command).sendAll clock sender commands := by
      rfl
    rw [hcons]
    omega

theorem events_updateStations_le (input : LoopInput) (i : Nat) (stations : List TurnoutStation)
    : b.events ≤ (Panel.updateStations clock input i stations b).2.events := by
  induction stations generalizing i b with
  | nil => exact Nat.le_refl _
  | cons station stations ih =>
    have hpass : (b.pass 4).events = b.events + 4 := by rfl
    unfold Panel.updateStations
    apply Nat.le_trans _ (ih _ _)
    apply Nat.le_trans _ (events_sendAll_le _ _ _ _)
    omega

end

namespace Panel

open RouteExecutionService (Underway start_commandSpacingMs update_commandSpacingMs start_underway
  update_underway)

variable {ρ : Type u} {port : ConfigurationRepository ρ} {toInt : Int → Int} {clock : Nat → Nat}
variable {spacing : Millis} {D : Nat} {p : Panel ρ} {route : Route} {began time : Nat}
variable {earlier : List TurnoutCommand}

-- The route that the iteration starts and leaves to be executed.
def starting (clock : Nat → Nat) (p : Panel ρ) (input : LoopInput) : Option Route :=
  let p := p.updateInputs clock input
  if p.route2Button.wasPressed then
    some p.secondRoute
  else if p.route1Button.wasPressed then
    some p.firstRoute
  else
    none

-- With both buttons pressed at once the first route gets no further than its first command.
def replaced (clock : Nat → Nat) (p : Panel ρ) (input : LoopInput) : List TurnoutCommand :=
  let p := p.updateInputs clock input
  if p.route1Button.wasPressed && p.route2Button.wasPressed then
    p.firstRoute.commands.toList.take (min 1 p.firstRoute.getTurnoutCount)
  else
    []

/-
The first `k` commands of the route have gone out, one at least every `spacing + 2 * D` ms from `began` on.
As long as there are more, `time` is no more than `D` ms after the next one is due.
-/
structure Executed (clock : Nat → Nat) (spacing : Millis) (D : Nat) (route : Route) (began : Nat)
    (earlier : List TurnoutCommand) (time : Nat) (p : Panel ρ) (k last : Nat) : Prop where
  underway : Underway spacing route p.routeExecutionService k last
  commands : routeCommands p.bus.log = earlier ++ route.commands.toList.take k
  inTime : k < route.getTurnoutCount → last ≤ clock p.bus.events ∧ time ≤ last + spacing.toNat + D ∧
    last + (spacing.toNat + 2 * D) ≤ began + D + k * (spacing.toNat + 2 * D)

def Executing (clock : Nat → Nat) (spacing : Millis) (D : Nat) (route : Route) (began : Nat)
    (earlier : List TurnoutCommand) (time : Nat) (p : Panel ρ) : Prop :=
  ∃ k last, Executed clock spacing D route began earlier time p k last

theorem updateInputs_service (clock : Nat → Nat) (p : Panel ρ) (input : LoopInput)
    : (p.updateInputs clock input).routeExecutionService = p.routeExecutionService := by
  rfl

theorem updateInputs_commands (clock : Nat → Nat) (p : Panel ρ) (input : LoopInput)
    : routeCommands (p.updateInputs clock input).bus.log = routeCommands p.bus.log := by
  have hupdate := routeCommands_update clock
    (updateStations clock input 0 p.stations p.bus).2
  rw [routeCommands_updateStations] at hupdate
  exact hupdate

theorem updateInputs_events_le (clock : Nat → Nat) (p : Panel ρ) (input : LoopInput)
    : p.bus.events ≤ (p.updateInputs clock input).bus.events := by
  have hstations := events_updateStations_le clock p.bus input 0 p.stations
  have hinputs : (p.updateInputs clock input).bus.events
      = (updateStations clock input 0 p.stations p.bus).2.events + 2 + 4 := by
    rfl
  omega

theorem startRoute_events_le (clock : Nat → Nat) (p : Panel ρ) (route : Route)
    : p.bus.events ≤ (p.startRoute clock route).bus.events := by
  have hsend := events_sendAll_le clock p.bus .routeStart
    (p.routeExecutionService.start route (p.bus.now clock 3)).2
  apply Nat.le_trans hsend
  apply Nat.le_add_right

theorem updateRoute_events_le (clock : Nat → Nat) (p : Panel ρ)
    : p.bus.events ≤ (p.updateRoute clock).bus.events := by
  have hsend := events_sendAll_le clock (p.bus.pass 1) .routeUpdate
    (p.routeExecutionService.update (p.bus.now clock 0) (p.bus.now clock 4)).2
  apply Nat.le_trans (Nat.le_succ p.bus.events)
  apply Nat.le_trans hsend
  apply Nat.le_add_right

theorem loop_commandSpacingMs (h : p.routeExecutionService.commandSpacingMs = spacing)
    (input : LoopInput)
    : (p.loop port toInt clock input).1.routeExecutionService.commandSpacingMs = spacing := by
  have hstart : ∀ (pressed : Bool) (p : Panel ρ) (route : Route),
      p.routeExecutionService.commandSpacingMs = spacing →
      (if pressed then p.startRoute clock route else p).routeExecutionService.commandSpacingMs
        = spacing := by
    intro pressed p route h
    split
    . rw [← h]
      apply start_commandSpacingMs
    . exact h
  have hupdate : ∀ p : Panel ρ, (p.updateRoute clock).routeExecutionService.commandSpacingMs
      = p.routeExecutionService.commandSpacingMs := by
    intro p
    apply update_commandSpacingMs
  have hpressed : ((p.updateInputs clock input).startPressed
      clock).routeExecutionService.commandSpacingMs = spacing := by
    apply hstart
    apply hstart
    exact h
  rw [← hpressed]
  apply hupdate

theorem startRoute_executing (hmono : Monotone clock)
    (hspacing : p.routeExecutionService.commandSpacingMs = spacing) (hbegan : began ≤ clock p.bus.events)
    (hend : clock (p.startRoute clock route).bus.events ≤ began + D)
    : Executing clock spacing D route began (routeCommands p.bus.log) began
        (p.startRoute clock route) := by
  have ⟨hunderway, hsent⟩ := start_underway hspacing route (clock (p.bus.events + 3))
  have hsent : routeCommands (p.startRoute clock route).bus.log = routeCommands p.bus.log ++
      route.commands.toList.take (min 1 route.getTurnoutCount) := by
    rw [← hsent]
    apply routeCommands_sendAll
  refine ⟨_, _, hunderway, hsent, ?_⟩
  intro hmore
  have hone : min 1 route.getTurnoutCount = 1 := by omega
  rw [hone] at hmore ⊢
  have hevents : (p.startRoute clock route).bus.events = p.bus.events + 3 + 4 := by
    have hcommands : ∃ command, (p.routeExecutionService.start route (p.bus.now clock 3)).2
        = [command] := by
      unfold RouteExecutionService.start
      split
      . omega
      . dsimp only
        split
        . exact ⟨_, rfl⟩
        . exact ⟨_, rfl⟩
    rcases hcommands with ⟨command, hcommand⟩
    unfold startRoute
    dsimp only [Bus.pass]
    rw [hcommand]
    rfl
  have hle₃ : clock p.bus.events ≤ clock (p.bus.events + 3) := hmono (by omega)
  have hle₇ : clock (p.bus.events + 3) ≤ clock (p.startRoute clock route).bus.events :=
    hmono (by omega)
  omega

theorem updateRoute_executing (hmono : Monotone clock) (hturn : spacing.toNat + 2 * D < 2 ^ 32)
    (h : Executing clock spacing D route began earlier time p) (htime : time ≤ clock p.bus.events)
    (hend : clock (p.updateRoute clock).bus.events ≤ time + D)
    : Executing clock spacing D route began earlier (clock (p.updateRoute clock).bus.events)
        (p.updateRoute clock) := by
  rcases h with ⟨k, last, hexecuted⟩
  have hcommands : routeCommands (p.updateRoute clock).bus.log = routeCommands p.bus.log ++
      (p.routeExecutionService.update (p.bus.now clock 0) (p.bus.now clock 4)).2 := by
    apply routeCommands_sendAll
  have hsendAll := events_sendAll_le clock (p.bus.pass 1) .routeUpdate
    (p.routeExecutionService.update (p.bus.now clock 0) (p.bus.now clock 4)).2
  have hevents : p.bus.events + 1 + 4 ≤ (p.updateRoute clock).bus.events :=
    Nat.add_le_add_right hsendAll 4
  have hle₄ : clock p.bus.events ≤ clock (p.bus.events + 4) := hmono (by omega)
  have hle₅ : clock (p.bus.events + 4) ≤ clock (p.updateRoute clock).bus.events := hmono (by omega)
  have hlast : k < route.getTurnoutCount →
      last ≤ clock p.bus.events ∧ clock p.bus.events < last + 2 ^ 32 := by
    intro hmore
    have := hexecuted.inTime hmore
    omega
  rcases update_underway hexecuted.underway (clock (p.bus.events + 4)) hlast with
    ⟨hwait, hnotDue⟩ | ⟨hmore, hunderway, hsent⟩
  . have hwait : p.routeExecutionService.update (p.bus.now clock 0) (p.bus.now clock 4)
        = (p.routeExecutionService, []) := hwait
    rw [hwait, List.append_nil] at hcommands
    have hservice : (p.updateRoute clock).routeExecutionService = p.routeExecutionService := by
      unfold updateRoute
      dsimp only
      rw [hwait]
    refine ⟨k, last, hservice ▸ hexecuted.underway, hcommands ▸ hexecuted.commands, ?_⟩
    intro hmore
    have := hexecuted.inTime hmore
    have := hnotDue hmore
    omega
  . refine ⟨k + 1, _, hunderway, ?_, ?_⟩
    . rw [hsent, ← List.append_assoc, ← hexecuted.commands]
      exact hcommands
    . intro _
      have := hexecuted.inTime hmore
      rw [Nat.add_mul, Nat.one_mul]
      omega

theorem startPressed_of_starting {input : LoopInput} (h : starting clock p input = some route)
    : ∃ q : Panel ρ, (p.updateInputs clock input).startPressed clock = q.startRoute clock route
        ∧
      q.routeExecutionService.commandSpacingMs = p.routeExecutionService.commandSpacingMs
        ∧
      p.bus.events ≤ q.bus.events
        ∧
      routeCommands q.bus.log = routeCommands p.bus.log ++ replaced clock p input := by
  have hinputs := updateInputs_events_le clock p input
  have hlog := updateInputs_commands clock p input
  generalize hq : p.updateInputs clock input = q at hinputs hlog
  have hservice : q.routeExecutionService = p.routeExecutionService := by
    rw [← hq]
    apply updateInputs_service
  simp only [starting, replaced, hq] at h ⊢
  split at h
  . next h₂ =>
    rw [Option.some.injEq] at h
    cases h₁ : q.route1Button.wasPressed with
    | false =>
      refine ⟨q, ?_, by rw [hservice], hinputs, ?_⟩
      . simp [startPressed, h₁, h₂, h]
      . simp [hlog]
    | true =>
      have hfirst := start_underway (s := q.routeExecutionService) rfl q.firstRoute
        (clock (q.bus.events + 3))
      refine ⟨q.startRoute clock q.firstRoute, ?_, ?_, ?_, ?_⟩
      . have hroutes : (q.startRoute clock q.firstRoute).route2Button.wasPressed = true := h₂
        rw [← h]
        simp only [startPressed, h₁, ↓reduceIte, hroutes]
        rfl
      . rw [← hservice]
        apply start_commandSpacingMs
      . exact Nat.le_trans hinputs (startRoute_events_le clock q q.firstRoute)
      . rw [← hlog]
        simp only [h₂, Bool.and_self, ↓reduceIte]
        rw [← hfirst.2]
        apply routeCommands_sendAll
  . next h₂ =>
    split at h
    . next h₁ =>
      rw [Option.some.injEq] at h
      refine ⟨q, ?_, by rw [hservice], hinputs, ?_⟩
      . have hroutes : (q.startRoute clock q.firstRoute).route2Button.wasPressed ≠ true := h₂
        rw [← h]
        simp only [startPressed, h₁, ↓reduceIte, hroutes, Bool.false_eq_true]
      . simp [hlog, h₂]
    . contradiction

theorem loop_starts (hmono : Monotone clock) (hturn : spacing.toNat + 2 * D < 2 ^ 32)
    (hspacing : p.routeExecutionService.commandSpacingMs = spacing) {input : LoopInput}
    (hprompt : Prompt port toInt clock D p input) (h : starting clock p input = some route)
    : let q := (p.loop port toInt clock input).1
      Executing clock spacing D route (clock p.bus.events)
        (routeCommands p.bus.log ++ replaced clock p input) (clock q.bus.events) q := by
  intro q
  rcases startPressed_of_starting h with ⟨r, hstarted, hrspacing, hevents, hcommands⟩
  have hbegan : clock p.bus.events ≤ clock r.bus.events := hmono hevents
  have hend : clock q.bus.events ≤ clock p.bus.events + D := hprompt
  have hq : q.bus = ((r.startRoute clock route).updateRoute clock).bus := by
    rw [← hstarted]
    rfl
  have hservice : q.routeExecutionService
      = ((r.startRoute clock route).updateRoute clock).routeExecutionService := by
    rw [← hstarted]
    rfl
  have hle := startRoute_events_le clock r route
  have hupdate := updateRoute_events_le clock (r.startRoute clock route)
  have hupdated : Executing clock spacing D route (clock p.bus.events) (routeCommands r.bus.log)
      (clock q.bus.events) ((r.startRoute clock route).updateRoute clock) := by
    rw [hq] at hend ⊢
    apply updateRoute_executing hmono hturn _ _ hend
    . apply startRoute_executing hmono (hrspacing.trans hspacing) hbegan
      exact Nat.le_trans (hmono hupdate) hend
    . exact Nat.le_trans hbegan (hmono hle)
  rw [← hcommands]
  rcases hupdated with ⟨k, last, hexecuted⟩
  exact ⟨k, last, hservice ▸ hexecuted.underway, hq ▸ hexecuted.commands, hq ▸ hexecuted.inTime⟩

theorem loop_executing (hmono : Monotone clock) (hturn : spacing.toNat + 2 * D < 2 ^ 32)
    {input : LoopInput} (hprompt : Prompt port toInt clock D p input)
    (hquiet : starting clock p input = none)
    (h : Executing clock spacing D route began earlier (clock p.bus.events) p)
    : let q := (p.loop port toInt clock input).1
      Executing clock spacing D route began earlier (clock q.bus.events) q := by
  intro q
  have hinputs := updateInputs_events_le clock p input
  have hidle : (p.updateInputs clock input).startPressed clock = p.updateInputs clock input := by
    unfold starting at hquiet
    dsimp only at hquiet
    split at hquiet
    . contradiction
    . next h₂ =>
      split at hquiet
      . contradiction
      . next h₁ => simp only [startPressed, h₁, h₂, ↓reduceIte, Bool.false_eq_true]
  have hend : clock q.bus.events ≤ clock p.bus.events + D := hprompt
  have hq : q.bus = ((p.updateInputs clock input).updateRoute clock).bus := by
    rw [← hidle]
    rfl
  have hservice : q.routeExecutionService
      = ((p.updateInputs clock input).updateRoute clock).routeExecutionService := by
    rw [← hidle]
    rfl
  have hbegin : Executing clock spacing D route began earlier (clock p.bus.events)
      (p.updateInputs clock input) := by
    rcases h with ⟨k, last, hexecuted⟩
    refine ⟨k, last, hexecuted.underway, ?_, ?_⟩
    . rw [updateInputs_commands]
      exact hexecuted.commands
    . intro hmore
      have := hexecuted.inTime hmore
      exact ⟨Nat.le_trans this.1 (hmono hinputs), this.2⟩
  have hupdated : Executing clock spacing D route began earlier (clock q.bus.events)
      ((p.updateInputs clock input).updateRoute clock) := by
    rw [hq] at hend ⊢
    exact updateRoute_executing hmono hturn hbegin (hmono hinputs) hend
  rcases hupdated with ⟨k, last, hexecuted⟩
  exact ⟨k, last, hservice ▸ hexecuted.underway, hq ▸ hexecuted.commands, hq ▸ hexecuted.inTime⟩

/--
Once an iteration has started a route and as long as no later one starts another, the commands of routes
that reach the switch driver are those of this route, in order and each once, whatever the stations do. One
more goes out at least every `spacing + 2 * D` ms until all have, if no iteration takes longer than `D` ms.
-/
theorem route_executed (port : ConfigurationRepository ρ) (toInt : Int → Int) (hmono : Monotone clock)
    (d spacing : Millis) (hturn : spacing.toNat + 2 * D < 2 ^ 32) (firstRoute secondRoute : Route)
    (session : MegaCommissioningSession ρ) (before : List LoopInput) (input : LoopInput)
    (after : List LoopInput) (route : Route)
    : let p := (run (loop port toInt clock)
        (new d spacing firstRoute secondRoute session) before).1
      let q := (run (loop port toInt clock) p (input :: after)).1
      starting clock p input = some route →
      Along (loop port toInt clock) (fun p input => starting clock p input = none)
        (p.loop port toInt clock input).1 after →
      Along (loop port toInt clock) (Prompt port toInt clock D) p (input :: after) →
      ∃ k ≤ route.getTurnoutCount,
        routeCommands q.bus.log
          = routeCommands p.bus.log ++ replaced clock p input ++ route.commands.toList.take k
          ∧
        (q.routeExecutionService.isRunning ↔ k < route.getTurnoutCount)
          ∧
        (k < route.getTurnoutCount →
          clock q.bus.events ≤ clock p.bus.events + k * (spacing.toNat + 2 * D)) := by
  intro p q hstart hquiet hprompt
  have hspacing : p.routeExecutionService.commandSpacingMs = spacing := by
    apply run_invariant (P := fun p : Panel ρ => p.routeExecutionService.commandSpacingMs = spacing)
    . rfl
    . intro p input h
      exact loop_commandSpacingMs h input
  have hq : Executing clock spacing D route (clock p.bus.events)
      (routeCommands p.bus.log ++ replaced clock p input) (clock q.bus.events) q := by
    apply run_invariant_along (loop port toInt clock) _ (I := fun q : Panel ρ =>
      Executing clock spacing D route (clock p.bus.events)
        (routeCommands p.bus.log ++ replaced clock p input) (clock q.bus.events) q) _ _
      (Along.and (loop port toInt clock) hquiet hprompt.2)
    . intro q input hstep h
      exact loop_executing hmono hturn hstep.2 hstep.1 h
    . exact loop_starts hmono hturn hspacing hprompt.1 hstart
  rcases hq with ⟨k, last, hexecuted⟩
  refine ⟨k, hexecuted.underway.le_count, hexecuted.commands, ?_, ?_⟩
  . unfold RouteExecutionService.isRunning
    rw [hexecuted.underway.activeRoute]
    split
    . next hmore => simp [hmore]
    . next hdone => simp [hdone]
  . intro hmore
    have := hexecuted.inTime hmore
    omega

theorem route_executed_route1
    : let port := InMemoryConfigurationRepository.repository
      let clock := fun n => min (10 * n) 9999
      let input : LoopInput := {
        throwRaw := fun _ => false
        closeRaw := fun _ => false
        report := none
        route1Raw := true
        route2Raw := false
        serial := []
      }
      let p := (run (loop port id clock) (setup ⟨{}, .buildDefaultConfig⟩) [input]).1
      let q := (run (loop port id clock) p (input :: List.replicate 8 input)).1
      ∃ k ≤ route1.getTurnoutCount,
        routeCommands q.bus.log
          = routeCommands p.bus.log ++ replaced clock p input ++ route1.commands.toList.take k
          ∧
        (q.routeExecutionService.isRunning ↔ k < route1.getTurnoutCount)
          ∧
        (k < route1.getTurnoutCount →
          clock q.bus.events
            ≤ clock p.bus.events + k * (ROUTE_COMMAND_SPACING_MS.toNat + 2 * 350)) := by
  intro port clock input p q
  have hstart : starting clock p input = some route1 := by decide +kernel
  have hquiet : Along (loop port id clock) (fun p input => starting clock p input = none)
      (p.loop port id clock input).1 (List.replicate 8 input) := by
    decide +kernel
  have hprompt : Along (loop port id clock) (Prompt port id clock 350) p
      (input :: List.replicate 8 input) := by
    decide +kernel
  have hmono : Monotone clock := by
    intro m n h
    dsimp only [clock]
    omega
  have hturn : ROUTE_COMMAND_SPACING_MS.toNat + 2 * 350 < 2 ^ 32 := by decide
  have hexecuted := route_executed (D := 350) port id hmono LOCONET_PULSE_DURATION_MS
    ROUTE_COMMAND_SPACING_MS hturn route1 route2 ⟨{}, .buildDefaultConfig⟩ [input] input
    (List.replicate 8 input) route1 hstart hquiet hprompt
  exact hexecuted

end Panel

end Mega

end Maltbee
