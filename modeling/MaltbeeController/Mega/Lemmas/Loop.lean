import Mathlib.Algebra.Group.Nat.Defs
import Mathlib.Data.List.Chain
import Mathlib.Order.Monotone.Basic
import MaltbeeController.Lib.StepRun
import MaltbeeController.Mega.Impl.Loop

/-!
This module contains the theory of the solenoid pulses of the Mega loop: the timer of the transport and
the timer of the route service, which share one pulse slot with the stations, keep each pulse of a route
at full length unless a station or another route takes the slot.
-/

namespace Maltbee

namespace Mega

open StepRun

def Sender.isRoute (sender : Sender) : Bool :=
  sender = .routeStart || sender = .routeUpdate

-- If `on` starts a pulse for a route and `off` comes next without a station or the start of a route having
-- sent a command, then `off` ends that pulse and does so in time.
def Intact (d : Millis) (on off : Sent) : Prop :=
  on.request.outputOn → on.sender.isRoute → off.sender ≠ .station → off.sender ≠ .routeStart →
    off.request = { on.request with outputOn := false } ∧ on.time + d.toNat ≤ off.time

section

variable (clock : Nat → Nat) (d : Millis)

def Bus.off (b : Bus) (time : Nat) (sender : Sender) : Sent :=
  ⟨time, sender, ⟨b.locoNetTransport.pendingAddress, b.locoNetTransport.pendingPosition, false⟩⟩

def on (time : Nat) (sender : Sender) (command : TurnoutCommand) : Sent :=
  ⟨time, sender, ⟨command.address, command.position, true⟩⟩

structure Open (b : Bus) (began : Sent) : Prop where
  last : b.log.getLast? = some began
  request : began.request
    = ⟨b.locoNetTransport.pendingAddress, b.locoNetTransport.pendingPosition, true⟩
  time_le : began.time + d.toNat ≤ b.locoNetTransport.releaseAtMs.toNat

structure BusInv (b : Bus) : Prop where
  pulseDurationMs : b.locoNetTransport.pulseDurationMs = d
  chain : b.log.IsChain (Intact d)
  idle : b.locoNetTransport.releasePending = false →
    ∀ last ∈ b.log.getLast?, last.request.outputOn = false
  pending : b.locoNetTransport.releasePending → ∃ began, Open d b began

-- The route service looked at the clock after the transport did, for every command it sent.
structure RouteInv (spacing : Millis) (b : Bus) (s : RouteExecutionService) : Prop where
  commandSpacingMs : s.commandSpacingMs = spacing
  lastSend_le : s.isRunning → s.lastSendAtMs.toNat ≤ clock b.events
  releaseAt_le : s.isRunning → b.locoNetTransport.releasePending →
    ∀ began ∈ b.log.getLast?, began.sender.isRoute →
      b.locoNetTransport.releaseAtMs.toNat ≤ s.lastSendAtMs.toNat + d.toNat

variable {clock d} {b : Bus} {spacing : Millis} {s : RouteExecutionService}

theorem BusInv.pass (n : Nat) (h : BusInv d b) : BusInv d (b.pass n) := by
  refine ⟨h.pulseDurationMs, h.chain, h.idle, ?_⟩
  intro hpending
  rcases h.pending hpending with ⟨began, hopen⟩
  exact ⟨began, hopen.last, hopen.request, hopen.time_le⟩

theorem RouteInv.pass (hmono : Monotone clock) (n : Nat) (h : RouteInv clock d spacing b s)
    : RouteInv clock d spacing (b.pass n) s := by
  have hle : clock b.events ≤ clock (b.events + n) := hmono (by omega)
  refine ⟨h.commandSpacingMs, ?_, h.releaseAt_le⟩
  intro hrunning
  have := h.lastSend_le hrunning
  dsimp only [Bus.pass]
  omega

theorem RouteInv.of_idle (hspacing : s.commandSpacingMs = spacing) (h : s.isRunning = false)
    : RouteInv clock d spacing b s := by
  refine ⟨hspacing, ?_, ?_⟩
  . simp [h]
  . simp [h]

theorem now_toNat (hbound : ∀ n, clock n + d.toNat < 2 ^ 32) (b : Bus) (n : Nat)
    : (b.now clock n).toNat = clock (b.events + n) := by
  have := hbound (b.events + n)
  unfold Bus.now
  rw [BitVec.toNat_ofNat]
  rw [Nat.mod_eq_of_lt]
  omega

theorem chain_off (h : BusInv d b) {began : Sent} (hopen : Open d b began) {time : Nat}
    {sender : Sender}
    (hdue : sender = .station ∨ sender = .routeStart ∨
      (began.sender.isRoute → began.time + d.toNat ≤ time))
    : (b.log ++ [b.off time sender]).IsChain (Intact d) := by
  rw [List.isChain_append]
  refine ⟨h.chain, by simp, ?_⟩
  intro last hlast off hoff
  rw [hopen.last, Option.mem_some_iff] at hlast
  simp only [List.head?_cons, Option.mem_some_iff] at hoff
  subst hlast hoff
  intro _ hroute hstation hstart
  refine ⟨by rw [hopen.request]; rfl, ?_⟩
  rcases hdue with heq | heq | hdue
  . contradiction
  . contradiction
  . exact hdue hroute

theorem chain_on {log : List Sent} (h : log.IsChain (Intact d))
    (hoff : ∀ last ∈ log.getLast?, last.request.outputOn = false) (began : Sent)
    : (log ++ [began]).IsChain (Intact d) := by
  rw [List.isChain_append]
  refine ⟨h, by simp, ?_⟩
  intro last hlast _ _ hon
  rw [hoff last hlast] at hon
  contradiction

-- The bus once a command has been sent and nothing but `log` was in the log before its own request.
def Bus.sent (clock : Nat → Nat) (b : Bus) (command : TurnoutCommand) (log : List Sent) (time : Nat)
    (sender : Sender)
    : Bus where
  locoNetTransport := { b.locoNetTransport with
    releasePending := true
    pendingAddress := command.address
    pendingPosition := command.position
    releaseAtMs := b.now clock 2 + b.locoNetTransport.pulseDurationMs
  }
  log := log ++ [on time sender command]
  events := b.events + 3

theorem send_of_idle (hidle : b.locoNetTransport.releasePending = false) (sender : Sender)
    (command : TurnoutCommand)
    : b.send clock sender command = b.sent clock command b.log (clock b.events) sender := by
  simp [Bus.send, Bus.stamp, MrrwaLocoNetTurnoutAdapter.send, PulsingLocoNetTransport.sendPacket,
    Bus.sent, on, hidle]

theorem send_of_pending (hpending : b.locoNetTransport.releasePending) (sender : Sender)
    (command : TurnoutCommand)
    : b.send clock sender command
        =
      b.sent clock command (b.log ++ [b.off (clock b.events) sender]) (clock (b.events + 1))
        sender := by
  simp [Bus.send, Bus.stamp, MrrwaLocoNetTurnoutAdapter.send, PulsingLocoNetTransport.sendPacket,
    PulsingLocoNetTransport.releasePendingSwitch, Bus.sent, on, Bus.off, hpending]

theorem sent_releaseAt (hbound : ∀ n, clock n + d.toNat < 2 ^ 32) (h : BusInv d b)
    (command : TurnoutCommand) (log : List Sent) (time : Nat) (sender : Sender)
    : (b.sent clock command log time sender).locoNetTransport.releaseAtMs.toNat
        =
      clock (b.events + 2) + d.toNat := by
  have := hbound (b.events + 2)
  unfold Bus.sent
  dsimp only
  rw [BitVec.toNat_add]
  rw [now_toNat hbound]
  rw [h.pulseDurationMs]
  rw [Nat.mod_eq_of_lt this]

theorem sent_inv (hbound : ∀ n, clock n + d.toNat < 2 ^ 32) (h : BusInv d b)
    (command : TurnoutCommand) {log : List Sent} (hchain : log.IsChain (Intact d))
    (hoff : ∀ last ∈ log.getLast?, last.request.outputOn = false) {time : Nat}
    (htime : time ≤ clock (b.events + 2)) (sender : Sender)
    : BusInv d (b.sent clock command log time sender) := by
  have hrelease := sent_releaseAt hbound h command log time sender
  refine ⟨h.pulseDurationMs, chain_on hchain hoff _, by simp [Bus.sent], ?_⟩
  intro _
  refine ⟨on time sender command, by simp [Bus.sent], rfl, ?_⟩
  rw [hrelease]
  dsimp only [on]
  omega

-- A command may be sent at any time but by `RouteExecutionService::update`, which has to wait for the
-- pulse of the command before it.
theorem send_inv (hmono : Monotone clock) (hbound : ∀ n, clock n + d.toNat < 2 ^ 32)
    (h : BusInv d b) {sender : Sender}
    (hdue : sender = .station ∨ sender = .routeStart ∨
      (b.locoNetTransport.releasePending → ∀ began, Open d b began →
        began.sender.isRoute → began.time + d.toNat ≤ clock b.events))
    (command : TurnoutCommand)
    : BusInv d (b.send clock sender command) := by
  cases hpending : b.locoNetTransport.releasePending with
  | false =>
    rw [send_of_idle hpending]
    apply sent_inv hbound h command h.chain (h.idle hpending)
    apply hmono
    omega
  | true =>
    rw [send_of_pending hpending]
    rcases h.pending hpending with ⟨began, hopen⟩
    apply sent_inv hbound h command
    . apply chain_off h hopen
      rcases hdue with heq | heq | hdue
      . left; exact heq
      . right; left; exact heq
      . right; right; exact hdue hpending began hopen
    . simp [Bus.off]
    . apply hmono
      omega

theorem send_last (sender : Sender) (command : TurnoutCommand)
    : ∃ time, (b.send clock sender command).log.getLast? = some (on time sender command) := by
  cases hpending : b.locoNetTransport.releasePending with
  | false =>
    rw [send_of_idle hpending]
    exact ⟨_, by simp [Bus.sent]; rfl⟩
  | true =>
    rw [send_of_pending hpending]
    exact ⟨_, by simp [Bus.sent]; rfl⟩

theorem send_releaseAt (hbound : ∀ n, clock n + d.toNat < 2 ^ 32) (h : BusInv d b)
    (sender : Sender) (command : TurnoutCommand)
    : (b.send clock sender command).locoNetTransport.releaseAtMs.toNat
        =
      clock (b.events + 2) + d.toNat := by
  cases hpending : b.locoNetTransport.releasePending with
  | false =>
    rw [send_of_idle hpending]
    apply sent_releaseAt hbound h
  | true =>
    rw [send_of_pending hpending]
    apply sent_releaseAt hbound h

theorem send_station_routeInv (hmono : Monotone clock) (command : TurnoutCommand)
    (h : RouteInv clock d spacing b s)
    : RouteInv clock d spacing (b.send clock .station command) s := by
  refine ⟨h.commandSpacingMs, ?_, ?_⟩
  . intro hrunning
    have hle : clock b.events ≤ clock (b.events + 3) := hmono (by omega)
    have := h.lastSend_le hrunning
    dsimp only [Bus.send]
    omega
  . intro _ _ began hlast hroute
    rcases send_last .station command with ⟨time, heq⟩
    rw [heq, Option.mem_some_iff] at hlast
    rw [← hlast] at hroute
    contradiction

theorem sendAll_station_inv (hmono : Monotone clock) (hbound : ∀ n, clock n + d.toNat < 2 ^ 32)
    (commands : List TurnoutCommand) (h : BusInv d b) (hroute : RouteInv clock d spacing b s)
    : BusInv d (b.sendAll clock .station commands) ∧
        RouteInv clock d spacing (b.sendAll clock .station commands) s := by
  induction commands generalizing b with
  | nil => exact ⟨h, hroute⟩
  | cons command commands ih =>
    apply ih
    . apply send_inv hmono hbound h (.inl rfl) command
    . apply send_station_routeInv hmono command hroute

theorem update_inv (hmono : Monotone clock) (hbound : ∀ n, clock n + d.toNat < 2 ^ 32)
    (h : BusInv d b) (hroute : RouteInv clock d spacing b s)
    : BusInv d (b.update clock) ∧ RouteInv clock d spacing (b.update clock) s := by
  have htime₁ : clock b.events ≤ clock (b.events + 1) := hmono (by omega)
  have htime₂ : clock b.events ≤ clock (b.events + 2) := hmono (by omega)
  unfold Bus.update PulsingLocoNetTransport.update
  dsimp only
  split
  . next hdue =>
    rw [Bool.and_eq_true, decide_eq_true_eq, BitVec.le_def, now_toNat hbound,
      Nat.add_zero] at hdue
    rcases h.pending hdue.1 with ⟨began, hopen⟩
    have hchain : (b.log ++ [b.off (clock (b.events + 1)) .release]).IsChain (Intact d) := by
      apply chain_off h hopen
      right; right
      intro _
      have := hopen.time_le
      omega
    constructor
    . refine ⟨h.pulseDurationMs, hchain, ?_, ?_⟩
      . simp [Bus.stamp, PulsingLocoNetTransport.releasePendingSwitch]
      . simp [PulsingLocoNetTransport.releasePendingSwitch]
    . refine ⟨hroute.commandSpacingMs, ?_, ?_⟩
      . intro hrunning
        have := hroute.lastSend_le hrunning
        dsimp only
        omega
      . simp [PulsingLocoNetTransport.releasePendingSwitch]
  . have hpass : Bus.mk b.locoNetTransport (b.log ++ b.stamp clock 1 .release []) (b.events + 2)
        = b.pass 2 := by
      simp [Bus.stamp, Bus.pass]
    rw [hpass]
    exact ⟨h.pass 2, hroute.pass hmono 2⟩

theorem sendAll_singleton (sender : Sender) (command : TurnoutCommand)
    : b.sendAll clock sender [command] = b.send clock sender command := by
  rfl

theorem send_routeInv (hmono : Monotone clock) (hbound : ∀ n, clock n + d.toNat < 2 ^ 32)
    (h : BusInv d b) (sender : Sender) (command : TurnoutCommand)
    (hspacing : s.commandSpacingMs = spacing)
    (hsent : s.lastSendAtMs.toNat = clock (b.events + 3))
    : RouteInv clock d spacing (b.send clock sender command) s := by
  refine ⟨hspacing, ?_, ?_⟩
  . intro _
    rw [hsent]
    exact Nat.le_refl _
  . intro _ _ _ _ _
    have hle : clock (b.events + 2) ≤ clock (b.events + 3) := hmono (by omega)
    rw [send_releaseAt hbound h]
    omega

theorem start_inv (hmono : Monotone clock) (hbound : ∀ n, clock n + d.toNat < 2 ^ 32)
    (h : BusInv d b) (hroute : RouteInv clock d spacing b s) (route : Route)
    : BusInv d (b.sendAll clock .routeStart (s.start route (b.now clock 3)).2) ∧
        RouteInv clock d spacing (b.sendAll clock .routeStart (s.start route (b.now clock 3)).2)
          (s.start route (b.now clock 3)).1 := by
  unfold RouteExecutionService.start
  dsimp only
  split
  . exact ⟨h, .of_idle hroute.commandSpacingMs rfl⟩
  . split
    . rw [sendAll_singleton]
      exact ⟨send_inv hmono hbound h (.inr (.inl rfl)) _, .of_idle hroute.commandSpacingMs rfl⟩
    . rw [sendAll_singleton]
      refine ⟨send_inv hmono hbound h (.inr (.inl rfl)) _, send_routeInv hmono hbound h _ _ ?_ ?_⟩
      . exact hroute.commandSpacingMs
      . apply now_toNat hbound b 3

theorem pulse_over (hbound : ∀ n, clock n + d.toNat < 2 ^ 32) (hspacing : d < spacing)
    (hroute : RouteInv clock d spacing b s) (hrunning : s.isRunning)
    (hdue : ¬b.now clock 0 - s.lastSendAtMs < s.commandSpacingMs)
    (hpending : b.locoNetTransport.releasePending) {began : Sent} (hopen : Open d b began)
    (hbegan : began.sender.isRoute)
    : began.time + d.toNat ≤ clock b.events := by
  have hle := hroute.lastSend_le hrunning
  have hrelease := hroute.releaseAt_le hrunning hpending began hopen.last hbegan
  have htime := hopen.time_le
  have hnow := now_toNat hbound b 0
  rw [Nat.add_zero] at hnow
  rw [hroute.commandSpacingMs] at hdue
  rw [BitVec.lt_def] at hspacing hdue
  rw [BitVec.toNat_sub_of_le (by rw [BitVec.le_def]; omega)] at hdue
  omega

theorem updateRoute_inv (hmono : Monotone clock) (hbound : ∀ n, clock n + d.toNat < 2 ^ 32)
    (hspacing : d < spacing) (h : BusInv d b) (hroute : RouteInv clock d spacing b s)
    : BusInv d ((b.pass 1).sendAll clock .routeUpdate
          (s.update (b.now clock 0) (b.now clock 4)).2) ∧
        RouteInv clock d spacing
          ((b.pass 1).sendAll clock .routeUpdate (s.update (b.now clock 0) (b.now clock 4)).2)
          (s.update (b.now clock 0) (b.now clock 4)).1 := by
  unfold RouteExecutionService.update
  split
  . exact ⟨h.pass 1, hroute.pass hmono 1⟩
  . next route hactive =>
    split
    . exact ⟨h.pass 1, .of_idle hroute.commandSpacingMs rfl⟩
    . split
      . exact ⟨h.pass 1, hroute.pass hmono 1⟩
      . next hdue =>
        have hrunning : s.isRunning := by simp [RouteExecutionService.isRunning, hactive]
        have hsent : ∀ command, BusInv d ((b.pass 1).send clock .routeUpdate command) := by
          intro command
          apply send_inv hmono hbound (h.pass 1)
          right; right
          intro hpending began hopen hbegan
          have hopen : Open d b began := ⟨hopen.last, hopen.request, hopen.time_le⟩
          have := pulse_over hbound hspacing hroute hrunning hdue hpending hopen hbegan
          have hle : clock b.events ≤ clock (b.events + 1) := hmono (by omega)
          dsimp only [Bus.pass]
          omega
        dsimp only
        split
        . rw [sendAll_singleton]
          exact ⟨hsent _, .of_idle hroute.commandSpacingMs rfl⟩
        . rw [sendAll_singleton]
          refine ⟨hsent _, send_routeInv hmono hbound (h.pass 1) _ _ ?_ ?_⟩
          . exact hroute.commandSpacingMs
          . apply now_toNat hbound b 4

theorem updateStations_inv (hmono : Monotone clock) (hbound : ∀ n, clock n + d.toNat < 2 ^ 32)
    (input : LoopInput) (i : Nat) (stations : List TurnoutStation) (h : BusInv d b)
    (hroute : RouteInv clock d spacing b s)
    : BusInv d (Panel.updateStations clock input i stations b).2 ∧
        RouteInv clock d spacing (Panel.updateStations clock input i stations b).2 s := by
  induction stations generalizing i b with
  | nil => exact ⟨h, hroute⟩
  | cons station stations ih =>
    have := sendAll_station_inv hmono hbound
      (station.update (input.throwRaw i) (input.closeRaw i) (b.now clock 0) (b.now clock 1)
        (b.now clock 2) (b.now clock 3)).2
      (h.pass 4) (hroute.pass hmono 4)
    exact ih (i + 1) this.1 this.2

end

namespace Panel

variable {ρ : Type u} {port : ConfigurationRepository ρ} {toInt : Int → Int} {clock : Nat → Nat}
variable {d spacing : Millis}

structure Inv (clock : Nat → Nat) (d spacing : Millis) (p : Panel ρ) : Prop where
  bus : BusInv d p.bus
  route : RouteInv clock d spacing p.bus p.routeExecutionService

theorem startRoute_inv (hmono : Monotone clock) (hbound : ∀ n, clock n + d.toNat < 2 ^ 32)
    {p : Panel ρ} (h : Inv clock d spacing p) (route : Route)
    : Inv clock d spacing (p.startRoute clock route) := by
  rcases start_inv hmono hbound h.bus h.route route with ⟨hbus, hroute⟩
  exact ⟨hbus.pass 4, hroute.pass hmono 4⟩

theorem updateRoute_inv (hmono : Monotone clock) (hbound : ∀ n, clock n + d.toNat < 2 ^ 32)
    (hspacing : d < spacing) {p : Panel ρ} (h : Inv clock d spacing p)
    : Inv clock d spacing (p.updateRoute clock) := by
  rcases Mega.updateRoute_inv hmono hbound hspacing h.bus h.route with ⟨hbus, hroute⟩
  exact ⟨hbus.pass 4, hroute.pass hmono 4⟩

theorem updateInputs_inv (hmono : Monotone clock) (hbound : ∀ n, clock n + d.toNat < 2 ^ 32)
    {p : Panel ρ} (h : Inv clock d spacing p) (input : LoopInput)
    : Inv clock d spacing (p.updateInputs clock input) := by
  rcases updateStations_inv hmono hbound input 0 p.stations h.bus h.route with ⟨hbus, hroute⟩
  rcases update_inv hmono hbound hbus hroute with ⟨hbus, hroute⟩
  exact ⟨hbus.pass 4, hroute.pass hmono 4⟩

theorem startIf_inv (hmono : Monotone clock) (hbound : ∀ n, clock n + d.toNat < 2 ^ 32)
    {p : Panel ρ} (h : Inv clock d spacing p) (pressed : Bool) (route : Route)
    : Inv clock d spacing (if pressed then p.startRoute clock route else p) := by
  split
  . apply startRoute_inv hmono hbound h route
  . exact h

theorem startPressed_inv (hmono : Monotone clock) (hbound : ∀ n, clock n + d.toNat < 2 ^ 32)
    {p : Panel ρ} (h : Inv clock d spacing p)
    : Inv clock d spacing (p.startPressed clock) := by
  apply startIf_inv hmono hbound
  apply startIf_inv hmono hbound h _ _

theorem loop_inv (hmono : Monotone clock) (hbound : ∀ n, clock n + d.toNat < 2 ^ 32)
    (hspacing : d < spacing) {p : Panel ρ} (h : Inv clock d spacing p) (input : LoopInput)
    : Inv clock d spacing (p.loop port toInt clock input).1 := by
  have hinputs := updateInputs_inv hmono hbound h input
  have hstarted := startPressed_inv hmono hbound hinputs
  have hupdated := updateRoute_inv hmono hbound hspacing hstarted
  exact ⟨hupdated.bus, hupdated.route⟩

theorem new_inv (firstRoute secondRoute : Route) (session : MegaCommissioningSession ρ)
    : Inv clock d spacing (new d spacing firstRoute secondRoute session) := by
  constructor
  . refine ⟨rfl, .nil, ?_, ?_⟩
    . simp [new]
    . simp [new]
  . exact .of_idle rfl rfl

/--
In every run of the loop the pulse of a command that the route service sent is as long as it should be,
unless it was a command of a station or the start of a route that made the transport end it.
-/
theorem route_pulses_intact (hmono : Monotone clock) (hbound : ∀ n, clock n + d.toNat < 2 ^ 32)
    (hspacing : d < spacing) (firstRoute secondRoute : Route) (session : MegaCommissioningSession ρ)
    (inputs : List LoopInput)
    : let log := (run (loop port toInt clock)
        (new d spacing firstRoute secondRoute session) inputs).1.bus.log
      ∀ i (_ : i + 1 < log.length), Intact d log[i] log[i + 1] := by
  intro log
  have hinv : Inv clock d spacing (run (loop port toInt clock)
      (new d spacing firstRoute secondRoute session) inputs).1 := by
    apply run_invariant (P := fun p : Panel ρ => Inv clock d spacing p)
    . apply new_inv firstRoute secondRoute session
    . intro p input h
      apply loop_inv hmono hbound hspacing h input
  exact List.isChain_iff_getElem.mp hinv.bus.chain

theorem route_pulses_intact_route1
    : let log := (run (loop InMemoryConfigurationRepository.repository id fun n => min (10 * n) 9999)
        (setup ⟨{}, .buildDefaultConfig⟩)
        (List.replicate 10 {
          throwRaw := fun _ => false
          closeRaw := fun _ => false
          report := none
          route1Raw := true
          route2Raw := false
          serial := []
        })).1.bus.log
      ∀ i (_ : i + 1 < log.length), Intact LOCONET_PULSE_DURATION_MS log[i] log[i + 1] := by
  apply route_pulses_intact
  . intro m n h
    dsimp only
    omega
  . intro n
    have : LOCONET_PULSE_DURATION_MS.toNat = 250 := by decide
    omega
  . decide

end Panel

end Mega

end Maltbee
