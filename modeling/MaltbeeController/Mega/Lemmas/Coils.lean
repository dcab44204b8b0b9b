import MaltbeeController.Mega.Lemmas.Loop

/-!
This module contains how long the Mega loop leaves a solenoid energised: as long as every iteration of the
loop is over in time so is every pulse, whoever sent it and whoever ends it.
-/

namespace Maltbee

namespace Mega

open StepRun

-- If `on` starts a pulse then `off` ends it, at most `limit` ms later.
def Ends (limit : Nat) (on off : Sent) : Prop :=
  on.request.outputOn →
    off.request = { on.request with outputOn := false } ∧ off.time ≤ on.time + limit

-- The pulse that the transport has to end. The clock was read for `releaseAtMs` later than for the log.
structure Energised (d : Millis) (D : Nat) (b : Bus) (began : Sent) : Prop where
  last : b.log.getLast? = some began
  request : began.request
    = ⟨b.locoNetTransport.pendingAddress, b.locoNetTransport.pendingPosition, true⟩
  releaseAt_le : b.locoNetTransport.releaseAtMs.toNat ≤ began.time + d.toNat + D

-- `start` is when the iteration began: the pulse that is open then is at most `late` ms overdue.
structure InTime (d : Millis) (D start late : Nat) (b : Bus) : Prop where
  pulseDurationMs : b.locoNetTransport.pulseDurationMs = d
  chain : b.log.IsChain (Ends (d.toNat + 3 * D))
  idle : b.locoNetTransport.releasePending = false →
    ∀ last ∈ b.log.getLast?, last.request.outputOn = false
  pending : b.locoNetTransport.releasePending →
    start ≤ b.locoNetTransport.releaseAtMs.toNat + late ∧ ∃ began, Energised d D b began

-- Whether the iteration will have taken too long is known at its end only.
structure InIteration (clock : Nat → Nat) (d : Millis) (D start late : Nat) (b : Bus) : Prop where
  start_le : start ≤ clock b.events
  inTime : clock b.events ≤ start + D → InTime d D start late b

section

variable {clock : Nat → Nat} {d : Millis} {D start late : Nat} {b : Bus}

theorem Ends.chain_on {limit : Nat} {log : List Sent} (h : log.IsChain (Ends limit))
    (hoff : ∀ last ∈ log.getLast?, last.request.outputOn = false) (began : Sent)
    : (log ++ [began]).IsChain (Ends limit) := by
  rw [List.isChain_append]
  refine ⟨h, by simp, ?_⟩
  intro last hlast _ _ hon
  rw [hoff last hlast] at hon
  contradiction

theorem InTime.chain_off (h : InTime d D start late b) (hlate : late ≤ D)
    (hpending : b.locoNetTransport.releasePending) {time : Nat} (htime : time ≤ start + D)
    (sender : Sender)
    : (b.log ++ [b.off time sender]).IsChain (Ends (d.toNat + 3 * D)) := by
  rcases h.pending hpending with ⟨hstart, began, hopen⟩
  rw [List.isChain_append]
  refine ⟨h.chain, by simp, ?_⟩
  intro last hlast off hoff
  rw [hopen.last, Option.mem_some_iff] at hlast
  simp only [List.head?_cons, Option.mem_some_iff] at hoff
  subst hlast hoff
  intro _
  refine ⟨by rw [hopen.request]; rfl, ?_⟩
  have := hopen.releaseAt_le
  dsimp only [Bus.off]
  omega

theorem InIteration.pass (hmono : Monotone clock) (n : Nat) (h : InIteration clock d D start late b)
    : InIteration clock d D start late (b.pass n) := by
  have hle : clock b.events ≤ clock (b.events + n) := hmono (by omega)
  have hstart := h.start_le
  constructor
  . dsimp only [Bus.pass]
    omega
  . intro hend
    have hend : clock (b.events + n) ≤ start + D := hend
    have hbus := h.inTime (by omega)
    refine ⟨hbus.pulseDurationMs, hbus.chain, hbus.idle, ?_⟩
    intro hpending
    rcases hbus.pending hpending with ⟨hlate, began, hopen⟩
    exact ⟨hlate, began, hopen.last, hopen.request, hopen.releaseAt_le⟩

theorem sent_inTime (hmono : Monotone clock) (hbound : ∀ n, clock n + d.toNat < 2 ^ 32)
    (hduration : b.locoNetTransport.pulseDurationMs = d) (hstart : start ≤ clock b.events)
    (hend : clock (b.events + 3) ≤ start + D) {log : List Sent}
    (hchain : log.IsChain (Ends (d.toNat + 3 * D)))
    (hoff : ∀ last ∈ log.getLast?, last.request.outputOn = false) {time : Nat} (htime : start ≤ time)
    (sender : Sender) (command : TurnoutCommand)
    : InTime d D start late (b.sent clock command log time sender) := by
  have hle : clock b.events ≤ clock (b.events + 2) := hmono (by omega)
  have hle' : clock (b.events + 2) ≤ clock (b.events + 3) := hmono (by omega)
  have hrelease : (b.now clock 2 + b.locoNetTransport.pulseDurationMs).toNat
      = clock (b.events + 2) + d.toNat := by
    rw [hduration, BitVec.toNat_add, now_toNat hbound]
    rw [Nat.mod_eq_of_lt (hbound _)]
  refine ⟨hduration, Ends.chain_on hchain hoff _, by simp [Bus.sent], ?_⟩
  intro _
  constructor
  . dsimp only [Bus.sent]
    omega
  . refine ⟨on time sender command, by simp [Bus.sent], rfl, ?_⟩
    dsimp only [Bus.sent, on]
    omega

theorem send_inIteration (hmono : Monotone clock) (hbound : ∀ n, clock n + d.toNat < 2 ^ 32)
    (hlate : late ≤ D) (h : InIteration clock d D start late b) (sender : Sender)
    (command : TurnoutCommand)
    : InIteration clock d D start late (b.send clock sender command) := by
  have hle₁ : clock b.events ≤ clock (b.events + 1) := hmono (by omega)
  have hle₃ : clock b.events ≤ clock (b.events + 3) := hmono (by omega)
  have hstart := h.start_le
  constructor
  . dsimp only [Bus.send]
    omega
  . intro hend
    have hend : clock (b.events + 3) ≤ start + D := hend
    have hbus := h.inTime (by omega)
    cases hpending : b.locoNetTransport.releasePending with
    | false =>
      rw [send_of_idle hpending]
      apply sent_inTime hmono hbound hbus.pulseDurationMs hstart hend hbus.chain
      . exact hbus.idle hpending
      . exact hstart
    | true =>
      rw [send_of_pending hpending]
      apply sent_inTime hmono hbound hbus.pulseDurationMs hstart hend
      . apply hbus.chain_off hlate hpending
        omega
      . simp [Bus.off]
      . omega

theorem sendAll_inIteration (hmono : Monotone clock) (hbound : ∀ n, clock n + d.toNat < 2 ^ 32)
    (hlate : late ≤ D) (sender : Sender) (commands : List TurnoutCommand)
    (h : InIteration clock d D start late b)
    : InIteration clock d D start late (b.sendAll clock sender commands) := by
  induction commands generalizing b with
  | nil => exact h
  | cons command commands ih =>
    apply ih
    apply send_inIteration hmono hbound hlate h sender command

theorem update_inIteration (hmono : Monotone clock) (hbound : ∀ n, clock n + d.toNat < 2 ^ 32)
    (h : InIteration clock d D start D b)
    : InIteration clock d D start 0 (b.update clock) := by
  have hle₁ : clock b.events ≤ clock (b.events + 1) := hmono (by omega)
  have hle₂ : clock (b.events + 1) ≤ clock (b.events + 2) := hmono (by omega)
  have hstart := h.start_le
  constructor
  . dsimp only [Bus.update]
    omega
  . intro hend
    have hend : clock (b.events + 2) ≤ start + D := hend
    have hbus := h.inTime (by omega)
    unfold Bus.update PulsingLocoNetTransport.update
    dsimp only
    split
    . next hdue =>
      rw [Bool.and_eq_true] at hdue
      have htime : clock (b.events + 1) ≤ start + D := by omega
      have hchain := hbus.chain_off (Nat.le_refl D) hdue.1 htime .release
      refine ⟨hbus.pulseDurationMs, hchain, ?_, ?_⟩
      . simp [Bus.stamp, PulsingLocoNetTransport.releasePendingSwitch]
      . simp [PulsingLocoNetTransport.releasePendingSwitch]
    . next hdue =>
      refine ⟨hbus.pulseDurationMs, by simpa [Bus.stamp] using hbus.chain,
        by simpa [Bus.stamp] using hbus.idle, ?_⟩
      intro hpending
      rcases hbus.pending hpending with ⟨_, began, hopen⟩
      have hnow := now_toNat hbound b 0
      rw [hpending, Bool.true_and, decide_eq_true_eq, BitVec.le_def, hnow, Nat.add_zero] at hdue
      constructor
      . dsimp only
        omega
      . exact ⟨began, by simpa [Bus.stamp] using hopen.last, hopen.request, hopen.releaseAt_le⟩

theorem updateStations_inIteration (hmono : Monotone clock)
    (hbound : ∀ n, clock n + d.toNat < 2 ^ 32) (hlate : late ≤ D) (input : LoopInput) (i : Nat)
    (stations : List TurnoutStation) (h : InIteration clock d D start late b)
    : InIteration clock d D start late (Panel.updateStations clock input i stations b).2 := by
  induction stations generalizing i b with
  | nil => exact h
  | cons station stations ih =>
    apply ih
    apply sendAll_inIteration hmono hbound hlate
    exact h.pass hmono 4

end

namespace Panel

variable {ρ : Type u} {port : ConfigurationRepository ρ} {toInt : Int → Int} {clock : Nat → Nat}
variable {d : Millis} {D start : Nat}

-- The iteration and the pause after it take no more than `D` ms.
def Prompt (port : ConfigurationRepository ρ) (toInt : Int → Int) (clock : Nat → Nat) (D : Nat)
    (p : Panel ρ) (input : LoopInput) : Prop :=
  clock (p.loop port toInt clock input).1.bus.events ≤ clock p.bus.events + D

instance (p : Panel ρ) (input : LoopInput) : Decidable (Prompt port toInt clock D p input) :=
  Nat.decLe _ _

theorem updateInputs_inIteration (hmono : Monotone clock) (hbound : ∀ n, clock n + d.toNat < 2 ^ 32)
    {p : Panel ρ} (h : InIteration clock d D start D p.bus) (input : LoopInput)
    : InIteration clock d D start 0 (p.updateInputs clock input).bus := by
  apply InIteration.pass hmono 4
  apply update_inIteration hmono hbound
  apply updateStations_inIteration hmono hbound (Nat.le_refl D)
  exact h

theorem startIf_inIteration (hmono : Monotone clock) (hbound : ∀ n, clock n + d.toNat < 2 ^ 32)
    {p : Panel ρ} (h : InIteration clock d D start 0 p.bus) (pressed : Bool) (route : Route)
    : InIteration clock d D start 0 (if pressed then p.startRoute clock route else p).bus := by
  split
  . apply InIteration.pass hmono 4
    apply sendAll_inIteration hmono hbound (Nat.zero_le D)
    exact h
  . exact h

theorem startPressed_inIteration (hmono : Monotone clock) (hbound : ∀ n, clock n + d.toNat < 2 ^ 32)
    {p : Panel ρ} (h : InIteration clock d D start 0 p.bus)
    : InIteration clock d D start 0 (p.startPressed clock).bus := by
  apply startIf_inIteration hmono hbound
  apply startIf_inIteration hmono hbound h _ _

theorem updateRoute_inIteration (hmono : Monotone clock) (hbound : ∀ n, clock n + d.toNat < 2 ^ 32)
    {p : Panel ρ} (h : InIteration clock d D start 0 p.bus)
    : InIteration clock d D start 0 (p.updateRoute clock).bus := by
  apply InIteration.pass hmono 4
  apply sendAll_inIteration hmono hbound (Nat.zero_le D)
  exact h.pass hmono 1

theorem loop_inTime (hmono : Monotone clock) (hbound : ∀ n, clock n + d.toNat < 2 ^ 32)
    {p : Panel ρ} {input : LoopInput} (hprompt : Prompt port toInt clock D p input)
    (h : InTime d D (clock p.bus.events) D p.bus)
    : let q := (p.loop port toInt clock input).1
      InTime d D (clock q.bus.events) D q.bus := by
  intro q
  have hbegin : InIteration clock d D (clock p.bus.events) D p.bus := ⟨Nat.le_refl _, fun _ => h⟩
  have hinputs := updateInputs_inIteration hmono hbound hbegin input
  have hstarted := startPressed_inIteration hmono hbound hinputs
  have hupdated := updateRoute_inIteration hmono hbound hstarted
  have hbus : InTime d D (clock p.bus.events) 0 q.bus := hupdated.inTime hprompt
  refine ⟨hbus.pulseDurationMs, hbus.chain, hbus.idle, ?_⟩
  intro hpending
  rcases hbus.pending hpending with ⟨hlate, hopen⟩
  refine ⟨?_, hopen⟩
  have hprompt : clock q.bus.events ≤ clock p.bus.events + D := hprompt
  omega

theorem new_inTime (spacing : Millis) (firstRoute secondRoute : Route)
    (session : MegaCommissioningSession ρ)
    : InTime d D start D (new d spacing firstRoute secondRoute session).bus := by
  refine ⟨rfl, .nil, ?_, ?_⟩
  . simp [new]
  . simp [new]

/--
In every run of the loop whose iterations take `D` ms at most, each ON request to the switch driver is
followed by the OFF request for the same output, no more than three iterations after the pulse was due to
end; and between two iterations no coil has been energised for longer than two iterations more than that.
-/
theorem coils_released (hmono : Monotone clock) (hbound : ∀ n, clock n + d.toNat < 2 ^ 32)
    (spacing : Millis) (firstRoute secondRoute : Route) (session : MegaCommissioningSession ρ)
    (inputs : List LoopInput)
    (hprompt : Along (loop port toInt clock) (Prompt port toInt clock D)
      (new d spacing firstRoute secondRoute session) inputs)
    : let b := (run (loop port toInt clock)
        (new d spacing firstRoute secondRoute session) inputs).1.bus
      b.log.IsChain (Ends (d.toNat + 3 * D))
        ∧
      ∀ last ∈ b.log.getLast?, last.request.outputOn →
        clock b.events ≤ last.time + (d.toNat + 2 * D) := by
  intro b
  have hbus : InTime d D (clock b.events) D b := by
    apply run_invariant_along (loop port toInt clock) _ (I := fun p : Panel ρ =>
      InTime d D (clock p.bus.events) D p.bus) _ _ hprompt
    . intro p input hprompt h
      exact loop_inTime hmono hbound hprompt h
    . apply new_inTime spacing firstRoute secondRoute session
  constructor
  . exact hbus.chain
  . intro last hlast hon
    cases hpending : b.locoNetTransport.releasePending with
    | false =>
      rw [hbus.idle hpending last hlast] at hon
      contradiction
    | true =>
      rcases hbus.pending hpending with ⟨hlate, began, hopen⟩
      rw [hopen.last, Option.mem_some_iff] at hlast
      subst hlast
      have := hopen.releaseAt_le
      omega

theorem coils_released_route1
    : let clock := fun n => min (10 * n) 9999
      let input : LoopInput := {
        throwRaw := fun _ => false
        closeRaw := fun _ => false
        report := none
        route1Raw := true
        route2Raw := false
        serial := []
      }
      let p := setup (⟨{}, .buildDefaultConfig⟩ : MegaCommissioningSession _)
      let b := (run (loop InMemoryConfigurationRepository.repository id clock) p
        (List.replicate 10 input)).1.bus
      b.log.length = 4
        ∧
      b.log.IsChain (Ends (LOCONET_PULSE_DURATION_MS.toNat + 3 * 350))
        ∧
      ∀ last ∈ b.log.getLast?, last.request.outputOn →
        clock b.events ≤ last.time + (LOCONET_PULSE_DURATION_MS.toNat + 2 * 350) := by
  intro clock input p b
  refine ⟨by decide +kernel, ?_⟩
  apply coils_released (D := 350)
  . intro m n h
    dsimp only [clock]
    omega
  . intro n
    have : LOCONET_PULSE_DURATION_MS.toNat = 250 := by decide
    dsimp only [clock]
    omega
  . decide +kernel

end Panel

end Mega

end Maltbee
