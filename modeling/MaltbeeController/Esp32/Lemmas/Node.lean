import MaltbeeController.Esp32.Impl.Node
import MaltbeeController.McsCore.Lemmas.Button

/-!
This module contains what the parts of the ESP32 loops keep once another node with the same id has been
noticed: the guard stays latched, the gates stay closed and no turnout moves.
-/

namespace Maltbee

namespace Esp32

@[simp]
theorem commands_append (effects more : List Effect)
    : commands (effects ++ more) = commands effects ++ commands more := by
  simp [commands]

theorem commands_eq_nil_iff {effects : List Effect}
    : commands effects = [] ↔ ∀ e ∈ effects, e.command? = none := by
  simp [commands]

@[simp]
theorem commands_drive (rows : List RowWrite) : commands (rows.map .drive) = [] := by
  simp [commands, Effect.command?]

namespace StationUnit

variable {β : Type u} {δ : Type v}

-- A closed gate shows the button as released, so no tick can find a press.
theorem update_of_suppressed (u : StationUnit β δ) (hgate : u.gatedButton.suppressed = true)
    (inner : Bool) (now₁ now₂ : Millis)
    : (u.update inner now₁ now₂).2 = [] := by
  simp only [update, ToggleTurnoutStation.update, ToggleTurnoutControl.update]
  split
  . rfl
  . next hpressed =>
    simp only [Bool.not_eq_true', Bool.not_eq_false] at hpressed
    have hraw := Button.raw_of_wasPressed_update _ _ _ _ hpressed
    simp [GatedDigitalInput.isActive, hgate] at hraw

end StationUnit

namespace Node

variable {N : Nat} {β : Type u} {δ : Type v}

def AllSuppressed (n : Node N β δ) : Prop :=
  ∀ u ∈ n.units, u.gatedButton.suppressed = true

-- From `n` to `n'` nothing of the isolation is lost.
structure Isolates (n n' : Node N β δ) : Prop where
  latched : n.identityGuard.collisionDetected = true → n'.identityGuard.collisionDetected = true
  suppressed : n.AllSuppressed → n'.AllSuppressed
  positions_eq : n'.positions = n.positions

namespace Isolates

theorem refl (n : Node N β δ) : Isolates n n where
  latched := id
  suppressed := id
  positions_eq := rfl

theorem trans {n₁ n₂ n₃ : Node N β δ} (h₁ : Isolates n₁ n₂) (h₂ : Isolates n₂ n₃)
    : Isolates n₁ n₃ where
  latched := h₂.latched ∘ h₁.latched
  suppressed := h₂.suppressed ∘ h₁.suppressed
  positions_eq := h₂.positions_eq.trans h₁.positions_eq

theorem of_units_eq {n n' : Node N β δ} (hunits : n'.units = n.units)
    (hguard : n.identityGuard.collisionDetected = true →
      n'.identityGuard.collisionDetected = true)
    : Isolates n n' where
  latched := hguard
  suppressed := by simp [AllSuppressed, hunits]
  positions_eq := by simp [positions, hunits]

theorem mapUnits (n : Node N β δ) {f : Nat → StationUnit β δ → StationUnit β δ}
    (hgate : ∀ i u, u.gatedButton.suppressed = true → (f i u).gatedButton.suppressed = true)
    (hstation : ∀ i u, (f i u).station.turnout = u.station.turnout)
    : Isolates n (n.mapUnits f) where
  latched := id
  suppressed := by
    intro h u hu
    rcases List.mem_mapIdx.mp hu with ⟨i, hi, rfl⟩
    apply hgate
    exact h _ (List.getElem_mem hi)
  positions_eq := by
    apply List.ext_getElem?
    intro i
    simp [positions, Node.mapUnits, hstation, Function.comp_def]

end Isolates

variable (n : Node N β δ) (input : LoopInput N)

theorem pollSerial_isolates : Isolates n (n.pollSerial input).1 := by
  apply Isolates.of_units_eq
  . rfl
  . exact id

theorem pollSerial_commands : commands (n.pollSerial input).2 = [] := by
  rw [commands_eq_nil_iff]
  simp [pollSerial, Effect.command?]

theorem pollPortal_isolates
    : Isolates n (n.pollPortal input).1 ∧ commands (n.pollPortal input).2 = [] := by
  rw [commands_eq_nil_iff]
  apply StepRun.run_safe submit n (P := fun n' => Isolates n n')
  . intro n' form h
    constructor
    . apply Isolates.trans h
      apply Isolates.of_units_eq
      . rfl
      . exact id
    . simp [submit, Effect.command?]
  . apply Isolates.refl n

theorem updateSetupTrigger_isolates (active : Bool)
    : Isolates n (n.updateSetupTrigger active input) := by
  apply Isolates.of_units_eq
  . rfl
  . exact id

theorem logCollision_isolates (board : Str) (collision : Bool)
    : Isolates n (n.logCollision board collision).1 := by
  apply Isolates.of_units_eq
  . simp only [logCollision]
    split <;> rfl
  . simp only [logCollision]
    split <;> exact id

theorem logCollision_commands (board : Str) (collision : Bool)
    : commands (n.logCollision board collision).2 = [] := by
  simp only [logCollision]
  split <;> rfl

theorem gateButtons_isolates : Isolates n (n.gateButtons true) := by
  apply Isolates.mapUnits
  . intros
    rfl
  . intros
    rfl

theorem gateButtons_suppressed : (n.gateButtons true).AllSuppressed := by
  intro u hu
  rcases List.mem_mapIdx.mp hu with ⟨i, _, rfl⟩
  rfl

theorem checkIdentity_isolates (board : Str) (setupActive : Bool)
    (h : n.identityGuard.collisionDetected = true)
    : Isolates n (n.checkIdentity board setupActive input).1
        ∧
      (n.checkIdentity board setupActive input).1.AllSuppressed := by
  have hcollision
      : (n.updateSetupTrigger setupActive input).identityGuard.collisionDetected = true := h
  simp only [checkIdentity]
  rw [hcollision]
  constructor
  . apply Isolates.trans (updateSetupTrigger_isolates n input setupActive)
    apply Isolates.trans (logCollision_isolates _ board true)
    apply gateButtons_isolates
  . apply gateButtons_suppressed

theorem checkIdentity_commands (board : Str) (setupActive : Bool)
    : commands (n.checkIdentity board setupActive input).2 = [] := by
  apply logCollision_commands

theorem requestSetup_commands : commands (n.requestSetup input).2 = [] := by
  simp only [requestSetup]
  split
  . split <;> rfl
  . rfl

theorem onMacObserved_latched (g : NodeIdentityGuard) (mac : Str)
    (h : g.collisionDetected = true)
    : (g.onMacObserved mac).collisionDetected = true := by
  simp only [NodeIdentityGuard.onMacObserved]
  split
  . rfl
  . exact h

theorem deliver_isolates (message : MqttMessage) (now : Millis)
    : Isolates n (n.deliver message now) := by
  apply Isolates.of_units_eq
  . simp only [deliver]
    split
    . rfl
    . split <;> rfl
  . simp only [deliver]
    split
    . apply onMacObserved_latched n.identityGuard message.payload
    . split <;> exact id

theorem pollMqtt_isolates : Isolates n (n.pollMqtt input) := by
  simp only [pollMqtt]
  split
  . apply List.foldlRecOn _ _ (Isolates.refl n)
    intro n' h message _
    apply Isolates.trans h
    apply deliver_isolates
  . apply Isolates.refl n

theorem announce_isolates (connected : Bool) : Isolates n (n.announce connected input).1 := by
  apply Isolates.of_units_eq
  . rfl
  . exact id

theorem announce_commands (connected : Bool)
    : commands (n.announce connected input).2 = [] := by
  rw [commands_eq_nil_iff]
  simp [announce, Effect.command?]

theorem updateStations_commands (read : β → Bool) (hgates : n.AllSuppressed)
    : (n.updateStations read input).2 = [] := by
  simp only [updateStations, List.flatMap_eq_nil_iff]
  intro res hres
  rcases List.mem_mapIdx.mp hres with ⟨i, hi, rfl⟩
  apply StationUnit.update_of_suppressed
  exact hgates _ (List.getElem_mem hi)

theorem updateStations_isolates (read : β → Bool)
    : Isolates n (n.updateStations read input).1 := by
  have hunits
      : (n.updateStations read input).1
          =
        n.mapUnits fun i u =>
          (u.update (read u.button) (input.now (.station i 0)) (input.now (.station i 1))).1 := by
    simp only [updateStations, Node.mapUnits]
    congr 1
    apply List.ext_getElem?
    simp [Function.comp_def]
  rw [hunits]
  apply Isolates.mapUnits
  . intro i u h
    exact h
  . intros
    rfl

variable [LedPairStation δ]

theorem clearIndicators_isolates : Isolates n (n.clearIndicators input) := by
  apply Isolates.mapUnits
  . intro i u h
    exact h
  . intros
    rfl

theorem identify_isolates : Isolates n (n.identify input) := by
  simp only [identify]
  split
  . apply Isolates.mapUnits
    . intro i u h
      exact h
    . intros
      rfl
  . apply Isolates.refl n

theorem updateLeds_isolates : Isolates n (n.updateLeds input) := by
  apply Isolates.mapUnits
  . intro i u h
    exact h
  . intros
    rfl

theorem serveSetup_isolates : Isolates n (n.serveSetup input).1 := by
  apply Isolates.trans (pollPortal_isolates n input).1
  apply updateLeds_isolates

theorem serveSetup_commands : commands (n.serveSetup input).2 = [] := by
  exact (pollPortal_isolates n input).2

theorem cleared_isolates (connected : Bool)
    : Isolates n
        (((((n.pollMqtt input).announce connected input).1.clearIndicators input).identify
          input).updateLeds input) := by
  apply Isolates.trans (pollMqtt_isolates n input)
  apply Isolates.trans (announce_isolates _ input connected)
  apply Isolates.trans (clearIndicators_isolates _ input)
  apply Isolates.trans (identify_isolates _ input)
  apply updateLeds_isolates

end Node

end Esp32

end Maltbee
