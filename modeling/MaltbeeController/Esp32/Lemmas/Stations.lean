import MaltbeeController.Esp32.Lemmas.Node
import MaltbeeController.Esp32.Lemmas.Tick
import MaltbeeController.McsCore.Lemmas.StationPanel
import MaltbeeController.McsCore.Lemmas.TurnoutStation
import MaltbeeController.McsEsp32.Lemmas.IndependentLedPairDriver
import MaltbeeController.McsEsp32.Lemmas.ToggleTurnoutStation

/-!
This module contains the proof that the stations of the ESP32 boards do not interfere with each other,
whichever of the two drivers their LED pairs have, and that both main loops run them in this way.
-/

namespace Maltbee

namespace Esp32

open StepRun (run run_cons run_append)

variable {β : Type u} {δ : Type v} [LedPairStation δ]

inductive UnitEvent where
  | update (inner : Bool) (now₁ now₂ : Millis)
  | feedback (feedback : TurnoutFeedback) (now₁ now₂ : Millis)
  | clearIndicator (now₁ now₂ : Millis)
  | setSuppressed (suppressed : Bool)
  | setIdentifying (active : Bool) (now : Millis)
  | updateLeds (now : Millis)

-- What happens to all stations of a board at once. `now i k` is reading number `k` for station `i`.
inductive UnitsEvent where
  | update (inner : Nat → Bool) (now : Nat → Nat → Millis)
  | feedback (feedback : TurnoutFeedback) (now : Nat → Nat → Millis)
  | clearIndicators (now : Nat → Nat → Millis)
  | setSuppressed (suppressed : Bool)
  | setIdentifying (active : Bool) (now : Nat → Millis)
  | updateLeds (now : Nat → Millis)

namespace StationUnit

theorem address_applyFeedback (u : StationUnit β δ) (feedback : TurnoutFeedback) (now₁ now₂ : Millis)
    : (u.applyFeedback feedback now₁ now₂).station.turnout.address = u.station.turnout.address := by
  unfold applyFeedback ToggleTurnoutStation.applyFeedback
  split
  . rfl
  . dsimp only
    split
    . simp
    . simp

theorem applyFeedback_of_ne (u : StationUnit β δ) {feedback : TurnoutFeedback}
    (h : feedback.address ≠ u.station.turnout.address) (now₁ now₂ : Millis)
    : u.applyFeedback feedback now₁ now₂ = u := by
  unfold applyFeedback
  rw [ToggleTurnoutStation.applyFeedback_of_ne h]

theorem applyFeedback_applyFeedback [SettlingStation δ] (u : StationUnit β δ)
    (feedback : TurnoutFeedback) (now₁ now₂ now₃ now₄ : Millis)
    : (u.applyFeedback feedback now₁ now₂).applyFeedback feedback now₃ now₄
        =
      u.applyFeedback feedback now₁ now₂ := by
  by_cases h : feedback.address = u.station.turnout.address
  . unfold applyFeedback ToggleTurnoutStation.applyFeedback
    cases feedback.position with
    | closed => simp [h, TurnoutIndicator.display_display]
    | thrown => simp [h, TurnoutIndicator.display_display]
  . rw [applyFeedback_of_ne u h, applyFeedback_of_ne u h]

omit [LedPairStation δ] in
theorem address_of_mem_update (u : StationUnit β δ) (inner : Bool) (now₁ now₂ : Millis)
    : ∀ command ∈ (u.update inner now₁ now₂).2, command.address = u.station.turnout.address := by
  intro command hcommand
  simp only [update, ToggleTurnoutStation.update, ToggleTurnoutControl.update] at hcommand
  split at hcommand
  . contradiction
  . rw [List.mem_singleton.mp hcommand]

def react (u : StationUnit β δ) (e : UnitEvent) : StationUnit β δ × List TurnoutCommand :=
  match e with
  | .update inner now₁ now₂ => u.update inner now₁ now₂
  | .feedback feedback now₁ now₂ => (u.applyFeedback feedback now₁ now₂, [])
  | .clearIndicator now₁ now₂ => (u.clearIndicator now₁ now₂, [])
  | .setSuppressed suppressed =>
    ({ u with gatedButton := u.gatedButton.setSuppressed suppressed }, [])
  | .setIdentifying active now =>
    ({ u with ledStation := LedPairStation.setIdentifying u.ledStation active now }, [])
  | .updateLeds now => ({ u with ledStation := LedPairStation.update u.ledStation now }, [])

end StationUnit

namespace UnitsEvent

def view (i : Nat) (e : UnitsEvent) : UnitEvent :=
  match e with
  | .update inner now => .update (inner i) (now i 0) (now i 1)
  | .feedback applied now => .feedback applied (now i 0) (now i 1)
  | .clearIndicators now => .clearIndicator (now i 0) (now i 1)
  | .setSuppressed suppressed => .setSuppressed suppressed
  | .setIdentifying active now => .setIdentifying active (now i)
  | .updateLeds now => .updateLeds (now i)

def reported (e : UnitsEvent) : Option (Option TurnoutFeedback) :=
  match e with
  | .feedback applied _ => some (some applied)
  | _ => none

end UnitsEvent

variable (β δ)

def stationPanel : StationPanel (StationUnit β δ) UnitEvent UnitsEvent where
  react := StationUnit.react
  view := UnitsEvent.view
  address := fun u => u.station.turnout.address
  reported := UnitsEvent.reported

theorem stationPanel_lawful [SettlingStation δ] : (stationPanel β δ).Lawful := by
  constructor
  . intro u e
    cases e with
    | feedback feedback now₁ now₂ => apply StationUnit.address_applyFeedback
    | update => rfl
    | clearIndicator => rfl
    | setSuppressed => rfl
    | setIdentifying => rfl
    | updateLeds => rfl
  . intro u e
    cases e with
    | update inner now₁ now₂ => apply StationUnit.address_of_mem_update
    | feedback => simp [stationPanel, StationUnit.react]
    | clearIndicator => simp [stationPanel, StationUnit.react]
    | setSuppressed => simp [stationPanel, StationUnit.react]
    | setIdentifying => simp [stationPanel, StationUnit.react]
    | updateLeds => simp [stationPanel, StationUnit.react]
  . intro u i e he
    cases e with
    | feedback feedback now =>
      simp only [stationPanel, StationUnit.react, UnitsEvent.view]
      rw [StationUnit.applyFeedback_of_ne]
      apply of_decide_eq_false
      exact he
    | _ => contradiction
  . intro u i e he
    cases e with
    | feedback feedback now => rfl
    | _ => contradiction
  . intro u i e e' feedback he he'
    cases e with
    | feedback first now =>
      cases e' with
      | feedback second now' =>
        simp only [stationPanel, UnitsEvent.reported, Option.some.injEq] at he he'
        simp only [stationPanel, StationUnit.react, UnitsEvent.view]
        rw [he, he']
        apply StationUnit.applyFeedback_applyFeedback
      | _ => contradiction
    | _ => contradiction

namespace Node

variable {β δ} {N : Nat} (n : Node N β δ) (input : LoopInput N)

/-
From `n` to `n'` the stations take part in some events of the board, in which no feedback is applied that
is not among `reports`, and send `sent`.
-/
def Runs (reports : List TurnoutFeedback) (n n' : Node N β δ) (sent : List TurnoutCommand) : Prop :=
  ∃ events : List UnitsEvent,
    (∀ e ∈ events, ∀ feedback, e.reported = some (some feedback) → feedback ∈ reports) ∧
      run (stationPanel β δ).step n.units events = (n'.units, sent)

variable {n} {reports : List TurnoutFeedback}

theorem Runs.of_units_eq {n' : Node N β δ} (h : n'.units = n.units) : Runs reports n n' [] := by
  refine ⟨[], by simp, ?_⟩
  rw [h]
  rfl

theorem Runs.trans {n₁ n₂ n₃ : Node N β δ} {sent more : List TurnoutCommand}
    (h₁ : Runs reports n₁ n₂ sent) (h₂ : Runs reports n₂ n₃ more)
    : Runs reports n₁ n₃ (sent ++ more) := by
  rcases h₁ with ⟨events₁, hreports₁, hrun₁⟩
  rcases h₂ with ⟨events₂, hreports₂, hrun₂⟩
  refine ⟨events₁ ++ events₂, ?_, ?_⟩
  . intro e he
    rcases List.mem_append.mp he with he | he
    . exact hreports₁ e he
    . exact hreports₂ e he
  . rw [run_append, hrun₁, hrun₂]

theorem Runs.quiet_trans {n₁ n₂ n₃ : Node N β δ} {sent : List TurnoutCommand}
    (h₁ : Runs reports n₁ n₂ []) (h₂ : Runs reports n₂ n₃ sent)
    : Runs reports n₁ n₃ sent := by
  have := h₁.trans h₂
  rwa [List.nil_append] at this

theorem mapUnits_runs {f : Nat → StationUnit β δ → StationUnit β δ} (e : UnitsEvent)
    (he : ∀ feedback, e.reported = some (some feedback) → feedback ∈ reports)
    (hf : ∀ i u, StationUnit.react u (e.view i) = (f i u, []))
    : Runs reports n (n.mapUnits f) [] := by
  refine ⟨[e], by simpa using he, ?_⟩
  rw [StepRun.run_singleton]
  apply Prod.ext
  . apply List.ext_getElem?
    intro i
    simp [StationPanel.step, Broadcast.step_component, stationPanel, hf, mapUnits]
  . simp only [StationPanel.step, Broadcast.step, stationPanel, hf, List.flatMap_eq_nil_iff,
      List.mem_mapIdx]
    rintro res ⟨i, hi, rfl⟩
    rfl

variable (n)

theorem applyFeedback_runs {feedback : TurnoutFeedback} (h : feedback ∈ reports) (m : Nat)
    : Runs reports n (n.applyFeedback feedback m input) [] := by
  apply mapUnits_runs (.feedback feedback fun i k => input.now (.feedback m i k))
  . intro applied happlied
    simp only [UnitsEvent.reported, Option.some.injEq] at happlied
    rw [← happlied]
    exact h
  . intros
    rfl

theorem clearIndicators_runs : Runs reports n (n.clearIndicators input) [] := by
  apply mapUnits_runs (.clearIndicators fun i k => input.now (.clear i k))
  . simp [UnitsEvent.reported]
  . intros
    rfl

theorem gateButtons_runs (collision : Bool) : Runs reports n (n.gateButtons collision) [] := by
  apply mapUnits_runs (.setSuppressed collision)
  . simp [UnitsEvent.reported]
  . intros
    rfl

theorem identify_runs : Runs reports n (n.identify input) [] := by
  unfold identify
  split
  . apply mapUnits_runs (.setIdentifying (n.identifyTimer.isActive (input.now .identify))
      fun i => input.now (.setIdentifying i))
    . simp [UnitsEvent.reported]
    . intros
      rfl
  . apply Runs.of_units_eq
    rfl

theorem updateLeds_runs : Runs reports n (n.updateLeds input) [] := by
  apply mapUnits_runs (.updateLeds fun i => input.now (.led i))
  . simp [UnitsEvent.reported]
  . intros
    rfl

theorem updateStations_runs (read : β → Bool)
    : Runs reports n (n.updateStations read input).1 (n.updateStations read input).2 := by
  let inner (i : Nat) : Bool := (n.units[i]?.map fun u => read u.button).getD false
  refine ⟨[.update inner fun i k => input.now (.station i k)], by simp [UnitsEvent.reported], ?_⟩
  rw [StepRun.run_singleton]
  have hupdates
      : (n.units.mapIdx fun i u => u.update (inner i) (input.now (.station i 0))
          (input.now (.station i 1)))
          =
        n.units.mapIdx fun i u => u.update (read u.button) (input.now (.station i 0))
          (input.now (.station i 1)) := by
    apply List.ext_getElem?
    intro i
    cases hi : n.units[i]? with
    | none => simp [hi]
    | some u => simp [hi, inner]
  simp only [StationPanel.step, Broadcast.step, stationPanel, StationUnit.react, UnitsEvent.view,
    updateStations]
  rw [hupdates]

section Untouched

omit [LedPairStation δ]

theorem deliver_units (message : MqttMessage) (now : Millis)
    : (n.deliver message now).units = n.units := by
  unfold deliver
  split
  . rfl
  . split <;> rfl

theorem pollMqtt_units : (n.pollMqtt input).units = n.units := by
  unfold pollMqtt
  split
  . apply List.foldlRecOn (motive := fun n' : Node N β δ => n'.units = n.units)
    . rfl
    . intro n' h message _
      rw [deliver_units, h]
  . rfl

theorem pollPortal_units : (n.pollPortal input).1.units = n.units := by
  apply StepRun.run_invariant submit n (P := fun n' => n'.units = n.units)
  . rfl
  . intro n' form h
    exact h

end Untouched

theorem checkIdentity_runs (board : Str) (setupActive : Bool)
    : Runs reports n (n.checkIdentity board setupActive input).1 [] := by
  apply Runs.quiet_trans _ (gateButtons_runs _ _)
  apply Runs.of_units_eq
  simp only [logCollision]
  split <;> rfl

theorem serveSetup_runs : Runs reports n (n.serveSetup input).1 [] := by
  apply Runs.quiet_trans _ (updateLeds_runs _ input)
  apply Runs.of_units_eq
  apply pollPortal_units

theorem foldl_applyFeedback_runs {updates : List (Loco2MqttStateUpdate × Nat)}
    (h : ∀ u ∈ updates, BasicLoco2MqttFeedbackSource.poll u.1 ∈ reports)
    : Runs reports n
        (updates.foldl
          (fun node u => node.applyFeedback (BasicLoco2MqttFeedbackSource.poll u.1) u.2 input) n)
        [] := by
  induction updates generalizing n with
  | nil => apply Runs.of_units_eq rfl
  | cons u updates ih =>
    rw [List.forall_mem_cons] at h
    apply Runs.quiet_trans (applyFeedback_runs n input h.1 u.2)
    exact ih _ h.2

theorem listened_runs {listened : Node N β δ} (h : Runs reports n listened []) (read : β → Bool)
    : Runs reports n
        (((listened.identify input).updateLeds input).updateStations read input).1
        (((listened.identify input).updateLeds input).updateStations read input).2 := by
  apply Runs.quiet_trans h
  apply Runs.quiet_trans (identify_runs listened input)
  apply Runs.quiet_trans (updateLeds_runs _ input)
  apply updateStations_runs

omit [LedPairStation δ] in
theorem connected_units (connected : Bool)
    : ((n.pollMqtt input).announce connected input).1.units = n.units := by
  rw [← pollMqtt_units n input]
  rfl

omit [LedPairStation δ] in
theorem commands_flatMap_send (sent : List TurnoutCommand) : commands (sent.flatMap n.send) = sent := by
  induction sent with
  | nil => rfl
  | cons command sent ih =>
    have hsend : commands (n.send command) = [command] := by
      simp [send, commands, Effect.command?]
    rw [List.flatMap_cons, commands_append, hsend, ih]
    rfl

end Node

open Node (Runs)

def reports {N : Nat} (input : LoopInput N) : List TurnoutFeedback :=
  input.stateUpdates.map BasicLoco2MqttFeedbackSource.poll

theorem poll_mem_reports {N : Nat} (input : LoopInput N)
    : ∀ u ∈ input.stateUpdates.zipIdx, BasicLoco2MqttFeedbackSource.poll u.1 ∈ reports input := by
  intro u hu
  exact List.mem_map_of_mem (List.fst_mem_of_mem_zipIdx hu)

/-
Every tick that leaves a state is a run of the stations of the board in the sense of `stationPanel`. What
the tick commands is what they send.
-/
def RunsStations {N : Nat} {β : Type u} {δ : Type v} [LedPairStation δ] {σ : Type w}
    (loop : σ → LoopInput N → Option σ × List Effect) (node : σ → Node N β δ)
    : Prop :=
  ∀ s input, ∀ s' ∈ (loop s input).1,
    Runs (reports input) (node s) (node s') (commands (loop s input).2)

theorem BoardTick.run_runs {N : Nat} {β : Type u} {δ : Type v} [LedPairStation δ] {σ : Type w}
    {t : BoardTick N β δ σ} {node : σ → Node N β δ} {n : Node N β δ} {input : LoopInput N}
    (hwith : ∀ n', node (t.withNode n') = n') (hdriven : commands t.driven = [])
    (hattend : ∀ (n' : Node N β δ) collision, Runs (reports input) n n' [] →
      Runs (reports input) n (node (t.attend n' collision).1) (commands (t.attend n' collision).2))
    : ∀ s' ∈ (t.run n input).1, Runs (reports input) n (node s') (commands (t.run n input).2) := by
  have hpolled : Runs (reports input) n (n.pollSerial input).1 [] := .of_units_eq rfl
  intro s' hs'
  rcases run_cases hs' with ⟨served, rfl, rfl, heffects⟩ | ⟨checked, res, rfl, rfl, rfl, heffects⟩
  . rw [heffects, commands_append, Node.pollSerial_commands, Node.serveSetup_commands, hwith]
    apply hpolled.quiet_trans
    apply Node.serveSetup_runs
  . simp only [heffects, commands_append, Node.pollSerial_commands, hdriven,
      Node.checkIdentity_commands, Node.requestSetup_commands, List.nil_append]
    apply hattend
    apply hpolled.quiet_trans
    apply Node.checkIdentity_runs

namespace Panel

variable {N : Nat} (p : Panel N) (input : LoopInput N)

theorem attend_runs (collision : Bool) {n : Node N MatrixDigitalInput LedPairDriver}
    (h : Runs (reports input) n p.node [])
    : Runs (reports input) n (p.attend collision input).1.node
        (commands (p.attend collision input).2) := by
  apply h.quiet_trans
  simp only [attend, commands_append, Node.announce_commands, List.nil_append,
    Node.commands_flatMap_send]
  apply Node.listened_runs
  have hconnected := Node.connected_units p.node input (input.mqttConnected 0)
  apply Runs.quiet_trans (Runs.of_units_eq hconnected)
  split
  . apply Node.foldl_applyFeedback_runs _ _ (poll_mem_reports input)
  . apply Node.clearIndicators_runs

theorem loop_runsStations : RunsStations (Panel.loop (N := N)) Panel.node := by
  intro p input
  rw [loop_eq]
  apply BoardTick.run_runs
  . intro n'
    rfl
  . apply commands_drive
  . intro n' collision h
    exact attend_runs { p with node := n', matrixScanner := _ } input collision h

end Panel

namespace Node4

variable {N : Nat} (p : Node4 N) (input : LoopInput N)
variable {n : Node N ArduinoDigitalInput IndependentLedPairDriver}

theorem foldl_applyFeedback_runs (h : Runs (reports input) n p.node [])
    {updates : List (Loco2MqttStateUpdate × Nat)}
    (hupdates : ∀ u ∈ updates, BasicLoco2MqttFeedbackSource.poll u.1 ∈ reports input)
    : Runs (reports input) n
        (updates.foldl
          (fun p u => p.applyFeedback (BasicLoco2MqttFeedbackSource.poll u.1) u.2 input) p).node
        [] := by
  induction updates generalizing p with
  | nil => exact h
  | cons u updates ih =>
    rw [List.forall_mem_cons] at hupdates
    apply ih _ _ hupdates.2
    apply h.quiet_trans
    apply Node.applyFeedback_runs p.node input hupdates.1

theorem listen_runs (h : Runs (reports input) n p.node []) (listening : Bool)
    : Runs (reports input) n
        (if listening then
          input.stateUpdates.zipIdx.foldl
            (fun p u => p.applyFeedback (BasicLoco2MqttFeedbackSource.poll u.1) u.2 input) p
        else
          { p with node := p.node.clearIndicators input }).node
        [] := by
  split
  . apply foldl_applyFeedback_runs p input h (poll_mem_reports input)
  . apply h.quiet_trans
    apply Node.clearIndicators_runs

theorem attend_runs (collision : Bool) (h : Runs (reports input) n p.node [])
    : Runs (reports input) n (p.attend collision input).1.node
        (commands (p.attend collision input).2) := by
  apply h.quiet_trans
  simp only [attend, commands_append, Node.announce_commands, List.nil_append,
    Node.commands_flatMap_send]
  apply Node.listened_runs
  apply listen_runs
  apply Runs.of_units_eq
  apply Node.connected_units p.node input (input.mqttConnected 1)

theorem loop_runsStations : RunsStations (Node4.loop (N := N)) Node4.node := by
  intro p input
  rw [loop_eq]
  apply BoardTick.run_runs
  . intro n'
    rfl
  . rfl
  . intro n' collision h
    exact attend_runs { p with node := n' } input collision h

end Node4

theorem stationPanel_address_bootUnits {β : Type} {δ : Type} [LedPairStation δ] (bootMode : BootMode)
    (now : Nat → Nat → Millis) (wirings : List (β × Int × List Char))
    : (wirings.mapIdx (Node.bootUnit (δ := δ) bootMode now)).map (stationPanel β δ).address
        =
      wirings.map fun wiring => wiring.2.1 := by
  apply List.ext_getElem?
  intro i
  simp [Node.bootUnit, stationPanel, ToggleTurnoutStation.new, Turnout.new, Turnout.address,
    Function.comp_def]

theorem Panel.boot_nodup (ownMac : MacAddress) (configStore : BasicConfigStore 12)
    (runningConfig : BasicNodeConfig 12) (wirelessSetupRequested : Bool) (now : Nat → Nat → Millis)
    : ((boot ownMac configStore runningConfig wirelessSetupRequested now).node.units.map
        (stationPanel MatrixDigitalInput LedPairDriver).address).Nodup := by
  simp only [boot, Node.boot]
  rw [stationPanel_address_bootUnits]
  decide

theorem Node4.boot_nodup (ownMac : MacAddress) (configStore : BasicConfigStore 4)
    (runningConfig : BasicNodeConfig 4) (wirelessSetupRequested : Bool) (now : Nat → Nat → Millis)
    (now₁ now₂ : Millis)
    : ((boot ownMac configStore runningConfig wirelessSetupRequested now now₁ now₂).node.units.map
        (stationPanel ArduinoDigitalInput IndependentLedPairDriver).address).Nodup := by
  simp only [boot, Node.boot]
  rw [stationPanel_address_bootUnits]
  decide

end Esp32

end Maltbee
