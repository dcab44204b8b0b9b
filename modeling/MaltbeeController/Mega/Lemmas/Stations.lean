import MaltbeeController.McsCore.Lemmas.MegaCommissioningSession
import MaltbeeController.McsCore.Lemmas.StationPanel
import MaltbeeController.McsCore.Lemmas.TurnoutStation
import MaltbeeController.Mega.Impl.Loop

/-!
This module contains the proof that the stations of the Mega panel do not interfere with each other, and
that its main loop runs them in this way.
-/

namespace Maltbee

namespace LocoNetFeedbackDecoder

theorem decode_eq_none_iff (report : SwitchOutputsReport)
    : decode report = none ↔ report.closedOutputOn = report.thrownOutputOn := by
  unfold decode
  split
  . next h => simp [h]
  . next h => simp [h]

end LocoNetFeedbackDecoder

namespace Mega

open StepRun (run run_cons)

structure StationSample where
  throwRaw : Bool
  closeRaw : Bool
  now₁ : Millis
  now₂ : Millis
  now₃ : Millis
  now₄ : Millis

inductive StationEvent where
  | update (sample : StationSample)
  | report (report : SwitchOutputsReport)

inductive StationsEvent where
  | update (samples : Nat → StationSample)
  | report (report : SwitchOutputsReport)

def StationsEvent.report? (e : StationsEvent) : Option SwitchOutputsReport :=
  match e with
  | .update _ => none
  | .report received => some received

def react (s : TurnoutStation) (e : StationEvent) : TurnoutStation × List TurnoutCommand :=
  match e with
  | .update sample =>
    s.update sample.throwRaw sample.closeRaw sample.now₁ sample.now₂ sample.now₃ sample.now₄
  | .report report =>
    match LocoNetFeedbackDecoder.decode report with
    | none => (s, [])
    | some feedback => (s.applyFeedback feedback, [])

def stationPanel : StationPanel TurnoutStation StationEvent StationsEvent where
  react := react
  view := fun i e =>
    match e with
    | .update samples => .update (samples i)
    | .report report => .report report
  address := fun s => s.turnout.address
  reported := fun e =>
    match e with
    | .update _ => none
    | .report report => some (LocoNetFeedbackDecoder.decode report)

theorem stationPanel_lawful : stationPanel.Lawful := by
  constructor
  . intro s e
    cases e with
    | update sample => rfl
    | report report =>
      simp only [stationPanel, react]
      cases LocoNetFeedbackDecoder.decode report with
      | none => rfl
      | some feedback => apply TurnoutStation.address_applyFeedback
  . intro s e
    cases e with
    | update sample => apply TurnoutStation.address_of_mem_update
    | report report =>
      simp only [stationPanel, react]
      cases LocoNetFeedbackDecoder.decode report with
      | none => simp
      | some feedback => simp
  . intro s i e he
    cases e with
    | update samples => contradiction
    | report report =>
      simp only [stationPanel, react, StationPanel.concerns] at he ⊢
      cases hdecode : LocoNetFeedbackDecoder.decode report with
      | none => rfl
      | some feedback =>
        rw [hdecode] at he
        dsimp only
        rw [TurnoutStation.applyFeedback_of_ne]
        apply of_decide_eq_false
        exact he
  . intro s i e he
    cases e with
    | update samples => contradiction
    | report report =>
      simp only [stationPanel, react]
      cases LocoNetFeedbackDecoder.decode report with
      | none => rfl
      | some feedback => rfl
  . intro s i e e' feedback he he'
    cases e with
    | update samples => contradiction
    | report report =>
      cases e' with
      | update samples => contradiction
      | report report' =>
        simp only [stationPanel, react, Option.some.injEq] at he he' ⊢
        rw [he, he']
        apply TurnoutStation.applyFeedback_applyFeedback

theorem setup_nodup {ρ : Type u} {session : MegaCommissioningSession ρ}
    (hvalid : session.draft.validate)
    : ((Panel.setup session).stations.map stationPanel.address).Nodup := by
  have hdistinct := ((MegaConfig.validate_iff _).mp hvalid).2
  have hmap
      : (Panel.setup session).stations.map stationPanel.address
          =
        session.draft.stations.toList.map (·.address) := by
    simp only [Panel.setup, Panel.new, List.map_map]
    rfl
  rw [hmap, List.nodup_iff_pairwise_ne, List.pairwise_iff_getElem]
  intro i j hi hj hij
  simp only [List.getElem_map]
  have := hdistinct ⟨i, by simpa using hi⟩ ⟨j, by simpa using hj⟩ hij
  exact this.symm

namespace Panel

variable (clock : Nat → Nat) (input : LoopInput)

/-
The loop over the stations is one update of all of them. It sends what they command, station by station,
and the clock goes on while it does.
-/
theorem updateStations_step (i : Nat) (stations : List TurnoutStation) (bus : Bus)
    : ∃ (samples : Nat → StationSample) (commands : List (List TurnoutCommand)),
        (∀ n, (samples n).throwRaw = input.throwRaw (i + n) ∧
          (samples n).closeRaw = input.closeRaw (i + n)) ∧
        stationPanel.step stations (.update samples)
          = ((updateStations clock input i stations bus).1, commands.flatten) ∧
        (updateStations clock input i stations bus).2
          =
        commands.foldl (fun bus commands => (bus.pass 4).sendAll clock .station commands) bus := by
  induction stations generalizing i bus with
  | nil =>
    exact ⟨fun n => ⟨input.throwRaw (i + n), input.closeRaw (i + n), 0, 0, 0, 0⟩, [],
      fun n => ⟨rfl, rfl⟩, rfl, rfl⟩
  | cons station stations ih =>
    let first : StationSample := ⟨input.throwRaw i, input.closeRaw i, bus.now clock 0,
      bus.now clock 1, bus.now clock 2, bus.now clock 3⟩
    let res := react station (.update first)
    rcases ih (i + 1) ((bus.pass 4).sendAll clock .station res.2)
      with ⟨samples, commands, hsamples, hstep, hbus⟩
    let all (n : Nat) : StationSample := n.casesOn first samples
    have hrest
        : Broadcast.step react (fun i => stationPanel.view (i + 1)) stations (.update all)
            =
          stationPanel.step stations (.update samples) := by
      rfl
    refine ⟨all, res.2 :: commands, ?_, ?_, ?_⟩
    . intro n
      cases n with
      | zero => exact ⟨rfl, rfl⟩
      | succ n =>
        have := hsamples n
        rw [Nat.add_assoc, Nat.add_comm 1 n] at this
        exact this
    . rw [StationPanel.step, Broadcast.step_cons]
      rw [show stationPanel.react = react from rfl, hrest, hstep]
      rfl
    . exact hbus

theorem applyReport_run (report : Option SwitchOutputsReport) (stations : List TurnoutStation)
    : (run stationPanel.step stations (report.toList.map .report)).1 = applyReport report stations := by
  cases report with
  | none => rfl
  | some report =>
    apply List.ext_getElem?
    intro i
    rw [Option.toList_some, List.map_singleton, StepRun.run_singleton]
    rw [StationPanel.step, Broadcast.step_component]
    simp only [applyReport, stationPanel, react, Option.bind_some]
    cases LocoNetFeedbackDecoder.decode report with
    | none => simp
    | some feedback => simp

variable {ρ : Type u} (p : Panel ρ)

theorem startPressed_stations : (p.startPressed clock).stations = p.stations := by
  unfold startPressed
  dsimp only
  split
  . split <;> rfl
  . split <;> rfl

theorem updateRoute_stations : (p.updateRoute clock).stations = p.stations := by
  rfl

variable (port : ConfigurationRepository ρ) (toInt : Int → Int)

theorem loop_stations
    : ∃ samples : Nat → StationSample,
        (∀ n, (samples n).throwRaw = input.throwRaw n ∧ (samples n).closeRaw = input.closeRaw n) ∧
        (p.loop port toInt clock input).1.stations
          =
        (run stationPanel.step p.stations
          (.update samples :: input.report.toList.map .report)).1 := by
  rcases updateStations_step clock input 0 p.stations p.bus
    with ⟨samples, commands, hsamples, hstep, _⟩
  refine ⟨samples, ?_, ?_⟩
  . intro n
    have := hsamples n
    rwa [Nat.zero_add] at this
  . rw [run_cons, hstep]
    dsimp only
    rw [applyReport_run]
    simp only [loop]
    rw [updateRoute_stations, startPressed_stations]
    rfl

/-
Over any number of iterations the stations take part in a run of `stationPanel` in which the reports of the
bus, in their order, are the only ones.
-/
theorem run_loop_stations (inputs : List LoopInput)
    : ∃ events : List StationsEvent,
        events.filterMap StationsEvent.report? = inputs.filterMap (·.report) ∧
        (run (loop port toInt clock) p inputs).1.stations
          =
        (run stationPanel.step p.stations events).1 := by
  induction inputs generalizing p with
  | nil => exact ⟨[], rfl, rfl⟩
  | cons input inputs ih =>
    rcases loop_stations clock input p port toInt with ⟨samples, _, hloop⟩
    rcases ih (p.loop port toInt clock input).1 with ⟨events, hevents, hrun⟩
    refine ⟨.update samples :: input.report.toList.map .report ++ events, ?_, ?_⟩
    . rw [List.filterMap_append, hevents]
      cases hreport : input.report with
      | none =>
        rw [List.filterMap_cons_none hreport]
        rfl
      | some report =>
        rw [List.filterMap_cons_some hreport]
        rfl
    . rw [run_cons, hrun, hloop, StepRun.run_append]

end Panel

end Mega

end Maltbee
