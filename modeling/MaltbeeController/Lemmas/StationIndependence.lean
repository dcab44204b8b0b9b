import MaltbeeController.Esp32.Lemmas.Stations
import MaltbeeController.Mega.Lemmas.Stations

/-!
This module contains the proof that on each board a station is affected by nothing but its own buttons,
the clock and the feedback for its own address.
-/

namespace Maltbee

open StepRun (run)

/--
The stations of the Mega panel and those of the ESP32 boards are independent of each other, and a report
with both or neither of its outputs on changes none of them. The stations that each board sets up have
addresses of their own, and its loop does nothing else with them.
-/
theorem stations_independent
    : Mega.stationPanel.Independent
        ∧
      (∀ (report : SwitchOutputsReport) (stations : List TurnoutStation),
        report.closedOutputOn = report.thrownOutputOn →
          run Mega.stationPanel.step stations [.report report] = (stations, []))
        ∧
      (Esp32.stationPanel MatrixDigitalInput LedPairDriver).Independent
        ∧
      (Esp32.stationPanel ArduinoDigitalInput IndependentLedPairDriver).Independent
        ∧
      (∀ (ρ : Type u) (session : MegaCommissioningSession ρ), session.draft.validate →
        ((Mega.Panel.setup session).stations.map Mega.stationPanel.address).Nodup)
        ∧
      (∀ (ρ : Type u) (p : Mega.Panel ρ) port toInt clock inputs,
        ∃ events : List Mega.StationsEvent,
          events.filterMap Mega.StationsEvent.report? = inputs.filterMap (·.report) ∧
          (run (Mega.Panel.loop port toInt clock) p inputs).1.stations
            =
          (run Mega.stationPanel.step p.stations events).1)
        ∧
      (∀ ownMac configStore runningConfig wirelessSetupRequested now,
        ((Esp32.Panel.boot ownMac configStore runningConfig wirelessSetupRequested now).node.units.map
          (Esp32.stationPanel MatrixDigitalInput LedPairDriver).address).Nodup)
        ∧
      (∀ N, Esp32.RunsStations (Esp32.Panel.loop (N := N)) Esp32.Panel.node)
        ∧
      (∀ ownMac configStore runningConfig wirelessSetupRequested now now₁ now₂,
        ((Esp32.Node4.boot ownMac configStore runningConfig wirelessSetupRequested now now₁
          now₂).node.units.map
            (Esp32.stationPanel ArduinoDigitalInput IndependentLedPairDriver).address).Nodup)
        ∧
      ∀ N, Esp32.RunsStations (Esp32.Node4.loop (N := N)) Esp32.Node4.node := by
  refine ⟨Mega.stationPanel_lawful.independent, ?_, (Esp32.stationPanel_lawful _ _).independent,
    (Esp32.stationPanel_lawful _ _).independent, ?_, ?_, ?_, ?_, ?_, ?_⟩
  . intro report stations hreport
    apply Mega.stationPanel_lawful.independent.undecoded
    rw [← LocoNetFeedbackDecoder.decode_eq_none_iff] at hreport
    exact congrArg some hreport
  . intro ρ session hvalid
    apply Mega.setup_nodup hvalid
  . intro ρ p port toInt clock inputs
    apply Mega.Panel.run_loop_stations
  . intro ownMac configStore runningConfig wirelessSetupRequested now
    apply Esp32.Panel.boot_nodup
  . intro N
    apply Esp32.Panel.loop_runsStations
  . intro ownMac configStore runningConfig wirelessSetupRequested now now₁ now₂
    apply Esp32.Node4.boot_nodup
  . intro N
    apply Esp32.Node4.loop_runsStations

-- The panel with its default configuration, and a report for each of its first two stations.
def defaultSession : MegaCommissioningSession MegaConfig :=
  ⟨{}, .buildDefaultConfig⟩

def thrown101 : SwitchOutputsReport where
  address := 101
  closedOutputOn := false
  thrownOutputOn := true

def closed102 : SwitchOutputsReport where
  address := 102
  closedOutputOn := true
  thrownOutputOn := false

theorem stations_independent_two_reports
    : let stations := (Mega.Panel.setup defaultSession).stations
      run Mega.stationPanel.step stations [.report thrown101, .report closed102]
          = run Mega.stationPanel.step stations [.report closed102, .report thrown101]
        ∧
      ∀ s, stations[0]? = some s →
        (run Mega.stationPanel.step stations [.report thrown101, .report closed102]).1[0]?
          =
        some (run Mega.react s [.report thrown101]).1 := by
  intro stations
  have h := stations_independent
  have hnodup := h.2.2.2.2.1 MegaConfig defaultSession (by decide +kernel)
  constructor
  . exact h.1.comm stations _ _ ⟨101, .thrown⟩ ⟨102, .closed⟩ rfl rfl (by decide)
  . intro s hs
    have hstate := h.1.state stations hnodup [.report thrown101, .report closed102] 0 s hs
    rw [← Option.some.inj hs] at hstate ⊢
    exact hstate

end Maltbee
