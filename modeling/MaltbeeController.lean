import MaltbeeController.Esp32.Impl.Board
import MaltbeeController.Esp32.Impl.Loop
import MaltbeeController.Esp32.Impl.Node
import MaltbeeController.Esp32.Lemmas.Board
import MaltbeeController.Esp32.Lemmas.Indicators
import MaltbeeController.Esp32.Lemmas.Keys
import MaltbeeController.Esp32.Lemmas.Life
import MaltbeeController.Esp32.Lemmas.Loop
import MaltbeeController.Esp32.Lemmas.Node
import MaltbeeController.Esp32.Lemmas.Presence
import MaltbeeController.Esp32.Lemmas.Presses
import MaltbeeController.Esp32.Lemmas.Restarts
import MaltbeeController.Esp32.Lemmas.Rounds
import MaltbeeController.Esp32.Lemmas.SetupRequests
import MaltbeeController.Esp32.Lemmas.Stations
import MaltbeeController.Esp32.Lemmas.StoredConfig
import MaltbeeController.Esp32.Lemmas.Tick
import MaltbeeController.Lemmas.OverlongLines
import MaltbeeController.Lemmas.StationIndependence
import MaltbeeController.Lib.BoundedArray
import MaltbeeController.Lib.BoundedMap
import MaltbeeController.Lib.Broadcast
import MaltbeeController.Lib.ByteLayout
import MaltbeeController.Lib.Decimal
import MaltbeeController.Lib.FlakyStore
import MaltbeeController.Lib.Framing
import MaltbeeController.Lib.Html
import MaltbeeController.Lib.IntervalTimer
import MaltbeeController.Lib.KeyedArray
import MaltbeeController.Lib.PubSub
import MaltbeeController.Lib.PulseTrace
import MaltbeeController.Lib.RunLog
import MaltbeeController.Lib.SampleRuns
import MaltbeeController.Lib.Scanf
import MaltbeeController.Lib.StdSort
import MaltbeeController.Lib.StepRun
import MaltbeeController.Lib.Words
import MaltbeeController.Lib.WrapClock
import MaltbeeController.McsCore.Impl.Button
import MaltbeeController.McsCore.Impl.DigitalPins
import MaltbeeController.McsCore.Impl.EepromConfigurationRepository
import MaltbeeController.McsCore.Impl.FixedString32
import MaltbeeController.McsCore.Impl.MegaCommissioningSession
import MaltbeeController.McsCore.Impl.Route
import MaltbeeController.McsCore.Impl.RouteService
import MaltbeeController.McsCore.Impl.Turnout
import MaltbeeController.McsCore.Impl.TurnoutCollection
import MaltbeeController.McsCore.Impl.TurnoutStation
import MaltbeeController.McsCore.Lemmas.Button
import MaltbeeController.McsCore.Lemmas.ButtonDebounce
import MaltbeeController.McsCore.Lemmas.EepromConfigurationRepository
import MaltbeeController.McsCore.Lemmas.FixedString32
import MaltbeeController.McsCore.Lemmas.MegaCommandGrammar
import MaltbeeController.McsCore.Lemmas.MegaCommissioningFrame
import MaltbeeController.McsCore.Lemmas.MegaCommissioningSession
import MaltbeeController.McsCore.Lemmas.RouteActivation
import MaltbeeController.McsCore.Lemmas.RouteExecutionService
import MaltbeeController.McsCore.Lemmas.RouteService
import MaltbeeController.McsCore.Lemmas.StationPanel
import MaltbeeController.McsCore.Lemmas.Turnout
import MaltbeeController.McsCore.Lemmas.TurnoutCollection
import MaltbeeController.McsCore.Lemmas.TurnoutStation
import MaltbeeController.McsEsp32.Impl.ButtonSetupModeTrigger
import MaltbeeController.McsEsp32.Impl.CaptivePortalServer
import MaltbeeController.McsEsp32.Impl.CommandLineParser
import MaltbeeController.McsEsp32.Impl.CommissioningSession
import MaltbeeController.McsEsp32.Impl.IndependentLedPairDriver
import MaltbeeController.McsEsp32.Impl.LedPairDriver
import MaltbeeController.McsEsp32.Impl.MatrixScanner
import MaltbeeController.McsEsp32.Impl.Mqtt
import MaltbeeController.McsEsp32.Impl.NodeConfig
import MaltbeeController.McsEsp32.Impl.NvsConfigStore
import MaltbeeController.McsEsp32.Impl.NvsSetupModeRequestStore
import MaltbeeController.McsEsp32.Impl.Presence
import MaltbeeController.McsEsp32.Impl.SerialCommissioningAdapter
import MaltbeeController.McsEsp32.Impl.SetupFormRenderer
import MaltbeeController.McsEsp32.Impl.StatusLedDriver
import MaltbeeController.McsEsp32.Impl.ToggleTurnoutStation
import MaltbeeController.McsEsp32.Impl.WebFormCommissioningAdapter
import MaltbeeController.McsEsp32.Impl.WifiScanFormatter
import MaltbeeController.McsEsp32.Lemmas.BlinkCadence
import MaltbeeController.McsEsp32.Lemmas.ButtonSetupModeTrigger
import MaltbeeController.McsEsp32.Lemmas.CommandGrammar
import MaltbeeController.McsEsp32.Lemmas.CommandLineParser
import MaltbeeController.McsEsp32.Lemmas.CommissioningPrivacy
import MaltbeeController.McsEsp32.Lemmas.CommissioningScript
import MaltbeeController.McsEsp32.Lemmas.CommissioningSession
import MaltbeeController.McsEsp32.Lemmas.IdentifyModeTimer
import MaltbeeController.McsEsp32.Lemmas.IdentifyOverlay
import MaltbeeController.McsEsp32.Lemmas.IndependentLedPairDriver
import MaltbeeController.McsEsp32.Lemmas.LedPairDriver
import MaltbeeController.McsEsp32.Lemmas.MatrixScanner
import MaltbeeController.McsEsp32.Lemmas.Mqtt
import MaltbeeController.McsEsp32.Lemmas.MqttPresenceAnnouncer
import MaltbeeController.McsEsp32.Lemmas.NodeConfig
import MaltbeeController.McsEsp32.Lemmas.NodeConfigMessages
import MaltbeeController.McsEsp32.Lemmas.NodeIdOptions
import MaltbeeController.McsEsp32.Lemmas.NvsConfigStore
import MaltbeeController.McsEsp32.Lemmas.NvsSetupModeRequestStore
import MaltbeeController.McsEsp32.Lemmas.Presence
import MaltbeeController.McsEsp32.Lemmas.SerialCommissioningAdapter
import MaltbeeController.McsEsp32.Lemmas.SetupFormRenderer
import MaltbeeController.McsEsp32.Lemmas.SetupFormResubmission
import MaltbeeController.McsEsp32.Lemmas.StorableConfigs
import MaltbeeController.McsEsp32.Lemmas.ToggleTurnoutStation
import MaltbeeController.McsEsp32.Lemmas.TurnoutLocks
import MaltbeeController.McsEsp32.Lemmas.WebFormCommissioningAdapter
import MaltbeeController.McsEsp32.Lemmas.WifiScanFormatter
import MaltbeeController.McsLoconet.Impl.PulsingLocoNetTransport
import MaltbeeController.McsLoconet.Lemmas.PulsingLocoNetTransport
import MaltbeeController.Mega.Impl.Loop
import MaltbeeController.Mega.Impl.PowerCycle
import MaltbeeController.Mega.Impl.SerialConsole
import MaltbeeController.Mega.Lemmas.Coils
import MaltbeeController.Mega.Lemmas.Loop
import MaltbeeController.Mega.Lemmas.PowerCycle
import MaltbeeController.Mega.Lemmas.RouteRuns
import MaltbeeController.Mega.Lemmas.SerialConsole
import MaltbeeController.Mega.Lemmas.StationNames
import MaltbeeController.Mega.Lemmas.Stations
