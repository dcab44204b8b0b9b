import MaltbeeController.McsCore.Impl.FixedString32
import MaltbeeController.McsEsp32.Impl.SetupFormRenderer

/-!
This module contains how the server of the setup page reads a submitted form.
-/

namespace Maltbee

namespace BasicCaptivePortalServer

-- `arg` is what the request has under a name, and nothing if it does not have it. It is read through
-- `c_str`, so up to its first terminator.
def readForm {N : Nat} (arg : Str → Str) : BasicWebFormSubmission N where
  nodeId := FixedString32.untilTerminator (arg "id".toList)
  wifiSsid := FixedString32.untilTerminator (arg "wifi_ssid".toList)
  wifiPassword := FixedString32.untilTerminator (arg "wifi_password".toList)
  brokerHost := FixedString32.untilTerminator (arg "broker_host".toList)
  brokerPort := FixedString32.untilTerminator (arg "broker_port".toList)
  channelTurnoutAddresses := .ofFn fun (i : Fin N) =>
    let fieldName := "t".toList ++ to_string (i.val + 1) ++ "_address".toList
    FixedString32.untilTerminator (arg fieldName)

end BasicCaptivePortalServer

end Maltbee
