import MaltbeeController.McsEsp32.Impl.CommandLineParser

/-!
This module contains the adapter that turns a submitted setup form into commands of the commissioning
session.
-/

namespace Maltbee

structure BasicWebFormSubmission (N : Nat) where
  nodeId : Str := []
  wifiSsid : Str := []
  wifiPassword : Str := []
  brokerHost : Str := []
  brokerPort : Str := []
  channelTurnoutAddresses : Vector Str N := .replicate N []
  deriving DecidableEq, Repr

namespace BasicWebFormCommissioningAdapter

variable {N : Nat}

-- The loop over the channels. It ends early with the first response that is not `OK`.
def submitChannels (form : BasicWebFormSubmission N) (channels : List (Fin N))
    (session : BasicCommissioningSession N)
    : BasicCommissioningSession N × Str :=
  match channels with
  | [] => (session, "OK\n".toList)
  | i :: channels =>
    let addressText :=
      if (form.channelTurnoutAddresses.get i).isEmpty then
        "0".toList
      else
        form.channelTurnoutAddresses.get i
    let res := session.apply (CommandLineParser.parse
      ("turnout ".toList ++ to_string (i.val + 1) ++ " address ".toList ++ addressText))
    if res.2 ≠ "OK\n".toList then res else submitChannels form channels res.1

def submit (session : BasicCommissioningSession N) (form : BasicWebFormSubmission N)
    : BasicCommissioningSession N × Str :=
  let res := session.apply (CommandLineParser.parse ("id ".toList ++ form.nodeId))
  if res.2 ≠ "OK\n".toList then
    res
  else
    let wifiCommand : ParsedCommand := {
      kind := .Wifi
      stringArg1 := form.wifiSsid
      stringArg2 :=
        if form.wifiPassword.isEmpty then res.1.draft.wifiPassword else form.wifiPassword
    }
    let res := res.1.apply wifiCommand
    if res.2 ≠ "OK\n".toList then
      res
    else
      let res := res.1.apply (CommandLineParser.parse
        ("broker ".toList ++ form.brokerHost ++ " ".toList ++ form.brokerPort))
      if res.2 ≠ "OK\n".toList then
        res
      else
        let res := submitChannels form (List.finRange N) res.1
        if res.2 ≠ "OK\n".toList then
          res
        else
          let res := res.1.apply (CommandLineParser.parse "save".toList)
          if res.2 ≠ "saved\n".toList then
            res
          else
            res.1.apply (CommandLineParser.parse "reboot".toList)

def currentValues (session : BasicCommissioningSession N) : BasicWebFormSubmission N :=
  let config := session.draft
  {
    nodeId := if config.nodeId = 0 then [] else to_string config.nodeId
    wifiSsid := config.wifiSsid
    wifiPassword := []
    brokerHost := config.brokerHost
    brokerPort := to_string config.brokerPort
    channelTurnoutAddresses :=
      config.channelTurnoutAddresses.map fun address =>
        if address = 0 then [] else to_string address
  }

end BasicWebFormCommissioningAdapter

end Maltbee
