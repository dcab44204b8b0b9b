import MaltbeeController.McsEsp32.Impl.NodeConfig

/-!
This module contains the commissioning session of an ESP32 node: the commands it takes and what each of
them does to the draft, to the store and to the request for a reboot.
-/

namespace Maltbee

inductive CommandKind where
  | Id
  | Wifi
  | Broker
  | TurnoutAddress
  | Show
  | Save
  | Reboot
  | Invalid
  deriving DecidableEq, Repr

structure ParsedCommand where
  kind : CommandKind := .Invalid
  intArg : Int := 0
  stringArg1 : Str := []
  stringArg2 : Str := []
  intArg2 : Int := 0
  errorMessage : Str := []
  deriving DecidableEq, Repr

structure BasicCommissioningSession (N : Nat) where
  store : BasicConfigStore N
  draft : BasicNodeConfig N
  rebootRequested : Bool := false

namespace BasicCommissioningSession

variable {N : Nat}

def new (store : BasicConfigStore N) : BasicCommissioningSession N where
  store := store
  draft := store.load

def formatErrors (errors : List Str) : Str :=
  "invalid config:\n".toList ++
    errors.flatMap fun error => "  - ".toList ++ error ++ "\n".toList

def formatShow (s : BasicCommissioningSession N) : Str :=
  "id: ".toList ++ to_string s.draft.nodeId ++ "\n".toList ++
  "wifi ssid: ".toList ++
    (if s.draft.wifiSsid.isEmpty then "(unconfigured)".toList else s.draft.wifiSsid) ++
    "\n".toList ++
  "broker: ".toList ++
    (if s.draft.brokerHost.isEmpty then "(unconfigured)".toList else s.draft.brokerHost) ++
    ":".toList ++ to_string s.draft.brokerPort ++ "\n".toList ++
  (List.finRange N).flatMap fun i =>
    let address := s.draft.channelTurnoutAddresses.get i
    "turnout ".toList ++ to_string (i.val + 1) ++ ": ".toList ++
      (if address = 0 then "(unconfigured)".toList else to_string address) ++ "\n".toList

def apply (s : BasicCommissioningSession N) (command : ParsedCommand)
    : BasicCommissioningSession N × Str :=
  match command.kind with
  | .Id => ({ s with draft := s.draft.withNodeId command.intArg }, "OK\n".toList)
  | .Wifi =>
    ({ s with draft := s.draft.withWifi command.stringArg1 command.stringArg2 }, "OK\n".toList)
  | .Broker =>
    ({ s with draft := s.draft.withBroker command.stringArg1 command.intArg2 }, "OK\n".toList)
  | .TurnoutAddress =>
    if command.intArg < 1 ∨ command.intArg > N then
      (s, "error: turnout channel must be between 1 and ".toList ++ to_string N ++ "\n".toList)
    else
      (
        { s with draft := s.draft.withChannelAddress command.intArg command.intArg2 },
        "OK\n".toList
      )
  | .Show => (s, s.formatShow)
  | .Save =>
    let errors := s.draft.validate
    if !errors.isEmpty then
      (s, formatErrors errors)
    else
      let res := s.store.save s.draft
      if !res.1 then
        ({ s with store := res.2 }, "save failed: could not write to storage\n".toList)
      else
        ({ s with store := res.2 }, "saved\n".toList)
  | .Reboot => ({ s with rebootRequested := true }, "rebooting\n".toList)
  | .Invalid => (s, "error: ".toList ++ command.errorMessage ++ "\n".toList)

def call (s : BasicCommissioningSession N) (command : ParsedCommand)
    : BasicCommissioningSession N × List Str :=
  let res := s.apply command
  (res.1, [res.2])

def newNode : BasicCommissioningSession 12 :=
  .new { stored := .factoryDefault, accepts := fun _ => true }

end BasicCommissioningSession

end Maltbee
