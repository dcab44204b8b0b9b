import MaltbeeController.Lib.Decimal

/-!
This module contains the configuration of an ESP32 node with `N` channels, the store it is kept in and
the boot mode that is selected from it.
-/

namespace Maltbee

abbrev Str := List Char

def to_string (v : Int) : Str :=
  Decimal.print v

structure BasicNodeConfig (N : Nat) where
  nodeId : Int := 0
  wifiSsid : Str := []
  wifiPassword : Str := []
  brokerHost : Str := []
  brokerPort : Int := 1883
  channelTurnoutAddresses : Vector Int N := .replicate N 0
  deriving DecidableEq, Repr

namespace BasicNodeConfig

abbrev kMinNodeId : Int := 1
abbrev kMaxNodeId : Int := 99
abbrev kMinBrokerPort : Int := 1
abbrev kMaxBrokerPort : Int := 65535
abbrev kMinTurnoutAddress : Int := 1
abbrev kMaxTurnoutAddress : Int := 2048

variable {N : Nat}

def factoryDefault : BasicNodeConfig N :=
  {}

def withNodeId (config : BasicNodeConfig N) (id : Int) : BasicNodeConfig N :=
  { config with nodeId := id }

def withWifi (config : BasicNodeConfig N) (ssid password : Str) : BasicNodeConfig N :=
  { config with wifiSsid := ssid, wifiPassword := password }

def withBroker (config : BasicNodeConfig N) (host : Str) (port : Int) : BasicNodeConfig N :=
  { config with brokerHost := host, brokerPort := port }

def withChannelAddress (config : BasicNodeConfig N) (channel address : Int) : BasicNodeConfig N :=
  if h:channel ≥ 1 ∧ channel ≤ N then
    { config with
      channelTurnoutAddresses :=
        config.channelTurnoutAddresses.set (channel - 1).toNat address (by omega)
    }
  else
    config

def channelErrors (config : BasicNodeConfig N) (i : Fin N) : List Str :=
  let address := config.channelTurnoutAddresses.get i
  if address = 0 then
    []
  else
    (if address < kMinTurnoutAddress ∨ address > kMaxTurnoutAddress then
      ["channel ".toList ++ to_string (i.val + 1) ++ " address must be between ".toList ++
        to_string kMinTurnoutAddress ++ " and ".toList ++ to_string kMaxTurnoutAddress]
    else
      []) ++
    ((List.finRange N).filter (i < ·)).flatMap fun (j : Fin N) =>
      if config.channelTurnoutAddresses.get j = address then
        ["channels ".toList ++ to_string (i.val + 1) ++ " and ".toList ++ to_string (j.val + 1) ++
          " both claim turnout address ".toList ++ to_string address]
      else
        []

def validate (config : BasicNodeConfig N) : List Str :=
  (if config.nodeId < kMinNodeId ∨ config.nodeId > kMaxNodeId then
    ["node id must be between ".toList ++ to_string kMinNodeId ++ " and ".toList ++
      to_string kMaxNodeId]
  else
    []) ++
  (if config.wifiSsid.isEmpty then
    ["wifi ssid must not be empty".toList]
  else
    []) ++
  (if config.brokerHost.isEmpty then
    ["broker host must not be empty".toList]
  else
    []) ++
  (if config.brokerPort < kMinBrokerPort ∨ config.brokerPort > kMaxBrokerPort then
    ["broker port must be between ".toList ++ to_string kMinBrokerPort ++ " and ".toList ++
      to_string kMaxBrokerPort]
  else
    []) ++
  (List.finRange N).flatMap config.channelErrors

end BasicNodeConfig

/-
`load` is `stored`. `accepts n` is whether call number `n` of `save` succeeds, and `saves` is what
`save` has been called with so far.
-/
structure BasicConfigStore (N : Nat) where
  stored : BasicNodeConfig N
  accepts : Nat → Bool
  saves : List (BasicNodeConfig N) := []

namespace BasicConfigStore

variable {N : Nat}

def load (store : BasicConfigStore N) : BasicNodeConfig N :=
  store.stored

def save (store : BasicConfigStore N) (config : BasicNodeConfig N) : Bool × BasicConfigStore N :=
  let accepted := store.accepts store.saves.length
  (
    accepted,
    { store with
      stored := if accepted then config else store.stored
      saves := store.saves ++ [config]
    }
  )

end BasicConfigStore

inductive BootMode where
  | Normal
  | NeedsCommissioning
  | WirelessSetup
  deriving DecidableEq, Repr

namespace BootModeSelector

def select {N : Nat} (config : BasicNodeConfig N) (wirelessSetupRequested : Bool) : BootMode :=
  if wirelessSetupRequested then
    .WirelessSetup
  else if config.validate.isEmpty then
    .Normal
  else
    .NeedsCommissioning

end BootModeSelector

end Maltbee
