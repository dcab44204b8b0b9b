import MaltbeeController.Lib.FlakyStore
import MaltbeeController.McsCore.Impl.FixedString32
import MaltbeeController.McsEsp32.Impl.NodeConfig

/-!
This module contains the store of the configuration in the flash of an ESP32: one entry for each field,
and each of the writes may fail.
-/

namespace Maltbee

inductive NvsValue where
  | int (v : Int)
  | string (v : Str)
  deriving DecidableEq, Repr

abbrev Preferences := FlakyStore Str NvsValue

namespace Preferences

variable (prefs : Preferences)

def begin : Bool × Preferences :=
  prefs.call

-- Both return how many bytes have been written.
def putInt (key : Str) (value : Int) : Nat × Preferences :=
  let res := FlakyStore.put prefs key (.int value)
  (if res.1 then 4 else 0, res.2)

def putString (key : Str) (value : Str) : Nat × Preferences :=
  let value := FixedString32.untilTerminator value
  let res := FlakyStore.put prefs key (.string value)
  (if res.1 then value.length else 0, res.2)

def getInt (key : Str) (defaultValue : Int) : Int :=
  match prefs.stored key with
  | some (.int v) => v
  | _ => defaultValue

def getString (key : Str) (defaultValue : Str) : Str :=
  match prefs.stored key with
  | some (.string v) => v
  | _ => defaultValue

end Preferences

namespace BasicNvsConfigStore

def kKeyNodeId : Str := "nodeId".toList
def kKeyWifiSsid : Str := "wifiSsid".toList
def kKeyWifiPassword : Str := "wifiPw".toList
def kKeyBrokerHost : Str := "brokerHost".toList
def kKeyBrokerPort : Str := "brokerPort".toList
def kKeyChannelPrefix : Str := "ch".toList

variable {N : Nat}

def channelKey (i : Fin N) : Str :=
  kKeyChannelPrefix ++ to_string i.val

-- What `load` reads from the namespace once that is open.
def contents (prefs : Preferences) : BasicNodeConfig N where
  nodeId := prefs.getInt kKeyNodeId 0
  wifiSsid := FixedString32.untilTerminator (prefs.getString kKeyWifiSsid [])
  wifiPassword := FixedString32.untilTerminator (prefs.getString kKeyWifiPassword [])
  brokerHost := FixedString32.untilTerminator (prefs.getString kKeyBrokerHost [])
  brokerPort := prefs.getInt kKeyBrokerPort 1883
  channelTurnoutAddresses := .ofFn fun i => prefs.getInt (channelKey i) 0

-- What `begin` returns is not looked at. In a namespace that is not open there is nothing to get.
def load (prefs : Preferences) : BasicNodeConfig N × Preferences :=
  let begun := prefs.begin
  let opened := if begun.1 then begun.2 else { begun.2 with stored := fun _ => none }
  (contents opened, begun.2)

def saveChannel (config : BasicNodeConfig N) (acc : Bool × Preferences) (i : Fin N)
    : Bool × Preferences :=
  let res := acc.2.putInt (channelKey i) (config.channelTurnoutAddresses.get i)
  (decide (res.1 > 0) && acc.1, res.2)

-- What the writes of the strings return is not part of `ok`: it is 0 for an empty string, too.
def save (prefs : Preferences) (config : BasicNodeConfig N) : Bool × Preferences :=
  let begun := prefs.begin
  let ok := begun.1
  let res := begun.2.putInt kKeyNodeId config.nodeId
  let ok := decide (res.1 > 0) && ok
  let res := res.2.putString kKeyWifiSsid config.wifiSsid
  let res := res.2.putString kKeyWifiPassword config.wifiPassword
  let res := res.2.putString kKeyBrokerHost config.brokerHost
  let res := res.2.putInt kKeyBrokerPort config.brokerPort
  let ok := decide (res.1 > 0) && ok
  (List.finRange N).foldl (saveChannel config) (ok, res.2)

end BasicNvsConfigStore

end Maltbee
