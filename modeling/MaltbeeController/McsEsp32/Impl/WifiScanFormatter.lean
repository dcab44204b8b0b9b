import Mathlib.Tactic.Common
import MaltbeeController.Lib.StdSort
import MaltbeeController.McsEsp32.Impl.NodeConfig

/-!
This module contains the networks that a scan finds and how they are shown.
-/

namespace Maltbee

structure ScannedNetwork where
  ssid : Str
  rssi : Int
  deriving DecidableEq, Repr

namespace WifiScanFormatter

-- One round of the loop over the networks found. Characters are bytes here, so that the map has the order
-- that `std::string` has.
def recordStrongest (strongestBySsid : Std.TreeMap Str Int) (network : ScannedNetwork)
    : Std.TreeMap Str Int :=
  if network.ssid.isEmpty then
    strongestBySsid
  else
    match strongestBySsid[network.ssid]? with
    | none => strongestBySsid.insert network.ssid network.rssi
    | some rssi =>
      if network.rssi > rssi then
        strongestBySsid.insert network.ssid network.rssi
      else
        strongestBySsid

def dedupeAndSort (std : StdSort ScannedNetwork fun a b => a.rssi > b.rssi)
    (raw : List ScannedNetwork)
    : List ScannedNetwork :=
  let strongestBySsid := raw.foldl recordStrongest {}
  let result := strongestBySsid.toList.map fun entry => ⟨entry.1, entry.2⟩
  std.sort result

-- One character for each byte of the UTF-8 encoded bars.
def signalBars (rssi : Int) : Str :=
  if rssi ≥ -50 then
    "\xE2\x96\x82\xE2\x96\x84\xE2\x96\x86\xE2\x96\x88".toList
  else if rssi ≥ -60 then
    "\xE2\x96\x82\xE2\x96\x84\xE2\x96\x86".toList
  else if rssi ≥ -70 then
    "\xE2\x96\x82\xE2\x96\x84".toList
  else
    "\xE2\x96\x82".toList

def withSignalBars (ssid : Str) (rssi : Int) : Str :=
  ssid ++ " ".toList ++ signalBars rssi

end WifiScanFormatter

end Maltbee
