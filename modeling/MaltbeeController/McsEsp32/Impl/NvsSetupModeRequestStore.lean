import MaltbeeController.McsEsp32.Impl.NvsConfigStore

/-!
This module contains the store of the request to boot into the wireless setup: one flag in a namespace of its
own in the flash of an ESP32.
-/

namespace Maltbee

namespace Preferences

variable (prefs : Preferences)

-- Both keep a flag as a number.
def putBool (key : Str) (value : Bool) : Nat × Preferences :=
  let res := FlakyStore.put prefs key (.int (if value then 1 else 0))
  (if res.1 then 1 else 0, res.2)

def getBool (key : Str) (defaultValue : Bool) : Bool :=
  match prefs.stored key with
  | some (.int v) => v = 1
  | _ => defaultValue

end Preferences

namespace NvsSetupModeRequestStore

def kKey : Str := "wsetup".toList

variable (prefs : Preferences)

def requestOnNextBoot : Bool × Preferences :=
  let begun := prefs.begin
  if !begun.1 then
    (false, begun.2)
  else
    let res := begun.2.putBool kKey true
    (res.1 ≠ 0, res.2)

-- What `putBool` returns is not looked at.
def consumeRequest : Bool × Preferences :=
  let begun := prefs.begin
  if !begun.1 then
    (false, begun.2)
  else
    let pending := begun.2.getBool kKey false
    (pending, if pending then (begun.2.putBool kKey false).2 else begun.2)

end NvsSetupModeRequestStore

end Maltbee
