import MaltbeeController.Esp32.Impl.Loop
import MaltbeeController.McsEsp32.Impl.NvsSetupModeRequestStore

/-!
This module contains an ESP32 board over its boots: what its flash hands from one boot to the next, and what
of the main loop decides about restarts and about the flash.
-/

namespace Maltbee

namespace Esp32

-- One namespace for the configuration and one for the request of the wireless setup.
structure Flash where
  mcsnode : Preferences
  mcsBoot : Preferences

namespace Flash

variable {N : Nat}

-- The second load of a boot. The first one is for the draft of the session.
def loadRunningConfig (prefs : Preferences) : BasicNodeConfig N × Preferences :=
  BasicNvsConfigStore.load (BasicNvsConfigStore.load (N := N) prefs).2

/-
The store behind the session. The session loads it once, at the boot, so that of what is written later only
the answers of `save` matter before the next one. These do not depend on what is saved.
-/
def configStore (prefs : Preferences) : BasicConfigStore N where
  stored := (BasicNvsConfigStore.load prefs).1
  accepts := fun n =>
    let loaded := (loadRunningConfig (N := N) prefs).2
    (BasicNvsConfigStore.save (N := N) { loaded with calls := loaded.calls + n * (N + 6) }
      .factoryDefault).1

def saveAll (prefs : Preferences) (configs : List (BasicNodeConfig N)) : Preferences :=
  configs.foldl (fun prefs config => (BasicNvsConfigStore.save prefs config).2) prefs

end Flash

structure Commissioning (N : Nat) where
  serialCommissioningAdapter : BasicSerialCommissioningAdapter N
  bootMode : BootMode
  setupTrigger : ButtonSetupModeTrigger

def Node.commissioning {N : Nat} {β : Type u} {δ : Type v} (n : Node N β δ) : Commissioning N where
  serialCommissioningAdapter := n.serialCommissioningAdapter
  bootMode := n.bootMode
  setupTrigger := n.setupTrigger

namespace Commissioning

variable {N : Nat}

def boot (configStore : BasicConfigStore N) (runningConfig : BasicNodeConfig N)
    (wirelessSetupRequested : Bool)
    : Commissioning N where
  serialCommissioningAdapter := { session := .new configStore }
  bootMode := BootModeSelector.select runningConfig wirelessSetupRequested
  setupTrigger := { minHoldMs := Node.SETUP_TRIGGER_HOLD_MS }

def polled (c : Commissioning N) (input : LoopInput N) : BasicSerialCommissioningAdapter N :=
  (c.serialCommissioningAdapter.poll input.serial).1

def serve (session : BasicCommissioningSession N) (submissions : List (BasicWebFormSubmission N))
    : BasicCommissioningSession N :=
  submissions.foldl (fun session form => (BasicWebFormCommissioningAdapter.submit session form).1)
    session

-- The session at the end of an iteration, also of one that restarts the board.
def session (c : Commissioning N) (input : LoopInput N) : BasicCommissioningSession N :=
  let polled := c.polled input
  if !polled.session.rebootRequested && c.bootMode = .WirelessSetup then
    serve polled.session input.submissions
  else
    polled.session

def triggered (c : Commissioning N) (active : Bool) (input : LoopInput N) : ButtonSetupModeTrigger :=
  c.setupTrigger.update active (input.now .setupTrigger)

-- Whether the iteration gets to the call of `requestOnNextBoot`.
def requestsSetup (c : Commissioning N) (active : Bool) (input : LoopInput N) : Bool :=
  !(c.polled input).session.rebootRequested && c.bootMode ≠ .WirelessSetup &&
    (c.triggered active input).requested

-- One iteration: `none` is a restart.
def tick (c : Commissioning N) (active : Bool) (input : LoopInput N) : Option (Commissioning N) :=
  let polled := c.polled input
  if polled.session.rebootRequested then
    none
  else if c.bootMode = .WirelessSetup then
    some {
      c with
      serialCommissioningAdapter := { polled with session := serve polled.session input.submissions }
    }
  else if (c.triggered active input).requested && input.requestStored then
    none
  else
    some {
      c with
      serialCommissioningAdapter := polled
      setupTrigger := c.triggered active input
    }

end Commissioning

-- The program of a board. Both boards are commissioned and restarted in the same way.
structure Firmware (N : Nat) (σ : Type u) where
  boot : BasicConfigStore N → BasicNodeConfig N → Bool → σ
  loop : σ → LoopInput N → Option σ × List Effect
  setupActive : (Nat → Bool) → Bool
  commissioning : σ → Commissioning N
  commissioning_boot (configStore : BasicConfigStore N) (runningConfig : BasicNodeConfig N)
    (wirelessSetupRequested : Bool)
    : commissioning (boot configStore runningConfig wirelessSetupRequested)
        =
      .boot configStore runningConfig wirelessSetupRequested
  commissioning_loop (s : σ) (input : LoopInput N)
    : (loop s input).1.map commissioning
        =
      (commissioning s).tick (setupActive input.digitalRead) input

-- A board that is on. Without a program it is about to restart.
structure Board (σ : Type u) where
  program : Option σ
  flash : Flash

namespace Firmware

variable {N : Nat} {σ : Type u} (f : Firmware N σ)

def switchOn (flash : Flash) : Board σ :=
  let running := Flash.loadRunningConfig flash.mcsnode
  let consumed := NvsSetupModeRequestStore.consumeRequest flash.mcsBoot
  {
    program := some (f.boot (Flash.configStore flash.mcsnode) running.1 consumed.1)
    flash := { mcsnode := running.2, mcsBoot := consumed.2 }
  }

def iterate (b : Board σ) (input : LoopInput N) : Board σ × List Effect :=
  match b.program with
  | none => (b, [])
  | some s =>
    let c := f.commissioning s
    let request :=
      if c.requestsSetup (f.setupActive input.digitalRead) input then
        NvsSetupModeRequestStore.requestOnNextBoot b.flash.mcsBoot
      else
        (false, b.flash.mcsBoot)
    let saves := (c.session input).store.saves.drop c.serialCommissioningAdapter.session.store.saves.length
    let res := f.loop s { input with requestStored := request.1 }
    (
      {
        program := res.1
        flash := { mcsnode := Flash.saveAll b.flash.mcsnode saves, mcsBoot := request.2 }
      },
      res.2
    )

-- From switching on to the restart, or until the power goes after the last of `inputs`.
def life (flash : Flash) (inputs : List (LoopInput N)) : Board σ :=
  (StepRun.run f.iterate (f.switchOn flash) inputs).1

def lives (flash : Flash) (inputs : List (List (LoopInput N))) : Flash :=
  inputs.foldl (fun flash inputs => (f.life flash inputs).flash) flash

end Firmware

def bootModeOf (N : Nat) (flash : Flash) : BootMode :=
  BootModeSelector.select (Flash.loadRunningConfig (N := N) flash.mcsnode).1
    (NvsSetupModeRequestStore.consumeRequest flash.mcsBoot).1

end Esp32

end Maltbee
