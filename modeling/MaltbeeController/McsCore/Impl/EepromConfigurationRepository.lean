import MaltbeeController.Lib.ByteLayout
import MaltbeeController.McsCore.Impl.MegaCommissioningSession

/-!
This module contains the repository that keeps the configuration of the Mega panel in the EEPROM, byte by
byte, behind a mark that tells whether there is a configuration at all.
-/

namespace Maltbee

namespace FixedString32

def layout : ByteLayout FixedString32 :=
  (ByteLayout.char.vector 32).ofEquiv {
    toFun := fun s => s.buffer
    invFun := fun buffer => ⟨buffer⟩
    left_inv := fun _ => rfl
    right_inv := fun _ => rfl
  }

end FixedString32

namespace MegaStationConfig

-- An `int` of the AVR has two bytes, and nothing is padded there.
def layout : ByteLayout MegaStationConfig :=
  (ByteLayout.int16.prod FixedString32.layout).ofEquiv {
    toFun := fun station => (station.address, station.name)
    invFun := fun fields => ⟨fields.1, fields.2⟩
    left_inv := fun _ => rfl
    right_inv := fun _ => rfl
  }

end MegaStationConfig

namespace MegaConfig

def layout : ByteLayout MegaConfig :=
  (MegaStationConfig.layout.vector 4).ofEquiv {
    toFun := fun config => config.stations
    invFun := fun stations => ⟨stations⟩
    left_inv := fun _ => rfl
    right_inv := fun _ => rfl
  }

end MegaConfig

namespace EepromConfigurationRepository

open ByteMemory (put)

def SCHEMA_MAGIC : UInt16 := 0xBEEF
def SCHEMA_VERSION : UInt8 := 1

def EEPROM_MAGIC_ADDRESS : Nat := 0
def EEPROM_VERSION_ADDRESS : Nat := EEPROM_MAGIC_ADDRESS + ByteLayout.uint16.width
def EEPROM_CONFIG_ADDRESS : Nat := EEPROM_VERSION_ADDRESS + ByteLayout.uint8.width

variable (eeprom : ByteMemory)

def load : MegaConfig :=
  let magic := eeprom.get .uint16 EEPROM_MAGIC_ADDRESS
  let version := eeprom.get .uint8 EEPROM_VERSION_ADDRESS
  if magic ≠ SCHEMA_MAGIC ∨ version ≠ SCHEMA_VERSION then
    {}
  else
    eeprom.get MegaConfig.layout EEPROM_CONFIG_ADDRESS

-- The bytes that `save` puts into the EEPROM. `EEPROM.put` leaves out those that are there already, which
-- makes no difference to what is there after any of them.
def saveWrites (config : MegaConfig) : List (Nat × UInt8) :=
  put .uint16 EEPROM_MAGIC_ADDRESS SCHEMA_MAGIC ++
    put .uint8 EEPROM_VERSION_ADDRESS SCHEMA_VERSION ++
    put MegaConfig.layout EEPROM_CONFIG_ADDRESS config

-- `save`. A configuration whose addresses or characters the types of the AVR do not have cannot come up.
def save (config : MegaConfig) : Bool × ByteMemory :=
  if MegaConfig.layout.fits config then
    (true, eeprom.commit (saveWrites config))
  else
    (false, eeprom)

-- What is in the EEPROM when the power was lost after `k` bytes of a `save`.
def interruptedSave (config : MegaConfig) (k : Nat) : ByteMemory :=
  eeprom.commit ((saveWrites config).take k)

-- The mark and the configuration behind it as one value.
abbrev Image := (UInt16 × UInt8) × MegaConfig

def imageLayout : ByteLayout Image :=
  (ByteLayout.uint16.prod .uint8).prod MegaConfig.layout

def image : Image :=
  eeprom.get imageLayout EEPROM_MAGIC_ADDRESS

-- The mark of a stored configuration is there.
def Formatted : Prop :=
  (image eeprom).1 = (SCHEMA_MAGIC, SCHEMA_VERSION)

theorem image_eq
    : image eeprom
        =
      (
        (eeprom.get .uint16 EEPROM_MAGIC_ADDRESS, eeprom.get .uint8 EEPROM_VERSION_ADDRESS),
        eeprom.get MegaConfig.layout EEPROM_CONFIG_ADDRESS
      ) := by
  unfold image imageLayout
  rw [ByteMemory.get_prod, ByteMemory.get_prod]
  rfl

theorem saveWrites_eq (config : MegaConfig)
    : saveWrites config = put imageLayout EEPROM_MAGIC_ADDRESS ((SCHEMA_MAGIC, SCHEMA_VERSION), config) := by
  unfold imageLayout
  rw [ByteMemory.put_prod, ByteMemory.put_prod]
  rfl

theorem load_eq
    : load eeprom
        =
      if (image eeprom).1 = (SCHEMA_MAGIC, SCHEMA_VERSION) then (image eeprom).2 else {} := by
  unfold load
  rw [image_eq]
  simp only [Prod.mk.injEq]
  split
  . next h =>
    rw [if_neg]
    exact fun hmark => h.elim (fun hne => hne hmark.1) (fun hne => hne hmark.2)
  . next h =>
    rw [not_or, not_not, not_not] at h
    rw [if_pos h]

theorem image_interruptedSave (config : MegaConfig) (k : Nat)
    : image (interruptedSave eeprom config k)
        =
      imageLayout.torn (image eeprom) ((SCHEMA_MAGIC, SCHEMA_VERSION), config) k := by
  unfold interruptedSave image
  rw [saveWrites_eq]
  apply ByteMemory.get_commit_put

theorem save_eq {config : MegaConfig} (h : MegaConfig.layout.fits config)
    : save eeprom config = (true, interruptedSave eeprom config imageLayout.width) := by
  unfold save interruptedSave
  rw [if_pos h, List.take_of_length_le]
  rw [saveWrites_eq, ByteMemory.length_put]

theorem load_save {config : MegaConfig} (h : (save eeprom config).1)
    : load (save eeprom config).2 = config := by
  unfold save at h
  split at h
  . next hfits =>
    rw [save_eq eeprom hfits]
    dsimp only
    rw [load_eq, image_interruptedSave, ByteLayout.torn_of_le _ _ _ (Nat.le_refl _)]
    . rw [if_pos rfl]
    . exact hfits
  . contradiction

def repository : ConfigurationRepository ByteMemory where
  load := load
  save := save
  load_save eeprom _ := load_save eeprom

end EepromConfigurationRepository

end Maltbee
