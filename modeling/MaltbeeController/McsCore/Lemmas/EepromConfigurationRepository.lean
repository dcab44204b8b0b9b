import MaltbeeController.McsCore.Impl.EepromConfigurationRepository
import MaltbeeController.McsCore.Lemmas.FixedString32
import MaltbeeController.McsCore.Lemmas.MegaCommissioningSession

/-!
This module contains the theory of the configuration in the EEPROM: what the next boot reads when the power
was lost after any of the bytes of a `save`.
-/

namespace Maltbee

namespace FixedString32

def Terminated (s : FixedString32) : Prop :=
  '\x00' ∈ s.buffer.toList

instance (s : FixedString32) : Decidable s.Terminated :=
  inferInstanceAs (Decidable (_ ∈ _))

theorem exists_terminator_lt_iff {chars : List Char} (h : '\x00' ∈ chars) (k : Nat)
    : (∃ j < k, chars[j]? = some '\x00') ↔ (untilTerminator chars).length < k := by
  unfold untilTerminator
  induction chars generalizing k with
  | nil => contradiction
  | cons c chars ih =>
    by_cases hc : c = '\x00'
    . rw [List.takeWhile_cons_of_neg (by simp [hc])]
      constructor
      . rintro ⟨j, hj, _⟩
        exact Nat.zero_lt_of_lt hj
      . intro hk
        exact ⟨0, hk, by simp [hc]⟩
    . have hmem : '\x00' ∈ chars := (List.mem_cons.mp h).resolve_left (fun heq => hc heq.symm)
      rw [List.takeWhile_cons_of_pos (by simp [hc]), List.length_cons]
      rw [← Nat.lt_sub_iff_add_lt, ← ih hmem]
      constructor
      . rintro ⟨j, hj, hget⟩
        cases j with
        | zero => simp [hc] at hget
        | succ j => exact ⟨j, by omega, by simpa using hget⟩
      . rintro ⟨j, hj, hget⟩
        exact ⟨j + 1, by omega, by simpa using hget⟩

theorem terminated_iff (s : FixedString32) : s.Terminated ↔ ∃ j : Fin 32, s.buffer.get j = '\x00' := by
  unfold Terminated
  rw [Vector.mem_toList_iff, Vector.mem_iff_getElem]
  constructor
  . rintro ⟨j, hj, hget⟩
    exact ⟨⟨j, hj⟩, hget⟩
  . rintro ⟨j, hget⟩
    exact ⟨j, j.isLt, hget⟩

theorem terminated_torn_iff {name loaded : FixedString32} (hname : name.Terminated) (k : Nat)
    (h : ∀ j : Fin 32, loaded.buffer.get j = if j < k then name.buffer.get j else .ofNat 0xFF)
    : loaded.Terminated ↔ name.c_str.length < k := by
  change _ ↔ (untilTerminator name.buffer.toList).length < k
  rw [terminated_iff, ← exists_terminator_lt_iff hname]
  constructor
  . rintro ⟨j, hj⟩
    rw [h] at hj
    split at hj
    . next hlt =>
      refine ⟨j, hlt, ?_⟩
      rw [Vector.getElem?_toList, Vector.getElem?_eq_getElem j.isLt, ← hj]
      rfl
    . contradiction
  . rintro ⟨j, hlt, hj⟩
    rw [Vector.getElem?_toList, Vector.getElem?_eq_some_iff] at hj
    obtain ⟨hj32, hj⟩ := hj
    refine ⟨⟨j, hj32⟩, ?_⟩
    rw [h, if_pos hlt]
    exact hj

theorem layout_fits_iff (s : FixedString32)
    : layout.fits s ↔ ∀ j : Fin 32, ByteLayout.char.fits (s.buffer.get j) := by
  exact ByteLayout.char.vector_fits_iff 32 s.buffer

theorem torn_get {old new : FixedString32} (hold : layout.fits old) (hnew : layout.fits new) (k : Nat)
    (j : Fin 32)
    : (layout.torn old new k).buffer.get j
        =
      if j < k then new.buffer.get j else old.buffer.get j := by
  rw [layout_fits_iff] at hold hnew
  have htorn : (layout.torn old new k).buffer.get j
      = ByteLayout.char.torn (old.buffer.get j) (new.buffer.get j) (k - j * 1) :=
    ByteLayout.char.vector_torn 32 old.buffer new.buffer k j
  rw [htorn, ByteLayout.char_torn (hold j) (hnew j)]
  split
  . rw [if_neg (by omega)]
  . rw [if_pos (by omega)]

end FixedString32

namespace MegaStationConfig

-- What has become of `old` when the first `k` bytes of `new` have been written over it.
structure TornAt (old new : MegaStationConfig) (k : Nat) (loaded : MegaStationConfig) : Prop where
  before : k = 0 → loaded = old
  after : layout.width ≤ k → loaded = new
  address : loaded.address
    = if k = 0 then old.address
      else if k = 1 then ByteLayout.withLow old.address new.address
      else new.address
  name : ∀ j : Fin 32, loaded.name.buffer.get j
    = if j + 2 < k then new.name.buffer.get j else old.name.buffer.get j

theorem layout_fits_iff (station : MegaStationConfig)
    : layout.fits station
        ↔
      ByteLayout.int16.fits station.address ∧ FixedString32.layout.fits station.name := by
  exact ByteLayout.prod_fits_iff _ _ _

theorem layout_torn (old new : MegaStationConfig) (k : Nat)
    : layout.torn old new k
        =
      {
        address := ByteLayout.int16.torn old.address new.address k
        name := FixedString32.layout.torn old.name new.name (k - ByteLayout.int16.width)
      } := by
  unfold layout
  rw [ByteLayout.ofEquiv_torn, ByteLayout.prod_torn]
  simp only [Equiv.coe_fn_mk, Equiv.coe_fn_symm_mk]

theorem tornAt {old new : MegaStationConfig} (hold : layout.fits old) (hnew : layout.fits new) (k : Nat)
    : TornAt old new k (layout.torn old new k) := by
  have ⟨haddress, hname⟩ := (layout_fits_iff old).mp hold
  have ⟨haddress', hname'⟩ := (layout_fits_iff new).mp hnew
  constructor
  . intro hk
    rw [hk]
    exact layout.torn_zero hold new
  . exact layout.torn_of_le hnew old
  . rw [layout_torn]
    dsimp only
    split
    . next hk =>
      rw [hk]
      exact ByteLayout.int16.torn_zero haddress _
    . next hk =>
      split
      . next hk =>
        rw [hk]
        exact ByteLayout.int16_torn_one haddress _
      . apply ByteLayout.int16.torn_of_le haddress'
        dsimp only [ByteLayout.int16]
        omega
  . intro j
    rw [layout_torn]
    dsimp only
    rw [FixedString32.torn_get hname hname']
    simp only [ByteLayout.int16, Nat.lt_sub_iff_add_lt]

end MegaStationConfig

namespace EepromConfigurationRepository

variable {eeprom : ByteMemory} {config : MegaConfig}

theorem image_fits (eeprom : ByteMemory) : MegaConfig.layout.fits (image eeprom).2 := by
  have : imageLayout.fits (image eeprom) := by
    apply imageLayout.fits_decode
    apply ByteMemory.length_read
  unfold imageLayout at this
  exact ((ByteLayout.prod_fits_iff _ _ _).mp this).2

theorem interruptedSave_eq (eeprom : ByteMemory) (config : MegaConfig) (k : Nat)
    : image (interruptedSave eeprom config k)
        =
      (
        (
          ByteLayout.uint16.torn (image eeprom).1.1 SCHEMA_MAGIC k,
          ByteLayout.uint8.torn (image eeprom).1.2 SCHEMA_VERSION (k - EEPROM_VERSION_ADDRESS)
        ),
        MegaConfig.layout.torn (image eeprom).2 config (k - EEPROM_CONFIG_ADDRESS)
      ) := by
  rw [image_interruptedSave]
  unfold imageLayout
  rw [ByteLayout.prod_torn, ByteLayout.prod_torn]
  rfl

theorem interruptedSave_formatted (h : Formatted eeprom) (config : MegaConfig) (k : Nat)
    : Formatted (interruptedSave eeprom config k) := by
  unfold Formatted at *
  rw [interruptedSave_eq, h]
  dsimp only
  rw [ByteLayout.uint16.torn_self rfl, ByteLayout.uint8.torn_self rfl]

theorem load_of_formatted (h : Formatted eeprom) : load eeprom = (image eeprom).2 := by
  rw [load_eq]
  exact if_pos h

theorem load_interruptedSave (h : Formatted eeprom) (config : MegaConfig) (k : Nat)
    : load (interruptedSave eeprom config k)
        =
      MegaConfig.layout.torn (load eeprom) config (k - EEPROM_CONFIG_ADDRESS) := by
  rw [load_of_formatted (interruptedSave_formatted h config k), load_of_formatted h]
  rw [interruptedSave_eq]

theorem layout_fits_iff (config : MegaConfig)
    : MegaConfig.layout.fits config
        ↔
      ∀ i : Fin 4, MegaStationConfig.layout.fits (config.stations.get i) := by
  exact MegaStationConfig.layout.vector_fits_iff 4 config.stations

theorem stations_torn (old new : MegaConfig) (k : Nat) (i : Fin 4)
    : (MegaConfig.layout.torn old new k).stations.get i
        =
      MegaStationConfig.layout.torn (old.stations.get i) (new.stations.get i)
        (k - i * MegaStationConfig.layout.width) := by
  exact MegaStationConfig.layout.vector_torn 4 old.stations new.stations k i

theorem interruptedSave_of_outside (eeprom : ByteMemory) (config : MegaConfig) (k : Nat)
    {address : Nat} (h : imageLayout.width ≤ address)
    : interruptedSave eeprom config k address = eeprom address := by
  unfold interruptedSave
  rw [saveWrites_eq]
  unfold ByteMemory.put
  rw [ByteMemory.take_writes, ByteMemory.commit_writes]
  split
  . rfl
  . rw [List.getElem?_eq_none]
    . rfl
    . rw [List.length_take, imageLayout.length_encode]
      dsimp only [EEPROM_MAGIC_ADDRESS]
      omega

structure CutOff (eeprom : ByteMemory) (config : MegaConfig) (k : Nat) : Prop where
  formatted : Formatted (interruptedSave eeprom config k)
  stations : ∀ i : Fin 4, MegaStationConfig.TornAt ((load eeprom).stations.get i)
    (config.stations.get i) (k - (EEPROM_CONFIG_ADDRESS + i * MegaStationConfig.layout.width))
    ((load (interruptedSave eeprom config k)).stations.get i)
  one_torn : ∃ n : Nat, ∀ i : Fin 4,
    (i < n → (load (interruptedSave eeprom config k)).stations.get i = config.stations.get i) ∧
      (n < i → (load (interruptedSave eeprom config k)).stations.get i = (load eeprom).stations.get i)
  complete : imageLayout.width ≤ k → load (interruptedSave eeprom config k) = config
  elsewhere : ∀ address, imageLayout.width ≤ address →
    interruptedSave eeprom config k address = eeprom address

theorem image_tornAt (eeprom : ByteMemory) (hfits : MegaConfig.layout.fits config) (k : Nat)
    (i : Fin 4)
    : MegaStationConfig.TornAt ((image eeprom).2.stations.get i) (config.stations.get i)
        (k - (EEPROM_CONFIG_ADDRESS + i * MegaStationConfig.layout.width))
        ((image (interruptedSave eeprom config k)).2.stations.get i) := by
  rw [interruptedSave_eq]
  dsimp only
  rw [stations_torn, Nat.sub_sub]
  apply MegaStationConfig.tornAt
  . exact (layout_fits_iff _).mp (image_fits eeprom) i
  . exact (layout_fits_iff _).mp hfits i

theorem stations_tornAt (h : Formatted eeprom) (hfits : MegaConfig.layout.fits config) (k : Nat)
    (i : Fin 4)
    : MegaStationConfig.TornAt ((load eeprom).stations.get i) (config.stations.get i)
        (k - (EEPROM_CONFIG_ADDRESS + i * MegaStationConfig.layout.width))
        ((load (interruptedSave eeprom config k)).stations.get i) := by
  rw [load_of_formatted (interruptedSave_formatted h config k), load_of_formatted h]
  exact image_tornAt eeprom hfits k i

/--
A `save` over a stored configuration that the power cuts off after `k` bytes leaves a configuration behind
whose stations are the new ones in front of the cut and the old ones behind it. The one that the cut falls
into may have the low byte of the new and the high byte of the old address, or the new address and a name
that begins as the new one and ends as the old one.
-/
theorem save_cut_off (h : Formatted eeprom) (hfits : MegaConfig.layout.fits config) (k : Nat)
    : CutOff eeprom config k := by
  have hstations := stations_tornAt h hfits k
  have hwidth : MegaStationConfig.layout.width = 34 := rfl
  have haddress : EEPROM_CONFIG_ADDRESS = 3 := rfl
  constructor
  . exact interruptedSave_formatted h config k
  . exact hstations
  . refine ⟨(k - 3) / 34, ?_⟩
    intro i
    constructor
    . intro hi
      apply (hstations i).after
      rw [haddress, hwidth]
      omega
    . intro hi
      apply (hstations i).before
      rw [haddress, hwidth]
      omega
  . intro hk
    rw [load_interruptedSave h]
    apply MegaConfig.layout.torn_of_le hfits
    have himage : imageLayout.width = EEPROM_CONFIG_ADDRESS + MegaConfig.layout.width := rfl
    omega
  . intro address
    exact interruptedSave_of_outside eeprom config k

theorem image_save (eeprom : ByteMemory) (hfits : MegaConfig.layout.fits config)
    : image (save eeprom config).2 = ((SCHEMA_MAGIC, SCHEMA_VERSION), config) := by
  rw [save_eq eeprom hfits]
  dsimp only
  rw [image_interruptedSave]
  apply imageLayout.torn_of_le _ _ (Nat.le_refl _)
  exact (ByteLayout.prod_fits_iff _ _ _).mpr ⟨rfl, hfits⟩

theorem save_formatted (eeprom : ByteMemory) (hfits : MegaConfig.layout.fits config)
    : Formatted (save eeprom config).2 := by
  unfold Formatted
  rw [image_save eeprom hfits]

def blank : ByteMemory :=
  fun _ => 0xFF

def renamed : MegaConfig where
  stations := #v[
    { address := 300, name := .ofCStr "Yard".toList },
    { address := 513, name := .ofCStr "Main".toList },
    { address := 7, name := .ofCStr "Spur".toList },
    { address := 1999, name := .ofCStr "Loop".toList }
  ]

theorem save_cut_off_renamed
    : CutOff (save blank MegaConfig.buildDefaultConfig).2 renamed 38 := by
  apply save_cut_off
  . apply save_formatted
    decide +kernel
  . decide +kernel

-- Station 2 had the address 102 and gets 513: cut off in between, it has 1, which the next boot accepts.
example :
    let loaded := load (interruptedSave (save blank MegaConfig.buildDefaultConfig).2 renamed 38)
    loaded.stations[1].address = 1 ∧ loaded.validate := by
  decide +kernel

def blankStation : MegaStationConfig where
  address := -1
  name := ⟨.replicate 32 (.ofNat 0xFF)⟩

theorem image_blank : image blank = ((0xFFFF, 0xFF), ⟨.replicate 4 blankStation⟩) := by
  decide +kernel

theorem blank_station (i : Fin 4) : (image blank).2.stations.get i = blankStation := by
  rw [image_blank]
  simp [Vector.get]

theorem formatted_first_save_iff (config : MegaConfig) (k : Nat)
    : Formatted (interruptedSave blank config k) ↔ EEPROM_CONFIG_ADDRESS ≤ k := by
  unfold Formatted
  rw [interruptedSave_eq, image_blank]
  dsimp only
  match k with
  | 0 => decide
  | 1 => decide
  | 2 => decide
  | k + 3 =>
    rw [ByteLayout.uint16.torn_of_le rfl _ (Nat.le_add_left_of_le (by decide))]
    have hversion : ByteLayout.uint8.width ≤ k + 3 - EEPROM_VERSION_ADDRESS := by
      change 1 ≤ k + 3 - 2
      omega
    rw [ByteLayout.uint8.torn_of_le rfl _ hversion]
    exact iff_of_true rfl (Nat.le_add_left 3 k)

theorem first_save_tornAt (hfits : MegaConfig.layout.fits config) {k : Nat}
    (hk : EEPROM_CONFIG_ADDRESS ≤ k) (i : Fin 4)
    : MegaStationConfig.TornAt blankStation (config.stations.get i)
        (k - (EEPROM_CONFIG_ADDRESS + i * MegaStationConfig.layout.width))
        ((load (interruptedSave blank config k)).stations.get i) := by
  rw [load_of_formatted ((formatted_first_save_iff config k).mpr hk), ← blank_station i]
  exact image_tornAt blank hfits k i

def LAST_NAME_ADDRESS : Nat :=
  EEPROM_CONFIG_ADDRESS + 3 * MegaStationConfig.layout.width + ByteLayout.int16.width

theorem not_validate_of_first_save (hfits : MegaConfig.layout.fits config) {k : Nat}
    (hk : k < LAST_NAME_ADDRESS)
    : (load (interruptedSave blank config k)).validate = false := by
  have hlast : LAST_NAME_ADDRESS = 107 := rfl
  have hoffset : EEPROM_CONFIG_ADDRESS + (3 : Fin 4) * MegaStationConfig.layout.width = 105 := rfl
  rw [Bool.eq_false_iff, Ne, MegaConfig.validate_iff, not_and_or]
  left
  intro hrange
  have hmin := (hrange 3).1
  by_cases hformatted : EEPROM_CONFIG_ADDRESS ≤ k
  . -- Of the last address there is at most the low byte, and so it is negative.
    rw [(first_save_tornAt hfits hformatted 3).address, hoffset] at hmin
    dsimp only [blankStation, ByteLayout.withLow, MegaConfig.kMinAddress] at hmin
    split at hmin
    . omega
    . rw [if_pos (by omega)] at hmin
      omega
  . rw [load_eq, if_neg] at hmin
    . contradiction
    . exact fun h => hformatted ((formatted_first_save_iff config k).mp h)

theorem validate_congr {config config' : MegaConfig}
    (h : ∀ i, (config.stations.get i).address = (config'.stations.get i).address)
    : config.validate = config'.validate := by
  unfold MegaConfig.validate
  simp only [h]

theorem boot_draft (eeprom : ByteMemory) (defaults : MegaConfig)
    : (MegaCommissioningSession.new repository eeprom defaults).draft
        =
      if (load eeprom).validate then load eeprom else defaults := by
  unfold MegaCommissioningSession.new
  dsimp only [repository]
  cases (load eeprom).validate with
  | true => rfl
  | false => rfl

theorem first_save_addresses (hfits : MegaConfig.layout.fits config) {k : Nat}
    (hk : LAST_NAME_ADDRESS ≤ k) (i : Fin 4)
    : ((load (interruptedSave blank config k)).stations.get i).address
        =
      (config.stations.get i).address := by
  have hi := i.isLt
  have hlast : LAST_NAME_ADDRESS = 107 := rfl
  have haddress : EEPROM_CONFIG_ADDRESS = 3 := rfl
  have hwidth : MegaStationConfig.layout.width = 34 := rfl
  rw [(first_save_tornAt hfits (by omega) i).address, haddress, hwidth]
  rw [if_neg (by omega), if_neg (by omega)]

theorem first_save_last_name (hfits : MegaConfig.layout.fits config) {k : Nat}
    (hk : LAST_NAME_ADDRESS ≤ k) (j : Fin 32)
    : ((load (interruptedSave blank config k)).stations.get 3).name.buffer.get j
        =
      if j < k - LAST_NAME_ADDRESS then (config.stations.get 3).name.buffer.get j
      else .ofNat 0xFF := by
  have hlast : LAST_NAME_ADDRESS = 107 := rfl
  have haddress : EEPROM_CONFIG_ADDRESS = 3 := rfl
  have hoffset : EEPROM_CONFIG_ADDRESS + (3 : Fin 4) * MegaStationConfig.layout.width = 105 := rfl
  have hblank : blankStation.name.buffer.get j = .ofNat 0xFF := by
    simp [blankStation, Vector.get]
  have hiff : j + 2 < k - 105 ↔ j < k - 107 := by omega
  rw [(first_save_tornAt hfits (by omega) 3).name, hoffset, hblank, hlast]
  simp only [hiff]

-- What the next boot makes of the first `save` ever when the power goes after `k` bytes of it.
structure FirstSaveCutOff (config : MegaConfig) (k : Nat) (defaults draft : MegaConfig) : Prop where
  early : k < LAST_NAME_ADDRESS → draft = defaults
  late : LAST_NAME_ADDRESS ≤ k →
    (∀ i : Fin 4, (draft.stations.get i).address = (config.stations.get i).address) ∧
      (∀ i : Fin 4, i ≠ 3 → draft.stations.get i = config.stations.get i) ∧
      ∀ j : Fin 32, (draft.stations.get 3).name.buffer.get j
        = if j < k - LAST_NAME_ADDRESS then (config.stations.get 3).name.buffer.get j else .ofNat 0xFF
  terminated : LAST_NAME_ADDRESS ≤ k →
    ((draft.stations.get 3).name.Terminated ↔
      (config.stations.get 3).name.c_str.length < k - LAST_NAME_ADDRESS)

/--
The first `save` of a panel, cut off by the power, is either lost as a whole or taken for a configuration
once the address of the last station is there. Then the name of that station is what has been written of
it, followed by what was in the EEPROM before, and it is a C string only if its terminator has been written.
-/
theorem first_save_cut_off (hfits : MegaConfig.layout.fits config) (hvalid : config.validate)
    (hname : (config.stations.get 3).name.Terminated) (defaults : MegaConfig) (k : Nat)
    : FirstSaveCutOff config k defaults
        (MegaCommissioningSession.new repository (interruptedSave blank config k) defaults).draft := by
  rw [boot_draft]
  by_cases hk : k < LAST_NAME_ADDRESS
  . rw [not_validate_of_first_save hfits hk, if_neg (by decide)]
    constructor
    . exact fun _ => rfl
    . exact fun hle => absurd hk (Nat.not_lt.mpr hle)
    . exact fun hle => absurd hk (Nat.not_lt.mpr hle)
  . have hle := Nat.le_of_not_lt hk
    have haddresses := first_save_addresses hfits hle
    have hlastName := first_save_last_name hfits hle
    rw [validate_congr haddresses, if_pos hvalid]
    constructor
    . exact fun hlt => absurd hlt hk
    . intro _
      refine ⟨haddresses, ?_, hlastName⟩
      intro i hi
      have hlast : LAST_NAME_ADDRESS = 107 := rfl
      have haddress : EEPROM_CONFIG_ADDRESS = 3 := rfl
      have hwidth : MegaStationConfig.layout.width = 34 := rfl
      apply (first_save_tornAt hfits (by omega) i).after
      rw [haddress, hwidth]
      omega
    . exact fun _ => FixedString32.terminated_torn_iff hname _ hlastName

theorem first_save_cut_off_renamed
    : FirstSaveCutOff renamed 110 MegaConfig.buildDefaultConfig
        (MegaCommissioningSession.new repository (interruptedSave blank renamed 110)
          MegaConfig.buildDefaultConfig).draft := by
  apply first_save_cut_off
  . decide +kernel
  . decide +kernel
  . decide +kernel

end EepromConfigurationRepository

end Maltbee
