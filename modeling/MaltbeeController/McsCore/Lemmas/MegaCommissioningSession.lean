import MaltbeeController.Lib.BoundedArray
import MaltbeeController.Lib.StepRun
import MaltbeeController.McsCore.Impl.MegaCommissioningSession

/-!
This module contains the theory of the commissioning session of the Mega: what a line can do to the
draft and the repository, and which of the saved drafts the next boot accepts.
-/

namespace Maltbee

namespace MegaConfig

def AddressesInRange (config : MegaConfig) : Prop :=
  ∀ i : Fin 4,
    kMinAddress ≤ (config.stations.get i).address
      ∧
    (config.stations.get i).address ≤ kMaxAddress

def AddressesDistinct (config : MegaConfig) : Prop :=
  ∀ i j : Fin 4, i < j → (config.stations.get j).address ≠ (config.stations.get i).address

instance (config : MegaConfig) : Decidable config.AddressesDistinct :=
  inferInstanceAs (Decidable (∀ _ _, _))

theorem validate_iff (config : MegaConfig)
    : config.validate ↔ config.AddressesInRange ∧ config.AddressesDistinct := by
  unfold validate AddressesInRange AddressesDistinct
  simp only [List.all_eq_true, List.mem_finRange, List.mem_filter, Bool.and_eq_true,
    Bool.not_eq_true', decide_eq_true_eq, decide_eq_false_iff_not, Bool.or_eq_false_iff,
    true_and, forall_const, Int.not_lt, gt_iff_lt]
  exact forall_and

end MegaConfig

namespace MegaCommissioningSession

open Scanf

variable {ρ : Type u} (port : ConfigurationRepository ρ) (toInt : Int → Int)

-- What a line is taken for: the first of the three forms that it has as a whole.
inductive LineKind where
  | address (station address : Int)
  | name (station : Int) (name : List Char)
  | save
  | unknown
  deriving DecidableEq, Repr

def kind (toInt : Int → Int) (line : List Char) : LineKind :=
  let line := FixedString32.untilTerminator line
  match sscanf toInt line "address %d %d".toList with
  | [.int station, .int address] => .address station address
  | _ =>
    match sscanf toInt line "name %d %31s".toList with
    | [.int station, .str name] => .name station name
    | _ => if line = "save".toList then .save else .unknown

section Kind

variable {toInt : Int → Int} {line : List Char}

theorem kind_address {station address : Int}
    (h : sscanf toInt (FixedString32.untilTerminator line) "address %d %d".toList
      = [.int station, .int address])
    : kind toInt line = .address station address := by
  unfold kind
  simp only [h]

theorem kind_name {station : Int} {name : List Char}
    (haddress : ∀ station address, sscanf toInt (FixedString32.untilTerminator line)
      "address %d %d".toList = [.int station, .int address] → False)
    (h : sscanf toInt (FixedString32.untilTerminator line) "name %d %31s".toList
      = [.int station, .str name])
    : kind toInt line = .name station name := by
  unfold kind
  dsimp only
  split
  . next heq => exact (haddress _ _ heq).elim
  . simp only [h]

theorem kind_other
    (haddress : ∀ station address, sscanf toInt (FixedString32.untilTerminator line)
      "address %d %d".toList = [.int station, .int address] → False)
    (hname : ∀ station name, sscanf toInt (FixedString32.untilTerminator line)
      "name %d %31s".toList = [.int station, .str name] → False)
    : kind toInt line
        =
      if FixedString32.untilTerminator line = "save".toList then .save else .unknown := by
  unfold kind
  dsimp only
  split
  . next heq => exact (haddress _ _ heq).elim
  . split
    . next heq => exact (hname _ _ heq).elim
    . rfl

end Kind

def LineKind.isCommand (kind : LineKind) : Prop :=
  match kind with
  | .address station value =>
    ¬(station < 1 ∨ station > MegaConfig.kStationCount) ∧
      ¬(value < MegaConfig.kMinAddress ∨ value > MegaConfig.kMaxAddress)
  | .name station _ => ¬(station < 1 ∨ station > MegaConfig.kStationCount)
  | .save => True
  | .unknown => False

-- All that can become of a session with a line of some kind, and of the reply to it.
inductive Handled (s : MegaCommissioningSession ρ)
    : LineKind → MegaCommissioningSession ρ × FixedString32 → Prop where
  | address {station address : Int} (h : ¬(station < 1 ∨ station > MegaConfig.kStationCount))
      (haddress : ¬(address < MegaConfig.kMinAddress ∨ address > MegaConfig.kMaxAddress))
      : Handled s (.address station address)
          (s.withStation station h ({ · with address := address }), .ofCStr "OK".toList)
  | name {station : Int} {name : List Char}
      (h : ¬(station < 1 ∨ station > MegaConfig.kStationCount))
      : Handled s (.name station name)
          (s.withStation station h ({ · with name := .ofCStr name }), .ofCStr "OK".toList)
  | saved (h : (port.save s.repository s.draft).1 = true)
      : Handled s .save
          ({ s with repository := (port.save s.repository s.draft).2 }, .ofCStr "OK".toList)
  | saveFailed (h : (port.save s.repository s.draft).1 = false)
      : Handled s .save
          (
            { s with repository := (port.save s.repository s.draft).2 },
            .ofCStr "ERR: save failed".toList
          )
  | rejected {kind : LineKind} {error : List Char} (hkind : ¬kind.isCommand)
      (herror : FixedString32.ofCStr error ≠ .ofCStr "OK".toList)
      : Handled s kind (s, .ofCStr error)

theorem handleLine_handled (s : MegaCommissioningSession ρ) (line : List Char)
    : Handled port s (kind toInt line) (s.handleLine port toInt line) := by
  unfold handleLine
  dsimp only
  split
  . next hargs =>
    rw [kind_address hargs]
    split
    . next h =>
      apply Handled.rejected
      . exact fun hcommand => hcommand.1 h
      . apply FixedString32.ofCStr_ne
        decide
    . next h =>
      split
      . next haddress =>
        apply Handled.rejected
        . exact fun hcommand => hcommand.2 haddress
        . apply FixedString32.ofCStr_ne
          decide
      . next haddress => exact .address h haddress
  . next hargs =>
    split
    . next hname =>
      rw [kind_name hargs hname]
      split
      . next h =>
        apply Handled.rejected
        . exact fun hcommand => hcommand h
        . apply FixedString32.ofCStr_ne
          decide
      . next h => exact .name h
    . next hname =>
      rw [kind_other hargs hname]
      split
      . split
        . next h => exact .saved h
        . next h => exact .saveFailed (by simpa using h)
      . apply Handled.rejected
        . exact id
        . apply FixedString32.ofCStr_ne
          decide

theorem withStation_draft (s : MegaCommissioningSession ρ) (station : Int) (h)
    (edit : MegaStationConfig → MegaStationConfig) (i : Fin 4)
    : (s.withStation station h edit).draft.stations.get i
        =
      if (i : Int) = station - 1 then
        edit (s.draft.stations.get i)
      else
        s.draft.stations.get i := by
  have hi := i.isLt
  simp only [MegaConfig.kStationCount] at h
  apply (Vector.get_set_fin s.draft.stations ⟨(station - 1).toNat, by omega⟩ i _).trans
  simp only [Fin.ext_iff]
  split
  . next heq =>
    rw [if_pos (by omega)]
    congr 2
    exact Fin.ext heq
  . next hne =>
    rw [if_neg (by omega)]

theorem Handled.addressesInRange {kind : LineKind} {s : MegaCommissioningSession ρ}
    {res : MegaCommissioningSession ρ × FixedString32} (hhandled : Handled port s kind res)
    (h : s.draft.AddressesInRange)
    : res.1.draft.AddressesInRange := by
  intro i
  cases hhandled with
  | address hstation haddress =>
    rw [withStation_draft]
    split
    . constructor
      . exact Int.not_lt.mp fun hlt => haddress (.inl hlt)
      . exact Int.not_lt.mp fun hgt => haddress (.inr hgt)
    . exact h i
  | name hstation =>
    rw [withStation_draft]
    split
    . exact h i
    . exact h i
  | saved | saveFailed | rejected => exact h i

theorem call_addressesInRange (s : MegaCommissioningSession ρ) (line : List Char)
    (h : s.draft.AddressesInRange)
    : (s.call port toInt line).1.draft.AddressesInRange :=
  (handleLine_handled port toInt s line).addressesInRange port h

theorem new_draft_validate (repository : ρ) {defaults : MegaConfig} (hdefaults : defaults.validate)
    : (new port repository defaults).draft.validate := by
  unfold new
  dsimp only
  split
  . exact hdefaults
  . next h => simpa using h

def after (repository : ρ) (defaults : MegaConfig) (lines : List (List Char))
    : MegaCommissioningSession ρ :=
  (StepRun.run (call port toInt) (new port repository defaults) lines).1

theorem after_addressesInRange (repository : ρ) {defaults : MegaConfig}
    (hdefaults : defaults.validate) (lines : List (List Char))
    : (after port toInt repository defaults lines).draft.AddressesInRange := by
  apply StepRun.run_invariant (P := fun s : MegaCommissioningSession ρ => s.draft.AddressesInRange)
  . have := new_draft_validate port repository hdefaults
    exact ((MegaConfig.validate_iff _).mp this).1
  . intro s line h
    apply call_addressesInRange port toInt s line h

theorem new_draft_eq_iff {repository : ρ} {defaults : MegaConfig} (hdefaults : defaults.validate)
    : (new port repository defaults).draft = port.load repository
        ↔
      (port.load repository).validate := by
  constructor
  . intro h
    rw [← h]
    apply new_draft_validate port repository hdefaults
  . intro h
    simp [new, h]

theorem handleLine_save (s : MegaCommissioningSession ρ)
    : s.handleLine port toInt "save".toList
        =
      (
        { s with repository := (port.save s.repository s.draft).2 },
        if (port.save s.repository s.draft).1 then
          .ofCStr "OK".toList
        else
          .ofCStr "ERR: save failed".toList
      ) := by
  rfl

theorem save_failed_ne_ok
    : FixedString32.ofCStr "ERR: save failed".toList ≠ .ofCStr "OK".toList := by
  apply FixedString32.ofCStr_ne
  decide

theorem load_of_save_ok {s : MegaCommissioningSession ρ}
    (h : (s.handleLine port toInt "save".toList).2 = .ofCStr "OK".toList)
    : port.load (s.handleLine port toInt "save".toList).1.repository = s.draft := by
  rw [handleLine_save] at *
  dsimp only at *
  apply port.load_save
  split at h
  . assumption
  . exact absurd h save_failed_ne_ok

-- The session of the next boot when `save` is the last thing `s` handles.
def nextBoot (defaults : MegaConfig) (s : MegaCommissioningSession ρ)
    : MegaCommissioningSession ρ :=
  new port (s.handleLine port toInt "save".toList).1.repository defaults

/--
A draft that was saved is what the next boot starts with exactly if no two stations share an address
in it. If two do, `save` is answered `OK` all the same.
-/
theorem nextBoot_draft_iff (repository : ρ) (defaults : MegaConfig)
    (hdefaults : defaults.validate) (lines : List (List Char))
    (hok :
      ((after port toInt repository defaults lines).handleLine port toInt "save".toList).2
        =
      .ofCStr "OK".toList)
    : (nextBoot port toInt defaults (after port toInt repository defaults lines)).draft
          =
        (after port toInt repository defaults lines).draft
        ↔
      (after port toInt repository defaults lines).draft.AddressesDistinct := by
  have hrange := after_addressesInRange port toInt repository hdefaults lines
  have hload := load_of_save_ok port toInt hok
  unfold nextBoot
  rw [← hload]
  rw [new_draft_eq_iff port hdefaults]
  rw [hload]
  rw [MegaConfig.validate_iff]
  simp [hrange]

def afterOnNewBoard (lines : List (List Char)) : MegaCommissioningSession MegaConfig :=
  after InMemoryConfigurationRepository.repository id {} .buildDefaultConfig lines

theorem nextBoot_draft_iff_renamed
    : (nextBoot InMemoryConfigurationRepository.repository id .buildDefaultConfig
          (afterOnNewBoard ["name 2 Yard".toList])).draft
          =
        (afterOnNewBoard ["name 2 Yard".toList]).draft
        ↔
      (afterOnNewBoard ["name 2 Yard".toList]).draft.AddressesDistinct := by
  apply nextBoot_draft_iff InMemoryConfigurationRepository.repository id {} .buildDefaultConfig
  . decide +kernel
  . decide +kernel

-- Station 1 takes the address of station 2: `save` is answered `OK` and the next boot has the defaults.
theorem nextBoot_draft_ne_of_shared_address
    : MegaConfig.buildDefaultConfig.validate ∧
        ((afterOnNewBoard ["address 1 102".toList]).handleLine
            InMemoryConfigurationRepository.repository id "save".toList).2
          = .ofCStr "OK".toList ∧
        (nextBoot InMemoryConfigurationRepository.repository id .buildDefaultConfig
            (afterOnNewBoard ["address 1 102".toList])).draft
          ≠ (afterOnNewBoard ["address 1 102".toList]).draft := by
  decide +kernel

end MegaCommissioningSession

end Maltbee
