import Mathlib.Logic.Relation
import MaltbeeController.McsCore.Lemmas.EepromConfigurationRepository
import MaltbeeController.McsCore.Lemmas.MegaCommandGrammar
import MaltbeeController.Mega.Impl.PowerCycle
import MaltbeeController.Mega.Lemmas.StationNames
import MaltbeeController.Mega.Lemmas.Stations

/-!
This module contains the proof that the Mega panel comes up with a valid configuration after any number of
boots, whatever was typed in between and whenever the power went.
-/

namespace Maltbee

open StepRun (run)

namespace FixedString32

-- A string of bytes that the buffer has room for, whatever is behind its terminator.
structure Clean (s : FixedString32) : Prop where
  fits : layout.fits s
  last : s.buffer.get 31 = '\x00'

theorem Clean.terminated {s : FixedString32} (h : s.Clean) : s.Terminated := by
  rw [terminated_iff]
  exact ⟨31, h.last⟩

theorem clean_ofCStr {value : List Char} (h : ∀ c ∈ value, c.toNat < 256)
    : (ofCStr value).Clean := by
  have hholds := ofCStr_holds value
  unfold Holds at hholds
  have hget : ∀ j : Fin 32,
      (ofCStr value).buffer.toList[j.val]? = some ((ofCStr value).buffer.get j) := by
    intro j
    rw [Vector.getElem?_toList, Vector.getElem?_eq_getElem j.isLt]
    rfl
  rw [hholds] at hget
  constructor
  . rw [layout_fits_iff]
    intro j
    have hmem := List.mem_of_getElem? (hget j)
    apply decide_eq_true
    rcases List.mem_append.mp hmem with hpre | hpad
    . apply h
      exact (List.takeWhile_prefix _).subset (List.mem_of_mem_take hpre)
    . rw [List.eq_of_mem_replicate hpad]
      decide
  . have hlast := hget 31
    rw [List.getElem?_append_right (by rw [List.length_take]; exact Nat.min_le_left _ _)] at hlast
    exact List.eq_of_mem_replicate (List.mem_of_getElem? hlast)

theorem clean_default : (default : FixedString32).Clean := by
  constructor
  . decide +kernel
  . rfl

theorem Clean.torn {old new : FixedString32} (hold : old.Clean) (hnew : new.Clean) (k : Nat)
    : (layout.torn old new k).Clean := by
  refine ⟨layout.fits_torn old new k, ?_⟩
  rw [torn_get hold.fits hnew.fits]
  split
  . exact hnew.last
  . exact hold.last

end FixedString32

namespace MegaConfig

def Clean (config : MegaConfig) : Prop :=
  ∀ i : Fin 4, ByteLayout.int16.fits (config.stations.get i).address ∧
    (config.stations.get i).name.Clean

theorem Clean.fits {config : MegaConfig} (h : config.Clean) : layout.fits config := by
  rw [EepromConfigurationRepository.layout_fits_iff]
  intro i
  exact (MegaStationConfig.layout_fits_iff _).mpr ⟨(h i).1, (h i).2.fits⟩

end MegaConfig

namespace MegaCommissioningSession

open Scanf

theorem of_map_store_eq {toInt : Int → Int} {args : List Arg} {station : Int} {word : List Char}
    (h : args.map (Arg.store toInt) = [.int station, .str word])
    : ∃ station', args = [.int station', .str word] := by
  match args with
  | [.int station', .str word'] =>
    simp only [List.map_cons, List.map_nil, Arg.store, List.cons.injEq, Arg.str.injEq] at h
    exact ⟨station', by rw [h.2.1]⟩
  | [] => contradiction
  | [_] => simp at h
  | .str _ :: _ => simp [Arg.store] at h
  | [.int _, .int _] => simp [Arg.store] at h
  | _ :: _ :: _ :: _ => simp at h

theorem mem_of_kind_name {toInt : Int → Int} {line word : List Char} {station : Int}
    (h : kind toInt line = .name station word)
    : ∀ c ∈ word, c ∈ line := by
  have hparts : ∃ station', sscanf id (FixedString32.untilTerminator line) "name %d %31s".toList
      = [.int station', .str word] := by
    unfold kind at h
    dsimp only at h
    split at h
    . contradiction
    . split at h
      . next hname =>
        rw [sscanf_eq_map_store] at hname
        cases h
        exact of_map_store_eq hname
      . split at h
        . contradiction
        . contradiction
  rcases hparts with ⟨station', hargs⟩
  rcases sscanf_name_iff.mp hargs with ⟨_, _, _, _, hparts⟩
  intro c hc
  apply (List.takeWhile_prefix _).subset
  change c ∈ FixedString32.untilTerminator line
  rw [hparts.line_eq]
  simp [hc]

end MegaCommissioningSession

namespace Mega

open MegaCommissioningSession EepromConfigurationRepository

-- A configuration that is in the EEPROM has names that end there.
def Sound (eeprom : ByteMemory) : Prop :=
  Formatted eeprom → ∀ i : Fin 4, ((load eeprom).stations.get i).name.buffer.get 31 = '\x00'

theorem Sound.load_clean {eeprom : ByteMemory} (h : Sound eeprom) : (load eeprom).Clean := by
  intro i
  by_cases hformatted : Formatted eeprom
  . have hlast := h hformatted i
    have hfits := (layout_fits_iff _).mp (image_fits eeprom) i
    rw [load_of_formatted hformatted] at hlast ⊢
    have hfits' := (MegaStationConfig.layout_fits_iff _).mp hfits
    exact ⟨hfits'.1, hfits'.2, hlast⟩
  . have hload : load eeprom = {} := by
      rw [load_eq]
      exact if_neg hformatted
    have hstation : (({} : MegaConfig).stations.get i) = {} := by
      simp [Vector.get]
    rw [hload, hstation]
    exact ⟨by decide, FixedString32.clean_default⟩

theorem sound_of_load_clean {eeprom : ByteMemory} (h : (load eeprom).Clean) : Sound eeprom := by
  intro _ i
  exact (h i).2.last

theorem sound_save (eeprom : ByteMemory) {config : MegaConfig} (h : config.Clean)
    : Sound (save eeprom config).2 := by
  apply sound_of_load_clean
  rw [load_of_formatted (save_formatted eeprom h.fits), image_save eeprom h.fits]
  exact h

theorem sound_interruptedSave {eeprom : ByteMemory} (hformatted : Formatted eeprom) (h : Sound eeprom)
    {config : MegaConfig} (hconfig : config.Clean) (k : Nat)
    : Sound (interruptedSave eeprom config k) := by
  intro _ i
  rw [(stations_tornAt hformatted hconfig.fits k i).name]
  split
  . exact (hconfig i).2.last
  . exact h hformatted i

structure SessionInv (s : MegaCommissioningSession ByteMemory) : Prop where
  range : s.draft.AddressesInRange
  clean : ∀ i : Fin 4, (s.nameOf i).Clean
  sound : Sound s.repository

theorem SessionInv.draft_clean {s : MegaCommissioningSession ByteMemory} (h : SessionInv s)
    : s.draft.Clean := by
  intro i
  have ⟨hmin, hmax⟩ := h.range i
  refine ⟨?_, h.clean i⟩
  apply decide_eq_true
  dsimp only [MegaConfig.kMinAddress, MegaConfig.kMaxAddress] at hmin hmax
  omega

theorem defaults_validate : MegaConfig.buildDefaultConfig.validate := by
  decide +kernel

theorem defaults_clean (i : Fin 4) : (MegaConfig.buildDefaultConfig.stations.get i).name.Clean := by
  match i with
  | 0 => exact @FixedString32.clean_ofCStr "Turnout 1".toList (by simp)
  | 1 => exact @FixedString32.clean_ofCStr "Turnout 2".toList (by simp)
  | 2 => exact @FixedString32.clean_ofCStr "Turnout 3".toList (by simp)
  | 3 => exact @FixedString32.clean_ofCStr "Turnout 4".toList (by simp)

theorem boot_inv {eeprom : ByteMemory} (h : Sound eeprom)
    : SessionInv (.new repository eeprom .buildDefaultConfig) := by
  constructor
  . have hvalid := new_draft_validate repository eeprom defaults_validate
    exact ((MegaConfig.validate_iff _).mp hvalid).1
  . intro i
    unfold nameOf
    rw [boot_draft]
    split
    . exact (h.load_clean i).2
    . exact defaults_clean i
  . unfold MegaCommissioningSession.new
    dsimp only
    split
    . exact h
    . exact h

variable (toInt : Int → Int)

theorem handleLine_inv {s : MegaCommissioningSession ByteMemory} (h : SessionInv s) {line : List Char}
    (hline : Bytes line)
    : SessionInv (s.handleLine repository toInt line).1 := by
  have hname : ∀ station word, kind toInt line = .name station word → ∀ c ∈ word, c.toNat < 256 := by
    intro station word hkind c hc
    exact hline c (mem_of_kind_name hkind c hc)
  have hhandled := handleLine_handled repository toInt s line
  generalize kind toInt line = kind at hhandled hname
  generalize s.handleLine repository toInt line = res at hhandled ⊢
  have hrange := hhandled.addressesInRange repository h.range
  cases hhandled with
  | @address station address hstation haddress =>
    refine ⟨hrange, ?_, h.sound⟩
    intro i
    rw [nameOf_withStation_address]
    exact h.clean i
  | @name station word hstation =>
    refine ⟨hrange, ?_, h.sound⟩
    intro i
    rw [nameOf_withStation_name]
    split
    . exact FixedString32.clean_ofCStr (hname station word rfl)
    . exact h.clean i
  | saved => exact ⟨h.range, h.clean, sound_save s.repository h.draft_clean⟩
  | saveFailed => exact ⟨h.range, h.clean, sound_save s.repository h.draft_clean⟩
  | rejected => exact h

structure ConsoleInv (c : SerialConsole ByteMemory) : Prop where
  session : SessionInv c.commissioningSession
  buffer : Bytes c.serialLineBuffer

theorem receive_inv {c : SerialConsole ByteMemory} (h : ConsoleInv c) {char : Char}
    (hchar : char.toNat < 256)
    : ConsoleInv (c.receive repository toInt char).1 := by
  unfold SerialConsole.receive
  split
  . split
    . refine ⟨?_, by simp [Bytes]⟩
      unfold SerialConsole.execute
      split
      . exact h.session
      . exact handleLine_inv toInt h.session h.buffer
    . exact h
  . split
    . refine ⟨h.session, ?_⟩
      intro c hc
      rcases List.mem_append.mp hc with hold | hnew
      . exact h.buffer c hold
      . rw [List.mem_singleton.mp hnew]
        exact hchar
    . exact h

theorem poll_inv {c : SerialConsole ByteMemory} (h : ConsoleInv c) {serial : List Char}
    (hserial : Bytes serial)
    : ConsoleInv (c.poll repository toInt serial).1 := by
  have hrun := StepRun.run_induction (SerialConsole.receive repository toInt) c
    (P := fun serial c _ => Bytes serial → ConsoleInv c) (fun _ => h)
  apply hrun ?_ serial hserial
  intro serial char c' _ _ hinv hbytes
  apply receive_inv
  . apply hinv
    exact fun c hc => hbytes c (List.mem_append_left _ hc)
  . exact hbytes char (List.mem_append_right _ (List.mem_singleton_self char))

theorem loop_console {ρ : Type u} (port : ConfigurationRepository ρ) (clock : Nat → Nat) (p : Panel ρ)
    (input : LoopInput)
    : (p.loop port toInt clock input).1.console = (p.console.poll port toInt input.serial).1 := by
  have hpressed : (p.updateInputs clock input |>.startPressed clock).console = p.console := by
    unfold Panel.startPressed
    dsimp only
    split
    . split <;> rfl
    . split <;> rfl
  simp only [Panel.loop]
  exact congrArg (fun c : SerialConsole ρ => (c.poll port toInt input.serial).1) hpressed

theorem runFrom_inv {eeprom : ByteMemory} (h : Sound eeprom) (clock : Nat → Nat)
    {inputs : List LoopInput} (hbytes : ∀ i ∈ inputs, Bytes i.serial)
    : ConsoleInv (Panel.runFrom toInt clock eeprom inputs).console := by
  have hrun := StepRun.run_induction (Panel.loop repository toInt clock) (Panel.switchOn eeprom)
    (P := fun inputs p _ => (∀ i ∈ inputs, Bytes i.serial) → ConsoleInv p.console)
    (fun _ => ⟨boot_inv h, by simp [Bytes, Panel.switchOn, Panel.setup, Panel.new]⟩)
  apply hrun ?_ inputs hbytes
  intro inputs input p _ _ hinv hbytes
  rw [loop_console]
  apply poll_inv
  . apply hinv
    exact fun i hi => hbytes i (List.mem_append_left _ hi)
  . exact hbytes input (List.mem_append_right _ (List.mem_singleton_self input))

theorem PowerCycle.sound {eeprom eeprom' : ByteMemory} (hcycle : PowerCycle toInt eeprom eeprom')
    (h : Sound eeprom)
    : Sound eeprom' := by
  cases hcycle with
  | off clock inputs hbytes => exact (runFrom_inv toInt h clock hbytes).session.sound
  | cutOff clock inputs hbytes serial hserial k console hconsole _ hformatted =>
    have hinv : ConsoleInv console := by
      rw [hconsole]
      exact poll_inv toInt (runFrom_inv toInt h clock hbytes) hserial
    exact sound_interruptedSave hformatted hinv.session.sound hinv.session.draft_clean k

structure ComesUp (eeprom : ByteMemory) (session : MegaCommissioningSession ByteMemory) : Prop where
  stored_or_defaults : session.draft = load eeprom ∨ session.draft = .buildDefaultConfig
  validate : session.draft.validate
  terminated : ∀ i : Fin 4, (session.nameOf i).Terminated
  addresses : ((Panel.setup session).stations.map stationPanel.address).Nodup

/--
After any number of boots, with anything typed in between and the power going at any byte of any `save`, the
panel comes up with a valid configuration whose names end within their buffers. Only the first `save` of all
has to be complete.
-/
theorem comes_up {eeprom eeprom' : ByteMemory} (h : Sound eeprom)
    (hcycles : Relation.ReflTransGen (PowerCycle toInt) eeprom eeprom')
    : ComesUp eeprom' (.new repository eeprom' .buildDefaultConfig) := by
  have hsound : Sound eeprom' := by
    induction hcycles with
    | refl => exact h
    | tail _ hcycle ih => exact hcycle.sound toInt ih
  have hinv := boot_inv hsound
  have hvalid := new_draft_validate repository eeprom' defaults_validate
  constructor
  . rw [boot_draft]
    split
    . exact .inl rfl
    . exact .inr rfl
  . exact hvalid
  . exact fun i => (hinv.clean i).terminated
  . exact setup_nodup hvalid

theorem blank_sound : Sound blank := by
  intro hformatted
  unfold Formatted at hformatted
  rw [image_blank] at hformatted
  contradiction

def typed (line : List Char) : List LoopInput :=
  line.map fun c => ⟨fun _ => false, fun _ => false, none, false, false, [c]⟩

theorem bytes_typed {line : List Char} (h : Bytes line) : ∀ i ∈ typed line, Bytes i.serial := by
  intro i hi
  rcases List.mem_map.mp hi with ⟨c, hc, rfl⟩
  intro c' hc'
  rw [List.mem_singleton.mp hc']
  exact h c hc

def firstSaved : ByteMemory :=
  (Panel.runFrom id id blank (typed "name 2 Yard\nsave\n".toList)).console.commissioningSession.repository

def secondSave : SerialConsole ByteMemory :=
  (Panel.runFrom id id firstSaved []).receiving id "address 2 513\nsave".toList

theorem comes_up_cut_off
    : let eeprom := interruptedSave secondSave.commissioningSession.repository
        secondSave.commissioningSession.draft 38
      ComesUp eeprom (.new repository eeprom .buildDefaultConfig) := by
  apply comes_up id blank_sound
  apply Relation.ReflTransGen.tail (b := firstSaved)
  . apply Relation.ReflTransGen.single
    apply PowerCycle.off
    apply bytes_typed
    simp [Bytes]
  . refine PowerCycle.cutOff id [] ?_ "address 2 513\nsave".toList ?_ 38 secondSave rfl ?_ ?_
    . simp
    . simp [Bytes]
    . decide +kernel
    . unfold Formatted
      decide +kernel

end Mega

end Maltbee
