import MaltbeeController.McsCore.Lemmas.FixedString32
import MaltbeeController.McsCore.Lemmas.MegaCommandGrammar
import MaltbeeController.Mega.Impl.Loop

/-!
This module contains the proof that the name given to a station on the commissioning console is cut off
once, when the line is read, and is the same in the draft, in the repository and on the panel.
-/

namespace Maltbee

open Words Scanf
open StepRun (run run_cons)

namespace MegaCommissioningSession

-- A line that gives a station a name: a word of any length, of which `sscanf` reads 31 characters.
inductive NamingLine : List Char → Int → List Char → Prop where
  | intro {spaces ws spaces' name rest : List Char} {station : Int}
      (hspaces : ∀ c ∈ spaces, isSpace c) (hstation : Decimal.Numeral ws station)
      (hends : ∀ c ∈ (spaces' ++ (name ++ rest)).head?, c.isDigit = false)
      (hspaces' : ∀ c ∈ spaces', isSpace c) (hname : IsWord name) (hrest : ∀ c ∈ rest.head?, isSpace c)
      : NamingLine ("name".toList ++ (spaces ++ (ws ++ (spaces' ++ (name ++ rest))))) station name

section Kind

variable {toInt : Int → Int} {line name : List Char} {station : Int}

theorem isWord_take (h : IsWord name) : IsWord (name.take 31) := by
  constructor
  . rw [Ne, List.take_eq_nil_iff]
    rintro (h31 | hnil)
    . contradiction
    . exact h.1 hnil
  . intro c hc
    exact h.2 c (List.mem_of_mem_take hc)

theorem NamingLine.nameParts (h : NamingLine line station name)
    : ∃ spaces ws spaces' rest, NameParts line spaces ws spaces' (name.take 31) rest station := by
  cases h with
  | @intro spaces ws spaces' _ rest _ hspaces hstation hends hspaces' hname hrest =>
    have hname_rest : name.take 31 ++ (name.drop 31 ++ rest) = name ++ rest := by
      rw [← List.append_assoc, List.take_append_drop]
    refine ⟨spaces, ws, spaces', name.drop 31 ++ rest, ?_⟩
    constructor
    . rw [hname_rest]
    . exact hspaces
    . exact hstation
    . rw [hname_rest]
      exact hends
    . exact hspaces'
    . exact isWord_take hname
    . rw [List.length_take]
      omega
    . -- Less than 31 characters are all that there are.
      intro hlt
      rw [List.length_take] at hlt
      rw [List.drop_eq_nil_of_le (by omega)]
      exact hrest

theorem sscanf_eq_map_store (toInt : Int → Int) (line format : List Char)
    : sscanf toInt line format = (sscanf id line format).map (Arg.store toInt) := by
  unfold sscanf
  apply scan_eq_map_store

-- Whether a line is an `address` command does not depend on how the numbers are stored.
theorem sscanf_address_of_sscanf {station' address' : Int}
    (h : sscanf toInt line "address %d %d".toList = [.int station', .int address'])
    : ∃ station address, sscanf id line "address %d %d".toList = [.int station, .int address] := by
  rw [sscanf_eq_map_store] at h
  generalize sscanf id line "address %d %d".toList = args at h ⊢
  match args with
  | [.int station, .int address] => exact ⟨station, address, rfl⟩
  | [] => contradiction
  | [_] => simp at h
  | .str _ :: _ => simp [Arg.store] at h
  | [.int _, .str _] => simp [Arg.store] at h
  | _ :: _ :: _ :: _ => simp at h

theorem NamingLine.kind_eq
    (h : NamingLine (FixedString32.untilTerminator line) station name)
    (htoInt : toInt station = station)
    : kind toInt line = .name station (name.take 31) := by
  rcases h.nameParts with ⟨spaces, ws, spaces', rest, hparts⟩
  apply kind_name
  . intro station' address' hargs
    rcases sscanf_address_of_sscanf hargs with ⟨_, _, haddress⟩
    rcases sscanf_address_iff.mp haddress with ⟨_, _, _, _, _, haddress⟩
    exact address_ne_name _ _ (haddress.line_eq.symm.trans hparts.line_eq)
  . rw [sscanf_eq_map_store]
    rw [sscanf_name_iff.mpr ⟨spaces, ws, spaces', rest, hparts⟩]
    simp [Arg.store, htoInt]

end Kind

variable {ρ : Type u} (port : ConfigurationRepository ρ) (toInt : Int → Int)

def nameOf (s : MegaCommissioningSession ρ) (i : Fin 4) : FixedString32 :=
  (s.draft.stations.get i).name

section Handled

variable {port} {s : MegaCommissioningSession ρ} {i : Fin 4}
variable {res : MegaCommissioningSession ρ × FixedString32}

theorem nameOf_withStation_name (station : Int) (h) (name : FixedString32)
    : (s.withStation station h ({ · with name := name })).nameOf i
        =
      if (i : Int) = station - 1 then name else s.nameOf i := by
  unfold nameOf
  rw [withStation_draft]
  split
  . rfl
  . rfl

theorem nameOf_withStation_address (station address : Int) (h)
    : (s.withStation station h ({ · with address := address })).nameOf i = s.nameOf i := by
  unfold nameOf
  rw [withStation_draft]
  split
  . rfl
  . rfl

theorem Handled.nameOf_eq {kind : LineKind} (h : Handled port s kind res)
    (hkind : ∀ name, kind ≠ .name (i + 1) name)
    : res.1.nameOf i = s.nameOf i := by
  cases h with
  | address h => exact nameOf_withStation_address _ _ h
  | @name station name h =>
    rw [nameOf_withStation_name]
    apply if_neg
    intro hi
    apply hkind name
    congr
    omega
  | saved => rfl
  | saveFailed => rfl
  | rejected => rfl

theorem Handled.nameOf_of_name {name : List Char} (h : Handled port s (.name (i + 1) name) res)
    : res.1.nameOf i = .ofCStr name := by
  have hi := i.isLt
  generalize hstation : (i : Int) + 1 = station at h
  cases h with
  | name h =>
    rw [nameOf_withStation_name]
    apply if_pos
    omega
  | rejected hkind =>
    apply (hkind _).elim
    simp only [LineKind.isCommand, MegaConfig.kStationCount]
    omega

end Handled

theorem run_nameOf_eq (s : MegaCommissioningSession ρ) (i : Fin 4) (lines : List (List Char))
    (h : ∀ line ∈ lines, ∀ name, kind toInt line ≠ .name (i + 1) name)
    : (run (call port toInt) s lines).1.nameOf i = s.nameOf i := by
  induction lines generalizing s with
  | nil => rfl
  | cons line lines ih =>
    rw [run_cons]
    dsimp only
    rw [ih]
    . apply (handleLine_handled port toInt s line).nameOf_eq
      apply h
      exact List.mem_cons_self
    . intro line hline
      apply h
      exact List.mem_cons_of_mem _ hline

-- The name that the station has wherever it has been copied to: in the draft, in the repository after a
-- `save`, and in what the panel is set up with. At the next boot that is what has been saved, unless an
-- address is shared and the boot falls back on the defaults.
structure Named (s : MegaCommissioningSession ρ) (i : Fin 4) (name : FixedString32) : Prop where
  draft : s.nameOf i = name
  repository : (s.handleLine port toInt "save".toList).2 = .ofCStr "OK".toList →
    ((port.load (s.handleLine port toInt "save".toList).1.repository).stations.get i).name = name
  station : ((Mega.Panel.setup s).stations[i.val]?).map (·.turnout.name) = some name
  rebooted : (s.handleLine port toInt "save".toList).2 = .ofCStr "OK".toList → s.draft.validate →
    ∀ defaults, (nextBoot port toInt defaults s).nameOf i = name ∧
      ((Mega.Panel.setup (nextBoot port toInt defaults s)).stations[i.val]?).map (·.turnout.name)
        = some name

theorem setup_name (s : MegaCommissioningSession ρ) (i : Fin 4)
    : ((Mega.Panel.setup s).stations[i.val]?).map (·.turnout.name)
        =
      some (.ofCStr (s.nameOf i).c_str) := by
  have hget : s.draft.stations.toList[i.val]? = some (s.draft.stations.get i) := by
    rw [Vector.getElem?_toList, Vector.getElem?_eq_getElem i.isLt]
    rfl
  unfold Mega.Panel.setup Mega.Panel.new
  dsimp only
  rw [List.getElem?_map, hget]
  rfl

theorem setup_name_of_nameOf {s : MegaCommissioningSession ρ} {i : Fin 4} {value : List Char}
    (h : s.nameOf i = .ofCStr value)
    : ((Mega.Panel.setup s).stations[i.val]?).map (·.turnout.name) = some (.ofCStr value) := by
  rw [setup_name, h, FixedString32.ofCStr_c_str_ofCStr]

theorem named_of_nameOf {s : MegaCommissioningSession ρ} {i : Fin 4} {value : List Char}
    (h : s.nameOf i = .ofCStr value)
    : Named port toInt s i (.ofCStr value) := by
  constructor
  . exact h
  . intro hok
    rw [load_of_save_ok port toInt hok]
    exact h
  . exact setup_name_of_nameOf h
  . intro hok hvalid defaults
    have hload := load_of_save_ok port toInt hok
    have hdraft : (nextBoot port toInt defaults s).draft = s.draft := by
      unfold nextBoot new
      rw [hload]
      dsimp only
      rw [hvalid]
      rfl
    have hname : (nextBoot port toInt defaults s).nameOf i = .ofCStr value := by
      unfold nameOf at *
      rw [hdraft]
      exact h
    exact ⟨hname, setup_name_of_nameOf hname⟩

/--
A `FixedString32` keeps the first 31 characters of a string of any length and is equal to these alone.
A name that a line of the console gives to a station is cut off like that once and then stays what it is,
whatever lines come after it, until one of them names the station again. Of `%d` it takes only that it
stores the number of the station as it is.
-/
theorem names_cut_once (s t : CString)
    : FixedString32.Wraps s t (.ofCStr s.chars)
        ∧
      ∀ (session : MegaCommissioningSession ρ) (i : Fin 4) (line : List Char)
        (lines : List (List Char)),
        NamingLine (FixedString32.untilTerminator line) (i + 1) s.chars →
        toInt (i + 1) = i + 1 →
        (∀ line' ∈ lines, ∀ name, kind toInt line' ≠ .name (i + 1) name) →
        Named port toInt (run (call port toInt) session (line :: lines)).1 i (.ofCStr s.chars) := by
  refine ⟨FixedString32.wraps s t, ?_⟩
  intro session i line lines hline htoInt hlines
  have hhandled := handleLine_handled port toInt session line
  rw [hline.kind_eq htoInt] at hhandled
  have hagain := FixedString32.ofCStr_c_str_ofCStr s.chars
  rw [(FixedString32.wraps s t).c_str] at hagain
  apply named_of_nameOf
  rw [run_cons]
  dsimp only
  rw [run_nameOf_eq port toInt _ i lines hlines]
  rw [← hagain]
  exact hhandled.nameOf_of_name

def longName : CString where
  chars := "Northern-approach-of-the-old-yard-ladder".toList
  ne_terminator := by simp

theorem namingLine_longName
    : NamingLine (FixedString32.untilTerminator ("name 2 ".toList ++ longName.chars)) 2
        longName.chars := by
  have hstation : Decimal.Numeral "2".toList 2 := .unsigned (by simp) (by simp)
  have hname : IsWord longName.chars := by decide
  have hline : FixedString32.untilTerminator ("name 2 ".toList ++ longName.chars)
      = "name".toList ++ ([' '] ++ ("2".toList ++ ([' '] ++ (longName.chars ++ [])))) := by rfl
  rw [hline]
  exact .intro isSpace_of_mem_blank hstation (by simp) isSpace_of_mem_blank hname (by simp)

theorem names_cut_once_longName
    : Named InMemoryConfigurationRepository.repository id
        (afterOnNewBoard ["name 2 ".toList ++ longName.chars, "name 1 Yard".toList]) 1
        (.ofCStr longName.chars) := by
  have hcut := names_cut_once InMemoryConfigurationRepository.repository id longName longName
  apply hcut.2 _ 1 _ _ namingLine_longName rfl
  intro line hline name
  rw [List.mem_singleton.mp hline]
  have hkind : kind id "name 1 Yard".toList = .name 1 "Yard".toList := by decide
  rw [hkind]
  simp

end MegaCommissioningSession

end Maltbee
