import MaltbeeController.McsCore.Lemmas.MegaCommissioningSession

/-!
This module contains the grammar of the lines that edit the draft of the Mega, and the lines with which
the session does not keep to it.
-/

namespace Maltbee

open Words Scanf

inductive MegaEdit where
  | address (station address : Int)
  | name (station : Int) (text : List Char)
  deriving DecidableEq, Repr

namespace MegaEdit

def IntIn (w : List Char) (v min max : Int) : Prop :=
  Decimal.Numeral w v ∧ min ≤ v ∧ v ≤ max

inductive Grammar : List Char → MegaEdit → Prop where
  | address {ws wa : List Char} {station address : Int}
      (hstation : IntIn ws station 1 MegaConfig.kStationCount)
      (haddress : IntIn wa address MegaConfig.kMinAddress MegaConfig.kMaxAddress)
      : Grammar ("address".toList ++ ([' '] ++ (ws ++ ([' '] ++ wa)))) (.address station address)
  | name {ws text : List Char} {station : Int}
      (hstation : IntIn ws station 1 MegaConfig.kStationCount) (htext : text ≠ [])
      : Grammar ("name".toList ++ ([' '] ++ (ws ++ ([' '] ++ text)))) (.name station text)

-- The second draft is the first one with the edit in it and nothing else. A name has room for 31
-- characters.
def Staged (edit : MegaEdit) (draft draft' : MegaConfig) : Prop :=
  match edit with
  | .address station value =>
    ∀ i : Fin 4, draft'.stations.get i
        =
      if (i : Int) = station - 1 then
        { draft.stations.get i with address := value }
      else
        draft.stations.get i
  | .name station text =>
    ∀ i : Fin 4,
      if (i : Int) = station - 1 then
        (draft'.stations.get i).name.c_str = text.take 31 ∧
          (draft'.stations.get i).address = (draft.stations.get i).address
      else
        draft'.stations.get i = draft.stations.get i

end MegaEdit

namespace MegaCommissioningSession

open MegaEdit

structure AddressParts (line spaces ws spaces' wa rest : List Char) (station address : Int)
    : Prop where
  line_eq : line = "address".toList ++ (spaces ++ (ws ++ (spaces' ++ (wa ++ rest))))
  station_spaced : ∀ c ∈ spaces, isSpace c
  station_numeral : Decimal.Numeral ws station
  station_ends : ∀ c ∈ (spaces' ++ (wa ++ rest)).head?, c.isDigit = false
  address_spaced : ∀ c ∈ spaces', isSpace c
  address_numeral : Decimal.Numeral wa address
  address_ends : ∀ c ∈ rest.head?, c.isDigit = false

structure NameParts (line spaces ws spaces' word rest : List Char) (station : Int) : Prop where
  line_eq : line = "name".toList ++ (spaces ++ (ws ++ (spaces' ++ (word ++ rest))))
  station_spaced : ∀ c ∈ spaces, isSpace c
  station_numeral : Decimal.Numeral ws station
  station_ends : ∀ c ∈ (spaces' ++ (word ++ rest)).head?, c.isDigit = false
  word_spaced : ∀ c ∈ spaces', isSpace c
  isWord : IsWord word
  word_length : word.length ≤ 31
  word_ends : word.length < 31 → ∀ c ∈ rest.head?, isSpace c

section Parts

variable {line spaces ws spaces' wa word rest : List Char} {station address : Int}

theorem sscanf_address_iff
    : sscanf id line "address %d %d".toList = [.int station, .int address]
        ↔
      ∃ spaces ws spaces' wa rest, AddressParts line spaces ws spaces' wa rest station address := by
  have hformat : directives none "address %d %d".toList
      = "address".toList.map .lit ++ [.white, .int, .white, .int] := by decide
  rw [sscanf_eq_iff (by rfl)]
  rw [hformat]
  rw [reads_lits_iff _ (by simp)]
  simp only [reads_white_int_iff, reads_nil_iff]
  constructor
  . rintro ⟨_, hline, spaces, ws, v, _, _, rfl, hargs, hspaces, hws, hends, spaces', wa, v', rest, _,
      rfl, rfl, hspaces', hwa, hends', rfl⟩
    simp only [List.cons.injEq, Arg.int.injEq, id_eq, and_true] at hargs
    rw [hargs.1, hargs.2]
    exact ⟨spaces, ws, spaces', wa, rest, hline, hspaces, hws, hends, hspaces', hwa, hends'⟩
  . rintro ⟨spaces, ws, spaces', wa, rest, h⟩
    exact ⟨_, h.line_eq, spaces, ws, station, _, _, rfl, rfl, h.station_spaced, h.station_numeral,
      h.station_ends, spaces', wa, address, rest, _, rfl, rfl, h.address_spaced, h.address_numeral,
      h.address_ends, rfl⟩

theorem sscanf_name_iff
    : sscanf id line "name %d %31s".toList = [.int station, .str word]
        ↔
      ∃ spaces ws spaces' rest, NameParts line spaces ws spaces' word rest station := by
  have hformat : directives none "name %d %31s".toList
      = "name".toList.map .lit ++ [.white, .int, .white, .str 31] := by decide
  rw [sscanf_eq_iff (by rfl)]
  rw [hformat]
  rw [reads_lits_iff _ (by simp)]
  simp only [reads_white_int_iff, reads_white_str_iff, reads_nil_iff]
  constructor
  . rintro ⟨_, hline, spaces, ws, v, _, _, rfl, hargs, hspaces, hws, hends, spaces', w, rest, _,
      rfl, rfl, hspaces', hw, hlength, hends', rfl⟩
    simp only [List.cons.injEq, Arg.int.injEq, Arg.str.injEq, id_eq, and_true] at hargs
    rw [hargs.1, hargs.2]
    exact ⟨spaces, ws, spaces', rest, hline, hspaces, hws, hends, hspaces', hw, hlength, hends'⟩
  . rintro ⟨spaces, ws, spaces', rest, h⟩
    exact ⟨_, h.line_eq, spaces, ws, station, _, _, rfl, rfl, h.station_spaced, h.station_numeral,
      h.station_ends, spaces', word, rest, _, rfl, rfl, h.word_spaced, h.isWord, h.word_length,
      h.word_ends, rfl⟩

theorem AddressParts.unique {spaces₂ ws₂ spaces₂' wa₂ rest₂ : List Char} {station₂ address₂ : Int}
    (h : AddressParts line spaces ws spaces' wa rest station address)
    (h₂ : AddressParts line spaces₂ ws₂ spaces₂' wa₂ rest₂ station₂ address₂)
    : spaces = spaces₂ ∧ spaces' = spaces₂' ∧ rest = rest₂ := by
  have hline := h.line_eq.symm.trans h₂.line_eq
  rw [List.append_cancel_left_eq] at hline
  rcases Decimal.spaces_numeral_append_inj h.station_spaced h₂.station_spaced h.station_numeral
    h₂.station_numeral h.station_ends h₂.station_ends hline with ⟨hspaces, _, htail⟩
  rcases Decimal.spaces_numeral_append_inj h.address_spaced h₂.address_spaced h.address_numeral
    h₂.address_numeral h.address_ends h₂.address_ends htail with ⟨hspaces', _, hrest⟩
  exact ⟨hspaces, hspaces', hrest⟩

theorem NameParts.unique {spaces₂ ws₂ text : List Char} {station₂ : Int}
    (h : NameParts line spaces ws spaces' word rest station)
    (hspaces : ∀ c ∈ spaces₂, isSpace c) (hws : Decimal.Numeral ws₂ station₂)
    (hends : ∀ c ∈ text.head?, c.isDigit = false)
    (hline : line = "name".toList ++ (spaces₂ ++ (ws₂ ++ text)))
    : spaces = spaces₂ ∧ station = station₂ ∧ spaces' ++ (word ++ rest) = text := by
  have heq := h.line_eq.symm.trans hline
  rw [List.append_cancel_left_eq] at heq
  exact Decimal.spaces_numeral_append_inj h.station_spaced hspaces h.station_numeral hws
    h.station_ends hends heq

theorem address_ne_name (x y : List Char) : "address".toList ++ x ≠ "name".toList ++ y := by
  intro h
  have := congrArg List.head? h
  simp at this

end Parts

-- The numbers that `sscanf` reads from the line fit into an `int`: `%d` stores them as they are.
def Fits (toInt : Int → Int) (line : List Char) : Prop :=
  ∀ a ∈ sscanf id line "address %d %d".toList ++ sscanf id line "name %d %31s".toList,
    a.store toInt = a

instance (toInt : Int → Int) (line : List Char) : Decidable (Fits toInt line) :=
  inferInstanceAs (Decidable (∀ a ∈ _, _))

theorem sscanf_of_fits {toInt : Int → Int} {line format : List Char}
    (h : ∀ a ∈ sscanf id line format, a.store toInt = a)
    : sscanf toInt line format = sscanf id line format := by
  unfold sscanf at *
  rw [scan_eq_map_store]
  apply (List.map_congr_left (g := id) h).trans
  apply List.map_id

section Kind

variable {toInt : Int → Int} {line : List Char}

theorem kind_of_fits (h : Fits toInt (FixedString32.untilTerminator line))
    : kind toInt line = kind id line := by
  have ⟨haddress, hname⟩ := List.forall_mem_append.mp h
  unfold kind
  dsimp only
  rw [sscanf_of_fits haddress, sscanf_of_fits hname]

variable {spaces ws spaces' wa word rest : List Char} {station address : Int}

theorem AddressParts.kind_eq
    (h : AddressParts (FixedString32.untilTerminator line) spaces ws spaces' wa rest station address)
    : kind id line = .address station address := by
  apply kind_address
  exact sscanf_address_iff.mpr ⟨spaces, ws, spaces', wa, rest, h⟩

theorem NameParts.kind_eq
    (h : NameParts (FixedString32.untilTerminator line) spaces ws spaces' word rest station)
    : kind id line = .name station word := by
  apply kind_name
  . intro station' address' haddress
    rcases sscanf_address_iff.mp haddress with ⟨_, _, _, _, _, haddress⟩
    exact address_ne_name _ _ (haddress.line_eq.symm.trans h.line_eq)
  . exact sscanf_name_iff.mpr ⟨spaces, ws, spaces', rest, h⟩

inductive Taken (line : List Char) : LineKind → Prop where
  | address {station address : Int}
      (h : sscanf id line "address %d %d".toList = [.int station, .int address])
      : Taken line (.address station address)
  | name {station : Int} {word : List Char}
      (h : sscanf id line "name %d %31s".toList = [.int station, .str word])
      : Taken line (.name station word)
  | save (h : line = "save".toList) : Taken line .save
  | unknown : Taken line .unknown

theorem kind_taken (line : List Char) : Taken (FixedString32.untilTerminator line) (kind id line) := by
  unfold kind
  dsimp only
  split
  . next hargs => exact .address hargs
  . split
    . next hargs => exact .name hargs
    . split
      . next hsave => exact .save hsave
      . exact .unknown

theorem addressParts_of_kind (h : kind id line = .address station address)
    : ∃ spaces ws spaces' wa rest,
        AddressParts (FixedString32.untilTerminator line) spaces ws spaces' wa rest station
          address := by
  have htaken := kind_taken line
  rw [h] at htaken
  cases htaken with
  | address h => exact sscanf_address_iff.mp h

theorem nameParts_of_kind (h : kind id line = .name station word)
    : ∃ spaces ws spaces' rest,
        NameParts (FixedString32.untilTerminator line) spaces ws spaces' word rest station := by
  have htaken := kind_taken line
  rw [h] at htaken
  cases htaken with
  | name h => exact sscanf_name_iff.mp h

theorem line_of_kind_save (h : kind id line = .save)
    : FixedString32.untilTerminator line = "save".toList := by
  have htaken := kind_taken line
  rw [h] at htaken
  cases htaken with
  | save h => exact h

end Kind

/-
The lines that are taken for a command that they are not: commands with blanks that are not just one in
front of each argument, `address` commands with text behind them, and `name` commands with white space
within the 31 characters there is room for.
-/
inductive Misread : List Char → Prop where
  | looseAddress {line spaces ws spaces' wa rest : List Char} {station address : Int}
      (h : AddressParts line spaces ws spaces' wa rest station address)
      (hstation : 1 ≤ station ∧ station ≤ MegaConfig.kStationCount)
      (haddress : MegaConfig.kMinAddress ≤ address ∧ address ≤ MegaConfig.kMaxAddress)
      (hloose : ¬(spaces = [' '] ∧ spaces' = [' '] ∧ rest = []))
      : Misread line
  | looseName {line spaces ws spaces' word rest : List Char} {station : Int}
      (h : NameParts line spaces ws spaces' word rest station)
      (hstation : 1 ≤ station ∧ station ≤ MegaConfig.kStationCount)
      (hloose : ¬(spaces = [' '] ∧ spaces'.head? = some ' '))
      : Misread line
  | spacedName {line ws text : List Char} {station : Int}
      (hline : line = "name".toList ++ ([' '] ++ (ws ++ ([' '] ++ text))))
      (hstation : IntIn ws station 1 MegaConfig.kStationCount)
      (hspace : ∃ c ∈ text.take 31, isSpace c)
      : Misread line

section Exact

variable {line spaces ws spaces' wa word rest : List Char} {station address : Int} {edit : MegaEdit}

theorem addressParts_of_grammar {ws wa : List Char} {station address : Int}
    (hstation : Decimal.Numeral ws station) (haddress : Decimal.Numeral wa address)
    : AddressParts ("address".toList ++ ([' '] ++ (ws ++ ([' '] ++ wa)))) [' '] ws [' '] wa []
        station address := by
  constructor
  . simp
  . exact isSpace_of_mem_blank
  . exact hstation
  . simp
  . exact isSpace_of_mem_blank
  . exact haddress
  . simp

theorem AddressParts.exact_of_grammar
    (h : AddressParts line spaces ws spaces' wa rest station address) (hgrammar : Grammar line edit)
    : spaces = [' '] ∧ spaces' = [' '] ∧ rest = [] := by
  cases hgrammar with
  | address hstation haddress =>
    exact h.unique (addressParts_of_grammar hstation.1 haddress.1)
  | name => exact (address_ne_name _ _ h.line_eq.symm).elim

theorem AddressParts.grammar (h : AddressParts line [' '] ws [' '] wa [] station address)
    (hstation : 1 ≤ station ∧ station ≤ MegaConfig.kStationCount)
    (haddress : MegaConfig.kMinAddress ≤ address ∧ address ≤ MegaConfig.kMaxAddress)
    : Grammar line (.address station address) := by
  rw [h.line_eq, List.append_nil]
  exact .address ⟨h.station_numeral, hstation⟩ ⟨h.address_numeral, haddress⟩

theorem NameParts.exact_of_grammar (h : NameParts line spaces ws spaces' word rest station)
    (hgrammar : Grammar line edit)
    : spaces = [' '] ∧ spaces'.head? = some ' ' := by
  cases hgrammar with
  | address => exact (address_ne_name _ _ h.line_eq).elim
  | @name ws₂ text station₂ hstation htext =>
    rcases h.unique isSpace_of_mem_blank hstation.1 (by simp) rfl with ⟨hspaces, _, htail⟩
    refine ⟨hspaces, ?_⟩
    cases spaces' with
    | nil =>
      -- The blank in front of the text would be the first character of the word.
      rw [List.nil_append] at htail
      have hhead := head?_word_append h.isWord rest
      rw [htail] at hhead
      have hblank := hhead ' ' rfl
      contradiction
    | cons c spaces' =>
      have := congrArg List.head? htail
      simpa using this

theorem NameParts.grammar (h : NameParts line [' '] ws spaces' word rest station)
    (hstation : 1 ≤ station ∧ station ≤ MegaConfig.kStationCount) (hblank : spaces'.head? = some ' ')
    : ∃ edit, Grammar line edit := by
  rcases List.head?_eq_some_iff.mp hblank with ⟨tail, rfl⟩
  rw [h.line_eq]
  refine ⟨_, @Grammar.name ws (tail ++ (word ++ rest)) station ⟨h.station_numeral, hstation⟩ ?_⟩
  simp [h.isWord.1]

end Exact

variable {ρ : Type u} {port : ConfigurationRepository ρ}

-- The session keeps to the grammar in what it answers to a line and makes of its draft.
structure Meets (s : MegaCommissioningSession ρ) (line : List Char)
    (res : MegaCommissioningSession ρ × FixedString32) : Prop where
  accepts : ∀ edit, Grammar line edit →
    res.2 = .ofCStr "OK".toList ∧ edit.Staged s.draft res.1.draft
  rejects : (∀ edit, ¬Grammar line edit) → line ≠ "show".toList →
    res.1.draft = s.draft ∧ (line ≠ "save".toList → res.2 ≠ .ofCStr "OK".toList)

section Meets

variable {s : MegaCommissioningSession ρ} {line : List Char}
variable {res : MegaCommissioningSession ρ × FixedString32}

theorem Handled.ok_of_isCommand {kind : LineKind} (h : Handled port s kind res)
    (hkind : kind.isCommand) (hsave : kind ≠ .save)
    : res.2 = .ofCStr "OK".toList := by
  cases h with
  | address => rfl
  | name => rfl
  | saved => contradiction
  | saveFailed => contradiction
  | rejected hrejected => contradiction

theorem not_staged_of_space {station : Int} {text word : List Char} (hword : IsWord word)
    (hspace : ∃ c ∈ text.take 31, isSpace c)
    (h : ¬(station < 1 ∨ station > MegaConfig.kStationCount))
    : ¬(MegaEdit.name station text).Staged s.draft
        (s.withStation station h ({ · with name := .ofCStr word })).draft := by
  intro hstaged
  have hi : (station - 1).toNat < 4 := by
    simp only [MegaConfig.kStationCount] at h
    omega
  have hname := hstaged ⟨(station - 1).toNat, hi⟩
  rw [withStation_draft] at hname
  have hindex : ((station - 1).toNat : Int) = station - 1 := by omega
  rw [if_pos hindex, if_pos hindex] at hname
  rw [FixedString32.c_str_ofCStr] at hname
  rcases hspace with ⟨c, hc, hspace⟩
  rw [← hname.1] at hc
  have hmem : c ∈ word := List.takeWhile_subset _ (List.mem_of_mem_take hc)
  rw [hword.2 c hmem] at hspace
  contradiction

theorem Meets.not_ok (h : Meets s line res) (hnone : ∀ edit, ¬Grammar line edit)
    (hhead : line.head? ≠ some 's')
    : res.2 ≠ .ofCStr "OK".toList := by
  have hne (verb : List Char) (hverb : verb.head? = some 's') : line ≠ verb := by
    rintro rfl
    contradiction
  exact (h.rejects hnone (hne _ rfl)).2 (hne _ rfl)

theorem Misread.not_meets (h : Misread (FixedString32.untilTerminator line))
    (hhandled : Handled port s (kind id line) res)
    : ¬Meets s (FixedString32.untilTerminator line) res := by
  intro hmeets
  cases h with
  | looseAddress hparts hstation haddress hloose =>
    rw [hparts.kind_eq] at hhandled
    apply hmeets.not_ok
    . intro edit hgrammar
      exact hloose (hparts.exact_of_grammar hgrammar)
    . simp [hparts.line_eq]
    . apply hhandled.ok_of_isCommand
      . exact ⟨by omega, by omega⟩
      . simp
  | looseName hparts hstation hloose =>
    rw [hparts.kind_eq] at hhandled
    apply hmeets.not_ok
    . intro edit hgrammar
      exact hloose (hparts.exact_of_grammar hgrammar)
    . simp [hparts.line_eq]
    . apply hhandled.ok_of_isCommand
      . simp only [LineKind.isCommand]
        omega
      . simp
  | @spacedName ws text station hline hstation hspace =>
    have htext : text ≠ [] := by
      rintro rfl
      simp at hspace
    have hgrammar : Grammar (FixedString32.untilTerminator line) (.name station text) := by
      rw [hline]
      exact .name hstation htext
    rcases hmeets.accepts _ hgrammar with ⟨hok, hstaged⟩
    generalize hkind : kind id line = kind at hhandled
    cases hhandled with
    | address =>
      rcases addressParts_of_kind hkind with ⟨_, _, _, _, _, hparts⟩
      exact address_ne_name _ _ (hparts.line_eq.symm.trans hline)
    | @name station' word hrange =>
      rcases nameParts_of_kind hkind with ⟨_, _, _, _, hparts⟩
      rcases hparts.unique isSpace_of_mem_blank hstation.1 (by simp) hline with ⟨_, rfl, _⟩
      exact not_staged_of_space hparts.isWord hspace hrange hstaged
    | saved =>
      have hsave := line_of_kind_save hkind
      rw [hline] at hsave
      simp at hsave
    | saveFailed => exact save_failed_ne_ok hok
    | rejected _ herror => exact herror hok

theorem grammar_or_misread_of_address {station address : Int}
    (hkind : kind id line = .address station address)
    (hstation : ¬(station < 1 ∨ station > MegaConfig.kStationCount))
    (haddress : ¬(address < MegaConfig.kMinAddress ∨ address > MegaConfig.kMaxAddress))
    : (∃ edit, Grammar (FixedString32.untilTerminator line) edit)
        ∨
      Misread (FixedString32.untilTerminator line) := by
  rcases addressParts_of_kind hkind with ⟨spaces, ws, spaces', wa, rest, hparts⟩
  by_cases hexact : spaces = [' '] ∧ spaces' = [' '] ∧ rest = []
  . rcases hexact with ⟨rfl, rfl, rfl⟩
    exact .inl ⟨_, hparts.grammar (by omega) (by omega)⟩
  . exact .inr (.looseAddress hparts (by omega) (by omega) hexact)

theorem grammar_or_misread_of_name {station : Int} {word : List Char}
    (hkind : kind id line = .name station word)
    (hstation : ¬(station < 1 ∨ station > MegaConfig.kStationCount))
    : (∃ edit, Grammar (FixedString32.untilTerminator line) edit)
        ∨
      Misread (FixedString32.untilTerminator line) := by
  rcases nameParts_of_kind hkind with ⟨spaces, ws, spaces', rest, hparts⟩
  by_cases hexact : spaces = [' '] ∧ spaces'.head? = some ' '
  . rcases hexact with ⟨rfl, hblank⟩
    exact .inl (hparts.grammar (by omega) hblank)
  . exact .inr (.looseName hparts (by omega) hexact)

theorem staged_address {station address : Int}
    (h : ¬(station < 1 ∨ station > MegaConfig.kStationCount))
    : (MegaEdit.address station address).Staged s.draft
        (s.withStation station h ({ · with address := address })).draft :=
  withStation_draft s station h _

theorem staged_name {station : Int} {text : List Char} (htext : ∀ c ∈ text.take 31, c ≠ '\x00')
    (h : ¬(station < 1 ∨ station > MegaConfig.kStationCount))
    : (MegaEdit.name station text).Staged s.draft
        (s.withStation station h ({ · with name := .ofCStr (text.take 31) })).draft := by
  intro i
  rw [withStation_draft]
  split
  . refine ⟨?_, rfl⟩
    rw [FixedString32.c_str_ofCStr]
    unfold FixedString32.untilTerminator
    rw [List.takeWhile_eq_self_iff.mpr (by simpa using htext)]
    rw [List.take_take]
    rfl
  . rfl

-- A text with no white space in its first 31 characters is read as it is.
theorem nameParts_of_grammar {ws text : List Char} {station : Int}
    (hstation : Decimal.Numeral ws station) (htext : text ≠ [])
    (hspace : ∀ c ∈ text.take 31, isSpace c = false)
    : NameParts ("name".toList ++ ([' '] ++ (ws ++ ([' '] ++ text)))) [' '] ws [' '] (text.take 31)
        (text.drop 31) station := by
  constructor
  . rw [List.take_append_drop]
  . exact isSpace_of_mem_blank
  . exact hstation
  . simp
  . exact isSpace_of_mem_blank
  . exact ⟨by simp [htext], hspace⟩
  . apply List.length_take_le
  . intro hlength
    rw [List.length_take] at hlength
    rw [List.drop_of_length_le (by omega)]
    simp

theorem accepts_of_not_misread (h : ¬Misread (FixedString32.untilTerminator line))
    (hhandled : Handled port s (kind id line) res) {edit : MegaEdit}
    (hgrammar : Grammar (FixedString32.untilTerminator line) edit)
    : res.2 = .ofCStr "OK".toList ∧ edit.Staged s.draft res.1.draft := by
  generalize hline : FixedString32.untilTerminator line = l at hgrammar
  cases hgrammar with
  | @address ws wa station address hstation haddress =>
    have hparts : AddressParts (FixedString32.untilTerminator line) [' '] ws [' '] wa [] station
        address := by
      rw [hline]
      exact addressParts_of_grammar hstation.1 haddress.1
    rw [hparts.kind_eq] at hhandled
    have ⟨_, hstation⟩ := hstation
    have ⟨_, haddress⟩ := haddress
    cases hhandled with
    | address hrange => exact ⟨rfl, staged_address hrange⟩
    | rejected hrejected => exact (hrejected ⟨by omega, by omega⟩).elim
  | @name ws text station hstation htext =>
    have hspace : ∀ c ∈ text.take 31, isSpace c = false := by
      intro c hc
      by_contra hspace
      apply h
      exact .spacedName hline hstation ⟨c, hc, by simpa using hspace⟩
    have hparts := nameParts_of_grammar hstation.1 htext hspace
    rw [← hline] at hparts
    rw [hparts.kind_eq] at hhandled
    have ⟨_, hstation⟩ := hstation
    cases hhandled with
    | name hrange =>
      refine ⟨rfl, staged_name ?_ hrange⟩
      intro c hc
      have hmem : c ∈ FixedString32.untilTerminator line := by
        rw [hline]
        simp [List.mem_of_mem_take hc]
      simpa using forall_takeWhile _ _ c hmem
    | rejected hrejected =>
      simp only [LineKind.isCommand] at hrejected
      omega

theorem meets_of_not_misread (h : ¬Misread (FixedString32.untilTerminator line))
    (hhandled : Handled port s (kind id line) res)
    : Meets s (FixedString32.untilTerminator line) res := by
  constructor
  . intro edit hgrammar
    exact accepts_of_not_misread h hhandled hgrammar
  . intro hnone _
    have hnot {P : Prop} (hmisread : (∃ edit, Grammar (FixedString32.untilTerminator line) edit)
        ∨ Misread (FixedString32.untilTerminator line)) : P := by
      rcases hmisread with ⟨edit, hgrammar⟩ | hmisread
      . exact (hnone edit hgrammar).elim
      . exact (h hmisread).elim
    generalize hkind : kind id line = kind at hhandled
    cases hhandled with
    | address hstation haddress => exact hnot (grammar_or_misread_of_address hkind hstation haddress)
    | name hstation => exact hnot (grammar_or_misread_of_name hkind hstation)
    | saved => exact ⟨rfl, fun hsave => absurd (line_of_kind_save hkind) hsave⟩
    | saveFailed => exact ⟨rfl, fun _ => save_failed_ne_ok⟩
    | rejected _ herror => exact ⟨rfl, fun _ => herror⟩

end Meets

/--
With numbers that fit into an `int`, the session accepts and stages exactly what the grammar says, unless
the line is one of those that it misreads. On each of these it does something else.
-/
theorem meets_iff_not_misread (toInt : Int → Int) (s : MegaCommissioningSession ρ) (line : List Char)
    (hfits : Fits toInt (FixedString32.untilTerminator line))
    : Meets s (FixedString32.untilTerminator line) (s.handleLine port toInt line)
        ↔
      ¬Misread (FixedString32.untilTerminator line) := by
  have hhandled := handleLine_handled port toInt s line
  rw [kind_of_fits hfits] at hhandled
  constructor
  . intro hmeets hmisread
    exact hmisread.not_meets hhandled hmeets
  . intro h
    exact meets_of_not_misread h hhandled

-- What `%d` stores on the Mega, where an `int` has 16 bits.
def storeInt16 (v : Int) : Int :=
  (BitVec.ofInt 16 v).toInt

theorem meets_iff_not_misread_mainYard
    : Meets (afterOnNewBoard []) "name 2 MainYard".toList
          ((afterOnNewBoard []).handleLine InMemoryConfigurationRepository.repository storeInt16
            "name 2 MainYard".toList)
        ↔
      ¬Misread "name 2 MainYard".toList := by
  apply meets_iff_not_misread storeInt16 (afterOnNewBoard []) "name 2 MainYard".toList
  decide +kernel

/--
A name of two words is accepted and cut after the first one, and text behind an address goes unnoticed.
-/
theorem commands_misread
    : Grammar "name 1 North Yard".toList (.name 1 "North Yard".toList) ∧
        ((afterOnNewBoard []).handleLine InMemoryConfigurationRepository.repository storeInt16
            "name 1 North Yard".toList).2
          = .ofCStr "OK".toList ∧
        (((afterOnNewBoard []).handleLine InMemoryConfigurationRepository.repository storeInt16
            "name 1 North Yard".toList).1.draft.stations.get 0).name.c_str
          = "North".toList ∧
        (∀ edit, ¬Grammar "address 1 500 junk".toList edit) ∧
        ((afterOnNewBoard []).handleLine InMemoryConfigurationRepository.repository storeInt16
            "address 1 500 junk".toList).2
          = .ofCStr "OK".toList := by
  have hnumeral {w : List Char} {v : Int} (h : Decimal.readInt w = some (v, []))
      : Decimal.Numeral w v :=
    (Decimal.readInt_eq_some_nil_iff w v).mp h
  refine ⟨?_, ?_, ?_, ?_, ?_⟩
  . exact @Grammar.name ['1'] "North Yard".toList 1 ⟨hnumeral (by decide), by decide⟩ (by decide)
  . decide +kernel
  . decide +kernel
  . intro edit hgrammar
    have hparts : AddressParts "address 1 500 junk".toList [' '] ['1'] [' '] "500".toList
        " junk".toList 1 500 := by
      constructor
      . decide
      . exact isSpace_of_mem_blank
      . exact hnumeral (by decide)
      . simp
      . exact isSpace_of_mem_blank
      . exact hnumeral (by decide)
      . simp
    have hexact := hparts.exact_of_grammar hgrammar
    exact absurd hexact.2.2 (by decide)
  . decide +kernel

end MegaCommissioningSession

end Maltbee
