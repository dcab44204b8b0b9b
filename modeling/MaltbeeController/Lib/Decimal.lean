import MaltbeeController.Lib.Words

/-!
This module contains decimal numerals: their grammar, the reader that takes one off the front of a
text as `strtol` does, and the printer.
-/

namespace Decimal

open Words

def value (digits : List Char) : Nat :=
  Nat.ofDigitChars 10 digits 0

inductive Numeral : List Char → Int → Prop where
  | unsigned {digits : List Char} :
      digits ≠ [] → (∀ c ∈ digits, c.isDigit) → Numeral digits (value digits)
  | plus {digits : List Char} :
      digits ≠ [] → (∀ c ∈ digits, c.isDigit) → Numeral ('+' :: digits) (value digits)
  | minus {digits : List Char} :
      digits ≠ [] → (∀ c ∈ digits, c.isDigit) → Numeral ('-' :: digits) (-value digits)

def readNat (s : List Char) : Option (Nat × List Char) :=
  let digits := s.takeWhile Char.isDigit
  if digits.isEmpty then none else some (value digits, s.dropWhile Char.isDigit)

def readInt (s : List Char) : Option (Int × List Char) :=
  match s with
  | '+' :: s => (readNat s).map fun (n, rest) => (n, rest)
  | '-' :: s => (readNat s).map fun (n, rest) => (-n, rest)
  | s => (readNat s).map fun (n, rest) => (n, rest)

def print (v : Int) : List Char :=
  if v < 0 then '-' :: Nat.toDigits 10 v.natAbs else Nat.toDigits 10 v.natAbs

theorem readNat_append {digits rest : List Char} (hne : digits ≠ [])
    (hdigits : ∀ c ∈ digits, c.isDigit) (hrest : ∀ c ∈ rest.head?, c.isDigit = false)
    : readNat (digits ++ rest) = some (value digits, rest) := by
  have htake : rest.takeWhile Char.isDigit = [] := by
    cases rest with
    | nil => rfl
    | cons c rest => simp [hrest c (by simp)]
  have hdrop : rest.dropWhile Char.isDigit = rest := by
    cases rest with
    | nil => rfl
    | cons c rest => simp [hrest c (by simp)]
  unfold readNat
  rw [List.takeWhile_append_of_pos hdigits]
  rw [List.dropWhile_append_of_pos hdigits]
  rw [htake]
  rw [hdrop]
  simp [hne]

theorem readNat_eq_some {s rest : List Char} {n : Nat} (h : readNat s = some (n, rest))
    : ∃ digits, s = digits ++ rest ∧ digits ≠ [] ∧ (∀ c ∈ digits, c.isDigit) ∧
        n = value digits := by
  simp only [readNat, List.isEmpty_iff, Option.ite_none_left_eq_some, Option.some.injEq,
    Prod.mk.injEq] at h
  rcases h with ⟨hne, hvalue, hrest⟩
  refine ⟨s.takeWhile Char.isDigit, ?_, hne, ?_, hvalue.symm⟩
  . rw [← hrest]
    rw [List.takeWhile_append_dropWhile]
  . apply forall_takeWhile _ _

theorem readInt_of_digits {digits rest : List Char} (hne : digits ≠ [])
    (hdigits : ∀ c ∈ digits, c.isDigit) (hrest : ∀ c ∈ rest.head?, c.isDigit = false)
    : readInt (digits ++ rest) = some ((value digits : Int), rest) := by
  have hread := readNat_append hne hdigits hrest
  unfold readInt
  split
  . next heq =>
    cases digits with
    | nil => contradiction
    | cons c digits =>
      rw [List.cons_append, List.cons.injEq] at heq
      have := hdigits c (by simp)
      rw [heq.1] at this
      contradiction
  . next heq =>
    cases digits with
    | nil => contradiction
    | cons c digits =>
      rw [List.cons_append, List.cons.injEq] at heq
      have := hdigits c (by simp)
      rw [heq.1] at this
      contradiction
  . rw [hread]
    rfl

theorem readInt_append {w rest : List Char} {v : Int} (h : Numeral w v)
    (hrest : ∀ c ∈ rest.head?, c.isDigit = false)
    : readInt (w ++ rest) = some (v, rest) := by
  cases h with
  | unsigned hne hdigits => exact readInt_of_digits hne hdigits hrest
  | plus hne hdigits =>
    simp only [List.cons_append, readInt]
    rw [readNat_append hne hdigits hrest]
    rfl
  | minus hne hdigits =>
    simp only [List.cons_append, readInt]
    rw [readNat_append hne hdigits hrest]
    rfl

theorem readNat_map_eq_some {s rest : List Char} {v : Int} {f : Nat → Int}
    (h : (readNat s).map (fun (n, rest) => (f n, rest)) = some (v, rest))
    : ∃ digits, s = digits ++ rest ∧ digits ≠ [] ∧ (∀ c ∈ digits, c.isDigit) ∧
        v = f (value digits) := by
  rw [Option.map_eq_some_iff] at h
  rcases h with ⟨⟨n, rest'⟩, hread, heq⟩
  rw [Prod.mk.injEq] at heq
  rcases readNat_eq_some hread with ⟨digits, hs, hne, hdigits, hn⟩
  refine ⟨digits, ?_, hne, hdigits, ?_⟩
  . rw [hs]
    rw [heq.2]
  . rw [← heq.1]
    rw [hn]

theorem readInt_eq_some {s rest : List Char} {v : Int} (h : readInt s = some (v, rest))
    : ∃ w, s = w ++ rest ∧ Numeral w v := by
  unfold readInt at h
  split at h
  . rcases readNat_map_eq_some (f := fun n => n) h with ⟨digits, hs, hne, hdigits, hv⟩
    refine ⟨'+' :: digits, by simp [hs], ?_⟩
    rw [hv]
    exact .plus hne hdigits
  . rcases readNat_map_eq_some (f := fun n => -n) h with ⟨digits, hs, hne, hdigits, hv⟩
    refine ⟨'-' :: digits, by simp [hs], ?_⟩
    rw [hv]
    exact .minus hne hdigits
  . rcases readNat_map_eq_some (f := fun n => n) h with ⟨digits, hs, hne, hdigits, hv⟩
    refine ⟨digits, hs, ?_⟩
    rw [hv]
    exact .unsigned hne hdigits

theorem readNat_rest {s rest : List Char} {n : Nat} (h : readNat s = some (n, rest))
    : ∀ c ∈ rest.head?, c.isDigit = false := by
  simp only [readNat, List.isEmpty_iff, Option.ite_none_left_eq_some, Option.some.injEq,
    Prod.mk.injEq] at h
  rw [← h.2.2]
  intro c hc
  have := List.head?_dropWhile_not Char.isDigit s
  rw [Option.mem_def.mp hc] at this
  exact this

theorem readInt_rest {s rest : List Char} {v : Int} (h : readInt s = some (v, rest))
    : ∀ c ∈ rest.head?, c.isDigit = false := by
  unfold readInt at h
  split at h
  all_goals
    rw [Option.map_eq_some_iff] at h
    rcases h with ⟨⟨n, rest'⟩, hread, heq⟩
    rw [Prod.mk.injEq] at heq
    rw [← heq.2]
    exact readNat_rest hread

-- A numeral is told from what follows it, unless that goes on with a digit.
theorem numeral_append_inj {w w' rest rest' : List Char} {v v' : Int} (hw : Numeral w v)
    (hw' : Numeral w' v') (hrest : ∀ c ∈ rest.head?, c.isDigit = false)
    (hrest' : ∀ c ∈ rest'.head?, c.isDigit = false) (h : w ++ rest = w' ++ rest')
    : v = v' ∧ rest = rest' := by
  have hread := readInt_append hw hrest
  rw [h, readInt_append hw' hrest', Option.some.injEq, Prod.mk.injEq] at hread
  exact ⟨hread.1.symm, hread.2.symm⟩

theorem readInt_eq_some_nil_iff (w : List Char) (v : Int)
    : readInt w = some (v, []) ↔ Numeral w v := by
  constructor
  . intro h
    rcases readInt_eq_some h with ⟨w', hw, hnumeral⟩
    rw [List.append_nil] at hw
    rwa [hw]
  . intro h
    have := readInt_append h (by simp : ∀ c ∈ ([] : List Char).head?, c.isDigit = false)
    rwa [List.append_nil] at this

theorem isSpace_of_isDigit {c : Char} (h : c.isDigit) : isSpace c = false := by
  have hval : 48 ≤ c.val.toNat ∧ c.val.toNat ≤ 57 := by
    simpa [Char.isDigit, UInt32.le_iff_toNat_le] using h
  have hne : c ≠ ' ' := by
    intro heq
    rw [heq] at hval
    simp at hval
  have hgt : ¬c ≤ '\r' := by
    rw [Char.le_def, UInt32.le_iff_toNat_le]
    have : '\r'.val.toNat = 13 := by rfl
    omega
  simp [isSpace, hne, hgt]

theorem isWord_of_numeral {w : List Char} {v : Int} (h : Numeral w v) : IsWord w := by
  cases h with
  | unsigned hne hdigits =>
    refine ⟨hne, ?_⟩
    intro c hc
    apply isSpace_of_isDigit (hdigits c hc)
  | plus hne hdigits =>
    refine ⟨by simp, ?_⟩
    rw [List.forall_mem_cons]
    refine ⟨by decide, ?_⟩
    intro c hc
    apply isSpace_of_isDigit (hdigits c hc)
  | minus hne hdigits =>
    refine ⟨by simp, ?_⟩
    rw [List.forall_mem_cons]
    refine ⟨by decide, ?_⟩
    intro c hc
    apply isSpace_of_isDigit (hdigits c hc)

theorem spaces_numeral_append_inj {spaces spaces' w w' rest rest' : List Char} {v v' : Int}
    (hspaces : ∀ c ∈ spaces, isSpace c) (hspaces' : ∀ c ∈ spaces', isSpace c) (hw : Numeral w v)
    (hw' : Numeral w' v') (hrest : ∀ c ∈ rest.head?, c.isDigit = false)
    (hrest' : ∀ c ∈ rest'.head?, c.isDigit = false)
    (h : spaces ++ (w ++ rest) = spaces' ++ (w' ++ rest'))
    : spaces = spaces' ∧ v = v' ∧ rest = rest' := by
  rw [spaces_append_inj hspaces hspaces' (head?_word_append (isWord_of_numeral hw) rest)
    (head?_word_append (isWord_of_numeral hw') rest')] at h
  exact ⟨h.1, numeral_append_inj hw hw' hrest hrest' h.2⟩

theorem numeral_print (v : Int) : Numeral (print v) v := by
  have hvalue : value (Nat.toDigits 10 v.natAbs) = v.natAbs := by
    simp [value]
  have hdigits : ∀ c ∈ Nat.toDigits 10 v.natAbs, c.isDigit := by
    intro c hc
    exact Nat.isDigit_of_mem_toDigits (by omega) (by omega) hc
  unfold print
  split
  . have := Numeral.minus (Nat.toDigits_ne_nil (n := v.natAbs) (b := 10)) hdigits
    rw [hvalue] at this
    rwa [show -(v.natAbs : Int) = v by omega] at this
  . have := Numeral.unsigned (Nat.toDigits_ne_nil (n := v.natAbs) (b := 10)) hdigits
    rw [hvalue] at this
    rwa [show (v.natAbs : Int) = v by omega] at this

theorem mem_print (v : Int) : ∀ c ∈ print v, c = '-' ∨ c.isDigit := by
  intro c hc
  have hdigit (h : c ∈ Nat.toDigits 10 v.natAbs) : c.isDigit :=
    Nat.isDigit_of_mem_toDigits (by omega) (by omega) h
  unfold print at hc
  split at hc
  . cases List.mem_cons.mp hc with
    | inl h => exact .inl h
    | inr h => exact .inr (hdigit h)
  . exact .inr (hdigit hc)

theorem print_injective : Function.Injective print := by
  intro v w h
  have hv := (readInt_eq_some_nil_iff _ _).mpr (numeral_print v)
  have hw := (readInt_eq_some_nil_iff _ _).mpr (numeral_print w)
  rw [h, hw] at hv
  simp only [Option.some.injEq, Prod.mk.injEq, and_true] at hv
  exact hv.symm

end Decimal
