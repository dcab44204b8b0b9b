import MaltbeeController.Lib.Decimal

/-!
This module contains `sscanf` for formats made of text, white space, `%d` and `%<width>s`.
-/

namespace Scanf

open Words

inductive Directive where
  | white
  | lit (c : Char)
  | int
  | str (width : Nat)
  deriving DecidableEq, Repr

inductive Arg where
  | int (value : Int)
  | str (value : List Char)
  deriving DecidableEq, Repr

-- The directives of a format. `width` is the width read so far within a conversion.
def directives (width : Option Nat) (format : List Char) : List Directive :=
  match format with
  | [] => []
  | c :: format =>
    match width with
    | none =>
      if c = '%' then
        directives (some 0) format
      else if isSpace c then
        .white :: directives none format
      else
        .lit c :: directives none format
    | some width =>
      if c = 'd' then
        .int :: directives none format
      else if c = 's' then
        .str width :: directives none format
      else
        directives (some (Nat.ofDigitChars 10 [c] width)) format

/-
What the conversions assign up to the first directive that does not match. `%d` stores `toInt` of the
number it has read: the C standard leaves open what that is for a number outside of `int`.
-/
def scan (toInt : Int → Int) (format : List Directive) (s : List Char) : List Arg :=
  match format with
  | [] => []
  | .white :: format => scan toInt format (s.dropWhile isSpace)
  | .lit c :: format =>
    match s with
    | [] => []
    | d :: s => if d = c then scan toInt format s else []
  | .int :: format =>
    match Decimal.readInt (s.dropWhile isSpace) with
    | none => []
    | some (v, rest) => .int (toInt v) :: scan toInt format rest
  | .str width :: format =>
    let s := s.dropWhile isSpace
    let w := (s.takeWhile (!isSpace ·)).take width
    if w.isEmpty then [] else .str w :: scan toInt format (s.drop w.length)

def sscanf (toInt : Int → Int) (s format : List Char) : List Arg :=
  scan toInt (directives none format) s

example
    : sscanf id "address 2  500 ".toList "address %d %d".toList
        =
      [.int 2, .int 500] := by
  decide

example : sscanf id "name 2 Yard".toList "name %d %3s".toList = [.int 2, .str "Yar".toList] := by
  decide

def Arg.store (toInt : Int → Int) (a : Arg) : Arg :=
  match a with
  | .int v => .int (toInt v)
  | .str w => .str w

theorem scan_eq_map_store (toInt : Int → Int) (format : List Directive) (s : List Char)
    : scan toInt format s = (scan id format s).map (Arg.store toInt) := by
  fun_induction scan id format s with
  | case1 => rfl
  | case2 s format ih => rw [scan, ih]
  | case3 => rfl
  | case4 format d s ih => rw [scan, if_pos rfl, ih]
  | case5 format c d s hne => simp [scan, hne]
  | case6 s format hread => simp [scan, hread]
  | case7 s format v rest hread ih => simp [scan, hread, ih, Arg.store]
  | case8 s format width s' w hw =>
    rw [scan]
    rw [if_pos hw]
    rfl
  | case9 s width format s' w hw ih =>
    rw [scan]
    rw [if_neg hw]
    rw [ih]
    rfl

namespace Directive

def isConversion (d : Directive) : Bool :=
  match d with
  | .int | .str _ => true
  | .white | .lit _ => false

end Directive

def conversions (format : List Directive) : Nat :=
  format.countP Directive.isConversion

/-
The text makes every conversion of the format succeed. White space, numbers and strings are taken as far
as they go, so what follows them is part of the judgement.
-/
inductive Reads (toInt : Int → Int) : List Directive → List Char → List Arg → Prop where
  | done {format : List Directive} {s : List Char} (h : conversions format = 0)
      : Reads toInt format s []
  | white {format : List Directive} {spaces s : List Char} {args : List Arg}
      (hspaces : ∀ c ∈ spaces, isSpace c) (hs : ∀ c ∈ s.head?, isSpace c = false)
      (h : Reads toInt format s args)
      : Reads toInt (.white :: format) (spaces ++ s) args
  | lit {format : List Directive} {c : Char} {s : List Char} {args : List Arg}
      (h : Reads toInt format s args)
      : Reads toInt (.lit c :: format) (c :: s) args
  | int {format : List Directive} {spaces w rest : List Char} {v : Int} {args : List Arg}
      (hspaces : ∀ c ∈ spaces, isSpace c) (hw : Decimal.Numeral w v)
      (hrest : ∀ c ∈ rest.head?, c.isDigit = false) (h : Reads toInt format rest args)
      : Reads toInt (.int :: format) (spaces ++ (w ++ rest)) (.int (toInt v) :: args)
  | str {format : List Directive} {width : Nat} {spaces w rest : List Char} {args : List Arg}
      (hspaces : ∀ c ∈ spaces, isSpace c) (hw : IsWord w) (hwidth : w.length ≤ width)
      (hrest : w.length < width → ∀ c ∈ rest.head?, isSpace c) (h : Reads toInt format rest args)
      : Reads toInt (.str width :: format) (spaces ++ (w ++ rest)) (.str w :: args)

section Reads

variable (format : List Directive)

@[simp]
theorem conversions_white : conversions (.white :: format) = conversions format := by
  rfl

@[simp]
theorem conversions_lit (c : Char) : conversions (.lit c :: format) = conversions format := by
  rfl

@[simp]
theorem conversions_int : conversions (.int :: format) = conversions format + 1 := by
  simp [conversions, List.countP_cons, Directive.isConversion]

@[simp]
theorem conversions_str (width : Nat)
    : conversions (.str width :: format) = conversions format + 1 := by
  simp [conversions, List.countP_cons, Directive.isConversion]

@[simp]
theorem conversions_lits (lits : List Char)
    : conversions (lits.map .lit ++ format) = conversions format := by
  induction lits with
  | nil => rfl
  | cons c lits ih => simpa using ih

variable (toInt : Int → Int)

theorem length_scan_le (s : List Char) : (scan toInt format s).length ≤ conversions format := by
  fun_induction scan toInt format s with
  | case1 => simp
  | case2 s format ih => simpa using ih
  | case3 => simp
  | case4 format d s ih => simpa using ih
  | case5 => simp
  | case6 => simp
  | case7 s format v rest hread ih => simpa using ih
  | case8 => simp
  | case9 width format s s' w hw ih => simpa using ih

variable {format toInt} {s : List Char} {args : List Arg}

theorem Reads.length_eq (h : Reads toInt format s args) : args.length = conversions format := by
  induction h with
  | done h => simp [h]
  | white _ _ _ ih => simpa using ih
  | lit _ ih => simpa using ih
  | int _ _ _ _ ih => simpa using ih
  | str _ _ _ _ _ ih => simpa using ih

theorem take_word_append {width : Nat} {w rest : List Char} (hw : IsWord w)
    (hwidth : w.length ≤ width) (hrest : w.length < width → ∀ c ∈ rest.head?, isSpace c)
    : ((w ++ rest).takeWhile (!isSpace ·)).take width = w := by
  cases Nat.lt_or_eq_of_le hwidth with
  | inl hlt =>
    rw [takeWhile_word_append hw (hrest hlt)]
    apply List.take_of_length_le hwidth
  | inr heq =>
    rw [List.takeWhile_append_of_pos (by simpa using hw.2)]
    rw [← heq]
    apply List.take_left

theorem Reads.scan_eq (h : Reads toInt format s args) : scan toInt format s = args := by
  induction h with
  | @done format s h =>
    rw [← List.length_eq_zero_iff]
    have := length_scan_le format toInt s
    omega
  | white hspaces hs _ ih =>
    rw [scan]
    rw [dropWhile_spaces_append hspaces hs]
    exact ih
  | lit _ ih =>
    rw [scan]
    rw [if_pos rfl]
    exact ih
  | int hspaces hw hrest _ ih =>
    have hword := Decimal.isWord_of_numeral hw
    rw [scan]
    rw [dropWhile_spaces_append hspaces (head?_word_append hword _)]
    rw [Decimal.readInt_append hw hrest]
    dsimp only
    rw [ih]
  | @str format width spaces w rest args hspaces hw hwidth hrest _ ih =>
    rw [scan]
    rw [dropWhile_spaces_append hspaces (head?_word_append hw rest)]
    rw [take_word_append hw hwidth hrest]
    rw [if_neg (by simpa using hw.1)]
    rw [List.drop_left]
    rw [ih]

theorem reads_of_length_scan_eq (h : (scan toInt format s).length = conversions format)
    : Reads toInt format s (scan toInt format s) := by
  fun_induction scan toInt format s with
  | case1 => exact .done rfl
  | case2 s format ih =>
    have hs := Reads.white (forall_takeWhile isSpace s) (head?_dropWhile s) (ih (by simpa using h))
    rwa [List.takeWhile_append_dropWhile] at hs
  | case3 => exact .done h.symm
  | case4 format d s ih => exact .lit (ih (by simpa using h))
  | case5 => exact .done h.symm
  | case6 => simp at h
  | case7 s format v rest hread ih =>
    rcases Decimal.readInt_eq_some hread with ⟨w, hs, hw⟩
    have hint := Reads.int (forall_takeWhile isSpace s) hw (Decimal.readInt_rest hread)
      (ih (by simpa using h))
    rwa [← hs, List.takeWhile_append_dropWhile] at hint
  | case8 => simp at h
  | case9 s width format s' w hw ih =>
    rcases take_word_spec s' width with ⟨hs, hwidth, hspace, hrest⟩
    have hword : IsWord w := ⟨by simpa using hw, hspace⟩
    have hstr := Reads.str (forall_takeWhile isSpace s) hword hwidth hrest (ih (by simpa using h))
    rwa [hs, List.takeWhile_append_dropWhile] at hstr

theorem reads_iff
    : Reads toInt format s args ↔ scan toInt format s = args ∧ args.length = conversions format := by
  constructor
  . intro h
    exact ⟨h.scan_eq, h.length_eq⟩
  . rintro ⟨rfl, hlength⟩
    exact reads_of_length_scan_eq hlength

theorem sscanf_eq_iff {format : List Char} (h : args.length = conversions (directives none format))
    : sscanf toInt s format = args ↔ Reads toInt (directives none format) s args := by
  rw [reads_iff]
  exact (and_iff_left h).symm

theorem reads_lits_iff (lits : List Char) (h : conversions format ≠ 0)
    : Reads toInt (lits.map .lit ++ format) s args
        ↔
      ∃ rest, s = lits ++ rest ∧ Reads toInt format rest args := by
  induction lits generalizing s with
  | nil => simp
  | cons c lits ih =>
    constructor
    . intro hreads
      cases hreads with
      | done hzero => simp [h] at hzero
      | lit hreads =>
        rcases ih.mp hreads with ⟨rest, rfl, hrest⟩
        exact ⟨rest, rfl, hrest⟩
    . rintro ⟨rest, rfl, hrest⟩
      exact .lit (ih.mpr ⟨rest, rfl, hrest⟩)

theorem reads_nil_iff : Reads toInt [] s args ↔ args = [] := by
  constructor
  . intro h
    cases h
    rfl
  . rintro rfl
    exact .done rfl

theorem reads_white_int_iff
    : Reads toInt (.white :: .int :: format) s args
        ↔
      ∃ spaces w v rest args', s = spaces ++ (w ++ rest) ∧ args = .int (toInt v) :: args' ∧
        (∀ c ∈ spaces, isSpace c) ∧ Decimal.Numeral w v ∧ (∀ c ∈ rest.head?, c.isDigit = false) ∧
        Reads toInt format rest args' := by
  constructor
  . intro h
    cases h with
    | done h => simp at h
    | @white _ spaces s _ hspaces hs h =>
      cases h with
      | done h => simp at h
      | @int _ spaces' w rest v args' hspaces' hw hrest h =>
        have hall := List.forall_mem_append.mpr ⟨hspaces, hspaces'⟩
        exact ⟨spaces ++ spaces', w, v, rest, args', by simp, rfl, hall, hw, hrest, h⟩
  . rintro ⟨spaces, w, v, rest, args', rfl, rfl, hspaces, hw, hrest, h⟩
    apply Reads.white hspaces
    . apply head?_word_append (Decimal.isWord_of_numeral hw)
    . exact @Reads.int toInt format [] w rest v args' (by simp) hw hrest h

theorem reads_white_str_iff {width : Nat}
    : Reads toInt (.white :: .str width :: format) s args
        ↔
      ∃ spaces w rest args', s = spaces ++ (w ++ rest) ∧ args = .str w :: args' ∧
        (∀ c ∈ spaces, isSpace c) ∧ IsWord w ∧ w.length ≤ width ∧
        (w.length < width → ∀ c ∈ rest.head?, isSpace c) ∧ Reads toInt format rest args' := by
  constructor
  . intro h
    cases h with
    | done h => simp at h
    | @white _ spaces s _ hspaces hs h =>
      cases h with
      | done h => simp at h
      | @str _ _ spaces' w rest args' hspaces' hw hwidth hrest h =>
        have hall := List.forall_mem_append.mpr ⟨hspaces, hspaces'⟩
        exact ⟨spaces ++ spaces', w, rest, args', by simp, rfl, hall, hw, hwidth, hrest, h⟩
  . rintro ⟨spaces, w, rest, args', rfl, rfl, hspaces, hw, hwidth, hrest, h⟩
    apply Reads.white hspaces
    . apply head?_word_append hw
    . exact @Reads.str toInt format width [] w rest args' (by simp) hw hwidth hrest h

end Reads

end Scanf
