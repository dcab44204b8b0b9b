import Mathlib.Data.List.DropRight
import Mathlib.Data.List.TakeWhile
import Mathlib.Tactic.Common

/-!
This module contains the words of a text, that is its longest parts without white space, and how
they are found: by extracting one after the other from the front of the text.
-/

namespace Words

-- The white space of the C locale: blank, tab, newline, vertical tab, form feed, carriage return.
def isSpace (c : Char) : Bool :=
  c = ' ' || ('\t' ≤ c && c ≤ '\r')

def words (s : List Char) : List (List Char) :=
  (s.splitOnP isSpace).filter (!·.isEmpty)

def IsWord (w : List Char) : Prop :=
  w ≠ [] ∧ ∀ c ∈ w, isSpace c = false

-- Not by going through all characters.
instance (w : List Char) : Decidable (IsWord w) :=
  have : Decidable (∀ c ∈ w, isSpace c = false) := List.decidableBAll _ w
  inferInstanceAs (Decidable (_ ∧ _))

def trim (s : List Char) : List Char :=
  (s.dropWhile isSpace).rdropWhile isSpace

def extract (s : List Char) : Option (List Char × List Char) :=
  let s := s.dropWhile isSpace
  let w := s.takeWhile (!isSpace ·)
  if w.isEmpty then none else some (w, s.dropWhile (!isSpace ·))

def extractAll (fuel : Nat) (s : List Char) : List (List Char) :=
  match fuel with
  | 0 => []
  | fuel + 1 =>
    match extract s with
    | none => []
    | some (w, rest) => w :: extractAll fuel rest

-- The text consists of the tokens and of white space, some of it between any two of them.
inductive Layout : List (List Char) → List Char → Prop where
  | spaces {s : List Char} (h : ∀ c ∈ s, isSpace c) : Layout [] s
  | word {spaces w rest : List Char} {tokens : List (List Char)} (hspaces : ∀ c ∈ spaces, isSpace c)
      (hrest : ∀ c ∈ rest.head?, isSpace c) (h : Layout tokens rest)
      : Layout (w :: tokens) (spaces ++ (w ++ rest))

@[simp]
theorem words_nil : words [] = [] := by
  rfl

theorem words_append_space (x y : List Char) {c : Char} (hc : isSpace c)
    : words (x ++ c :: y) = words x ++ words y := by
  unfold words
  rw [List.splitOnP_append_cons _ _ hc]
  rw [List.filter_append]

theorem words_cons_space (y : List Char) {c : Char} (hc : isSpace c)
    : words (c :: y) = words y := by
  simpa using words_append_space [] y hc

theorem words_of_isWord {w : List Char} (hw : IsWord w) : words w = [w] := by
  rcases hw with ⟨hne, hspace⟩
  unfold words
  rw [List.splitOnP_eq_singleton hspace]
  simp [hne]

theorem words_word_append_space {w : List Char} (hw : IsWord w) (y : List Char) {c : Char}
    (hc : isSpace c)
    : words (w ++ c :: y) = w :: words y := by
  rw [words_append_space w y hc]
  rw [words_of_isWord hw]
  rfl

theorem words_dropWhile (s : List Char) : words (s.dropWhile isSpace) = words s := by
  induction s with
  | nil => rfl
  | cons c s ih =>
    rw [List.dropWhile_cons]
    split
    . next hc =>
      rw [ih]
      rw [words_cons_space s hc]
    . rfl

theorem words_append_spaces (x : List Char) {spaces : List Char}
    (hspaces : ∀ c ∈ spaces, isSpace c)
    : words (x ++ spaces) = words x := by
  induction spaces generalizing x with
  | nil => simp
  | cons c spaces ih =>
    have hc := hspaces c (by simp)
    have hrest := ih [] (fun d hd => hspaces d (by simp [hd]))
    rw [words_append_space _ _ hc]
    simpa using hrest

theorem forall_takeWhile (p : Char → Bool) (s : List Char) : ∀ c ∈ s.takeWhile p, p c := by
  intro c hc
  exact List.mem_takeWhile_imp hc

/-
Around the words stands nothing but white space: what `trim` leaves of a text and what it takes off
at the end.
-/
theorem trim_append (s : List Char)
    : ∃ spaces, s.dropWhile isSpace = trim s ++ spaces ∧ ∀ c ∈ spaces, isSpace c := by
  exists ((s.dropWhile isSpace).reverse.takeWhile isSpace).reverse
  constructor
  . unfold trim List.rdropWhile
    rw [← List.reverse_append]
    rw [List.takeWhile_append_dropWhile]
    simp
  . intro c hc
    rw [List.mem_reverse] at hc
    apply forall_takeWhile _ _ c hc

theorem words_trim (s : List Char) : words (trim s) = words s := by
  rcases trim_append s with ⟨spaces, heq, hspaces⟩
  rw [← words_dropWhile s]
  rw [heq]
  rw [words_append_spaces _ hspaces]

theorem dropWhile_of_forall {v : List Char} (hv : ∀ c ∈ v, isSpace c = false)
    : v.dropWhile isSpace = v := by
  cases v with
  | nil => rfl
  | cons c v => simp [hv c (by simp)]

theorem dropWhile_append_of_forall {spaces : List Char} (hspaces : ∀ c ∈ spaces, isSpace c)
    (y : List Char)
    : (spaces ++ y).dropWhile isSpace = y.dropWhile isSpace := by
  induction spaces with
  | nil => rfl
  | cons c spaces ih =>
    rw [List.cons_append]
    rw [List.dropWhile_cons_of_pos (hspaces c (by simp))]
    apply ih
    intro d hd
    exact hspaces d (by simp [hd])

theorem trim_of_isWord_append {w spaces : List Char} (hw : IsWord w)
    (hspaces : ∀ c ∈ spaces, isSpace c)
    : trim (w ++ spaces) = w := by
  rcases hw with ⟨hne, hspace⟩
  have hfront : (w ++ spaces).dropWhile isSpace = w ++ spaces := by
    cases w with
    | nil => contradiction
    | cons c w => simp [hspace c (by simp)]
  unfold trim List.rdropWhile
  rw [hfront]
  rw [List.reverse_append]
  rw [dropWhile_append_of_forall (by simpa using hspaces)]
  rw [dropWhile_of_forall (by simpa using hspace)]
  simp

theorem trim_of_isWord {w : List Char} (hw : IsWord w) : trim w = w := by
  simpa using trim_of_isWord_append hw (List.forall_mem_nil _)

theorem trim_dropWhile (s : List Char) : trim (s.dropWhile isSpace) = trim s := by
  unfold trim
  rw [List.dropWhile_idempotent]

theorem dropWhile_eq_nil_or_cons (s : List Char)
    : s.dropWhile isSpace = [] ∨
        ∃ c rest, s.dropWhile isSpace = c :: rest ∧ isSpace c = false := by
  cases hdrop : s.dropWhile isSpace with
  | nil => left; rfl
  | cons c rest =>
    right
    have := List.dropWhile_get_zero_not isSpace s (by simp [hdrop])
    exists c, rest
    simpa [hdrop] using this

theorem isSpace_of_mem_blank : ∀ c ∈ [' '], isSpace c := by
  intro c hc
  rw [List.mem_singleton.mp hc]
  rfl

theorem dropWhile_of_head? {s : List Char} (hs : ∀ c ∈ s.head?, isSpace c = false)
    : s.dropWhile isSpace = s := by
  cases s with
  | nil => rfl
  | cons c s => simp [hs c (by simp)]

theorem dropWhile_spaces_append {spaces s : List Char} (hspaces : ∀ c ∈ spaces, isSpace c)
    (hs : ∀ c ∈ s.head?, isSpace c = false)
    : (spaces ++ s).dropWhile isSpace = s := by
  rw [dropWhile_append_of_forall hspaces]
  rw [dropWhile_of_head? hs]

theorem spaces_append_inj {spaces spaces' s s' : List Char} (hspaces : ∀ c ∈ spaces, isSpace c)
    (hspaces' : ∀ c ∈ spaces', isSpace c) (hs : ∀ c ∈ s.head?, isSpace c = false)
    (hs' : ∀ c ∈ s'.head?, isSpace c = false)
    : spaces ++ s = spaces' ++ s' ↔ spaces = spaces' ∧ s = s' := by
  constructor
  . intro h
    have hrest : s = s' := by
      rw [← dropWhile_spaces_append hspaces hs, h]
      apply dropWhile_spaces_append hspaces' hs'
    rw [hrest, List.append_cancel_right_eq] at h
    exact ⟨h, hrest⟩
  . rintro ⟨rfl, rfl⟩
    rfl

theorem head?_dropWhile (s : List Char) : ∀ c ∈ (s.dropWhile isSpace).head?, isSpace c = false := by
  intro c hc
  have := List.head?_dropWhile_not isSpace s
  rw [Option.mem_def.mp hc] at this
  exact this

theorem head?_word_append {w : List Char} (hw : IsWord w) (rest : List Char)
    : ∀ c ∈ (w ++ rest).head?, isSpace c = false := by
  intro c hc
  rw [List.head?_append_of_ne_nil w hw.1] at hc
  apply hw.2 c
  exact List.mem_of_mem_head? hc

theorem takeWhile_word_append {w rest : List Char} (hw : IsWord w)
    (hrest : ∀ c ∈ rest.head?, isSpace c)
    : (w ++ rest).takeWhile (!isSpace ·) = w := by
  rw [List.takeWhile_append_of_pos (by simpa using hw.2)]
  cases rest with
  | nil => simp
  | cons c rest => simp [hrest c (by simp)]

theorem take_word_spec (s : List Char) (width : Nat)
    : let w := (s.takeWhile (!isSpace ·)).take width
      w ++ s.drop w.length = s ∧ w.length ≤ width ∧ (∀ c ∈ w, isSpace c = false) ∧
        (w.length < width → ∀ c ∈ (s.drop w.length).head?, isSpace c) := by
  intro w
  refine ⟨?_, ?_, ?_, ?_⟩
  . apply (List.prefix_iff_eq_append).mp
    exact (List.take_prefix _ _).trans (List.takeWhile_prefix _)
  . apply List.length_take_le
  . intro c hc
    simpa using forall_takeWhile _ _ c (List.mem_of_mem_take hc)
  . intro hlt
    have hw : w = s.takeWhile (!isSpace ·) := by
      apply List.take_of_length_le
      rw [List.length_take] at hlt
      omega
    have hrest : s.drop w.length = s.dropWhile (!isSpace ·) := by
      rw [hw]
      nth_rewrite 2 [← List.takeWhile_append_dropWhile (p := (!isSpace ·)) (l := s)]
      apply List.drop_left
    rw [hrest]
    intro c hc
    have := List.head?_dropWhile_not (!isSpace ·) s
    rw [Option.mem_def.mp hc] at this
    simpa using this

theorem extract_eq_none {s : List Char} (h : extract s = none) : ∀ c ∈ s, isSpace c := by
  rw [← List.dropWhile_eq_nil_iff]
  rcases dropWhile_eq_nil_or_cons s with hnil | ⟨c, rest, hcons, hc⟩
  . exact hnil
  . simp [extract, hcons, hc] at h

theorem extract_eq_some {s w rest : List Char} (h : extract s = some (w, rest))
    : IsWord w ∧ s.dropWhile isSpace = w ++ rest ∧
        (rest = [] ∨ ∃ c rest', rest = c :: rest' ∧ isSpace c) := by
  simp only [extract, List.isEmpty_iff, Option.ite_none_left_eq_some, Option.some.injEq,
    Prod.mk.injEq] at h
  rcases h with ⟨hne, hw, hrest⟩
  refine ⟨⟨by rwa [← hw], ?_⟩, ?_, ?_⟩
  . intro c hc
    rw [← hw] at hc
    simpa using forall_takeWhile _ _ c hc
  . rw [← hw]
    rw [← hrest]
    rw [List.takeWhile_append_dropWhile]
  . rw [← hrest]
    cases hdrop : (s.dropWhile isSpace).dropWhile (!isSpace ·) with
    | nil => left; rfl
    | cons c rest' =>
      right
      have := List.dropWhile_get_zero_not (!isSpace ·) (s.dropWhile isSpace) (by simp [hdrop])
      exists c, rest'
      simpa [hdrop] using this

theorem words_of_extract {s w rest : List Char} (h : extract s = some (w, rest))
    : words s = w :: words rest := by
  rcases extract_eq_some h with ⟨hw, hs, hrest⟩
  rw [← words_dropWhile s]
  rw [hs]
  rcases hrest with rfl | ⟨c, rest', rfl, hc⟩
  . simpa using words_of_isWord hw
  . rw [words_word_append_space hw rest' hc]
    rw [words_cons_space rest' hc]

theorem words_eq_nil_iff (s : List Char) : words s = [] ↔ ∀ c ∈ s, isSpace c := by
  constructor
  . intro h
    cases hextract : extract s with
    | none => exact extract_eq_none hextract
    | some next =>
      rw [words_of_extract hextract] at h
      simp at h
  . intro h
    simpa using words_append_spaces [] h

theorem length_of_extract {s w rest : List Char} (h : extract s = some (w, rest))
    : rest.length < s.length := by
  rcases extract_eq_some h with ⟨⟨hne, _⟩, hs, _⟩
  have hle := (List.dropWhile_suffix (l := s) isSpace).length_le
  have hpos := List.length_pos_iff.mpr hne
  rw [hs] at hle
  simp only [List.length_append] at hle
  omega

theorem extractAll_eq (fuel : Nat) (s : List Char) (h : s.length < fuel)
    : extractAll fuel s = words s := by
  induction fuel generalizing s with
  | zero => omega
  | succ fuel ih =>
    unfold extractAll
    split
    . next hextract =>
      have := extract_eq_none hextract
      exact ((words_eq_nil_iff s).mpr this).symm
    . next w rest hextract =>
      have hlen := length_of_extract hextract
      rw [words_of_extract hextract]
      rw [ih rest (by omega)]

theorem isWord_of_mem {s w : List Char} (hw : w ∈ words s) : IsWord w := by
  rw [← extractAll_eq (s.length + 1) s (by omega)] at hw
  generalize s.length + 1 = fuel at hw
  induction fuel generalizing s with
  | zero => simp [extractAll] at hw
  | succ fuel ih =>
    unfold extractAll at hw
    split at hw
    . simp at hw
    . next v rest hextract =>
      rw [List.mem_cons] at hw
      cases hw with
      | inl heq =>
        rw [heq]
        exact (extract_eq_some hextract).1
      | inr hmem => exact ih hmem

theorem words_eq_singleton_iff (s w : List Char)
    : words s = [w] ↔ trim s = w ∧ IsWord w := by
  constructor
  . intro h
    have hw : IsWord w := isWord_of_mem (s := s) (by simp [h])
    refine ⟨?_, hw⟩
    cases hextract : extract s with
    | none =>
      rw [(words_eq_nil_iff s).mpr (extract_eq_none hextract)] at h
      simp at h
    | some next =>
      rw [words_of_extract hextract] at h
      rw [List.cons.injEq] at h
      rcases extract_eq_some hextract with ⟨_, hs, _⟩
      rw [← trim_dropWhile]
      rw [hs]
      rw [h.1]
      apply trim_of_isWord_append hw
      exact (words_eq_nil_iff _).mp h.2
  . intro h
    rw [← words_trim]
    rw [h.1]
    apply words_of_isWord h.2

theorem words_of_layout {tokens : List (List Char)} {s : List Char} (htokens : ∀ w ∈ tokens, IsWord w)
    (h : Layout tokens s)
    : words s = tokens := by
  induction h with
  | spaces h => exact (words_eq_nil_iff _).mpr h
  | @word spaces w rest tokens hspaces hrest _ ih =>
    have hw := htokens w (by simp)
    have hwords := ih fun w' hw' => htokens w' (List.mem_cons_of_mem w hw')
    rw [← words_dropWhile, dropWhile_append_of_forall hspaces, words_dropWhile]
    cases rest with
    | nil =>
      rw [List.append_nil, words_of_isWord hw, ← hwords]
      rfl
    | cons c rest =>
      have hc : isSpace c = true := hrest c rfl
      rw [words_word_append_space hw rest hc, ← words_cons_space rest hc, hwords]

theorem mem_of_mem_splitOnP {w s : List Char} {c : Char} (hw : w ∈ s.splitOnP isSpace) (hc : c ∈ w)
    : c ∈ s := by
  induction s generalizing w with
  | nil =>
    rw [List.splitOnP_nil, List.mem_singleton] at hw
    rw [hw] at hc
    exact hc
  | cons d s ih =>
    rw [List.splitOnP_cons_eq_if_modifyHead] at hw
    split at hw
    . rcases List.mem_cons.mp hw with rfl | hw
      . contradiction
      . exact List.mem_cons_of_mem d (ih hw hc)
    . cases hsplit : s.splitOnP isSpace with
      | nil => simp [hsplit] at hw
      | cons first rest =>
        rw [hsplit] at hw ih
        rw [List.modifyHead_cons, List.mem_cons] at hw
        rcases hw with rfl | hw
        . rcases List.mem_cons.mp hc with rfl | hc
          . apply List.mem_cons_self
          . exact List.mem_cons_of_mem d (ih List.mem_cons_self hc)
        . exact List.mem_cons_of_mem d (ih (List.mem_cons_of_mem first hw) hc)

theorem mem_of_mem_words {w s : List Char} {c : Char} (hw : w ∈ words s) (hc : c ∈ w) : c ∈ s :=
  mem_of_mem_splitOnP (List.mem_of_mem_filter hw) hc

end Words
