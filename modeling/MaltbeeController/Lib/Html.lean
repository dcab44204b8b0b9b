import MaltbeeController.Lib.Decimal
import MaltbeeController.Lib.StepRun

/-!
This module contains the part of HTML that pages with forms are made of: character references, and the
tags of a text with their attributes. Both are read one character after the other.
-/

namespace Html

open StepRun

def isMarkup (c : Char) : Bool :=
  c = '<' || c = '>' || c = '\'' || c = '"'

def markup (s : List Char) : List Char :=
  s.filter isMarkup

def reference (name : List Char) : Option Char :=
  match name with
  | ['a', 'm', 'p'] => some '&'
  | ['l', 't'] => some '<'
  | ['g', 't'] => some '>'
  | ['q', 'u', 'o', 't'] => some '"'
  | ['a', 'p', 'o', 's'] => some '\''
  | '#' :: digits =>
    match Decimal.readNat digits with
    | some (n, []) => some (Char.ofNat n)
    | _ => none
  | _ => none

-- The state is the name of the reference that has been opened with `&` and not closed so far. An `&`
-- that opens no reference is text.
def readReference (opened : Option (List Char)) (c : Char) : Option (List Char) × List Char :=
  match opened with
  | none => if c = '&' then (some [], []) else (none, [c])
  | some name =>
    if c = ';' then
      match reference name with
      | some d => (none, [d])
      | none => (none, '&' :: name ++ [c])
    else if c = '&' then
      (some [], '&' :: name)
    else if c.isAlphanum || c = '#' then
      (some (name ++ [c]), [])
    else
      (none, '&' :: name ++ [c])

def unescape (s : List Char) : List Char :=
  let res := run readReference none s
  match res.1 with
  | none => res.2
  | some name => res.2 ++ '&' :: name

structure Tag where
  name : List Char
  attributes : List (List Char × List Char) := []
  deriving DecidableEq, Repr

def Tag.add (tag : Tag) (name value : List Char) : Tag :=
  { tag with attributes := tag.attributes ++ [(name, value)] }

inductive State where
  | text
  | tagName (name : List Char)
  | tag (tag : Tag)
  | attributeName (tag : Tag) (name : List Char)
  | beforeValue (tag : Tag) (name : List Char)
  | quoted (tag : Tag) (name : List Char) (quote : Char) (value : List Char)
  | unquoted (tag : Tag) (name value : List Char)
  deriving DecidableEq, Repr

-- A tag is emitted when it is closed. The name of an end tag begins with `/`.
def readTag (s : State) (c : Char) : State × List Tag :=
  match s with
  | .text => if c = '<' then (.tagName [], []) else (.text, [])
  | .tagName name =>
    if c = '>' then
      (.text, [{ name := name }])
    else if Words.isSpace c then
      (.tag { name := name }, [])
    else
      (.tagName (name ++ [c]), [])
  | .tag tag =>
    if c = '>' then
      (.text, [tag])
    else if Words.isSpace c then
      (.tag tag, [])
    else
      (.attributeName tag [c], [])
  | .attributeName tag name =>
    if c = '>' then
      (.text, [tag.add name []])
    else if c = '=' then
      (.beforeValue tag name, [])
    else if Words.isSpace c then
      (.tag (tag.add name []), [])
    else
      (.attributeName tag (name ++ [c]), [])
  | .beforeValue tag name =>
    if c = '\'' || c = '"' then
      (.quoted tag name c [], [])
    else if c = '>' then
      (.text, [tag.add name []])
    else if Words.isSpace c then
      (.beforeValue tag name, [])
    else
      (.unquoted tag name [c], [])
  | .quoted tag name quote value =>
    if c = quote then
      (.tag (tag.add name value), [])
    else
      (.quoted tag name quote (value ++ [c]), [])
  | .unquoted tag name value =>
    if c = '>' then
      (.text, [tag.add name value])
    else if Words.isSpace c then
      (.tag (tag.add name value), [])
    else
      (.unquoted tag name (value ++ [c]), [])

def tags (s : List Char) : List Tag :=
  (run readTag .text s).2

-- Among attributes of one name the first one counts.
def Tag.attribute (tag : Tag) (name : List Char) : Option (List Char) :=
  (tag.attributes.lookup name).map unescape

structure Control where
  tag : List Char
  name : List Char
  value : Option (List Char)
  deriving DecidableEq, Repr

def Tag.control (tag : Tag) : Option Control :=
  if ["input".toList, "select".toList, "textarea".toList, "button".toList].contains tag.name then
    (tag.attribute "name".toList).map fun name => ⟨tag.name, name, tag.attribute "value".toList⟩
  else
    none

-- The controls of a form that have a name. Controls without one are not submitted.
def controls (s : List Char) : List Control :=
  (tags s).filterMap Tag.control

def Tag.has (tag : Tag) (name : List Char) : Bool :=
  (tag.attribute name).isSome

def isSelect (name : List Char) (tag : Tag) : Bool :=
  tag.control.any fun c => c.tag = "select".toList && c.name = name

def optionsOf (name : List Char) (tags : List Tag) : List Tag :=
  ((tags.dropWhile (!isSelect name ·)).tail.takeWhile (·.name ≠ "/select".toList)).filter
    (·.name = "option".toList)

def selectedOptions (options : List Tag) : List Tag :=
  options.filter (·.has "selected".toList)

-- What is sent for a list that nobody touches. It shows the last of the options marked as selected, or
-- else the first one that is not disabled, and what is disabled is not sent.
def untouchedValue (options : List Tag) : Option (List Char) :=
  let shown := (selectedOptions options).getLast?.or (options.find? (!·.has "disabled".toList))
  shown.bind fun option => if option.has "disabled".toList then none else option.attribute "value".toList

theorem markup_append (x y : List Char) : markup (x ++ y) = markup x ++ markup y := by
  apply List.filter_append

theorem markup_flatMap (f : α → List Char) (xs : List α)
    : markup (xs.flatMap f) = xs.flatMap fun x => markup (f x) := by
  apply List.filter_flatMap

theorem markup_cons_eq_nil_iff (c : Char) (s : List Char)
    : markup (c :: s) = [] ↔ isMarkup c = false ∧ markup s = [] := by
  simp [markup, List.filter_eq_nil_iff]

theorem markup_eq_nil {s : List Char} (h : ∀ c ∈ s, isMarkup c = false) : markup s = [] := by
  simpa [markup, List.filter_eq_nil_iff] using h

theorem unescape_eq_self {s : List Char} (h : '&' ∉ s) : unescape s = s := by
  have hrun : run readReference none s = (none, s) := by
    induction s with
    | nil => rfl
    | cons c s ih =>
      rw [List.mem_cons, not_or] at h
      have hc : c ≠ '&' := Ne.symm h.1
      rw [run_cons]
      simp [readReference, hc, ih h.2]
  unfold unescape
  rw [hrun]

-- A way to write characters that stays clear of the markup and that readers of references undo.
structure Escaping (escape : Char → List Char) : Prop where
  read (c : Char) : run readReference none (escape c) = (none, [c])
  clear (c : Char) : markup (escape c) = []

theorem unescape_flatMap {escape : Char → List Char} (h : Escaping escape) (s : List Char)
    : unescape (s.flatMap escape) = s := by
  have hrun : run readReference none (s.flatMap escape) = (none, s) := by
    induction s with
    | nil => rfl
    | cons c s ih =>
      rw [List.flatMap_cons]
      apply run_trans _ (h.read c) ih
  unfold unescape
  rw [hrun]

theorem clear_flatMap {escape : Char → List Char} (h : Escaping escape) (s : List Char)
    : markup (s.flatMap escape) = [] := by
  rw [markup_flatMap]
  simp [h.clear]

theorem run_text {s : List Char} (h : markup s = []) : run readTag .text s = (.text, []) := by
  induction s with
  | nil => rfl
  | cons c s ih =>
    rw [markup_cons_eq_nil_iff] at h
    have hc : c ≠ '<' := by
      intro heq
      simp [heq, isMarkup] at h
    rw [run_cons]
    simp [readTag, hc, ih h.2]

theorem run_quoted {s : List Char} (h : markup s = []) {quote : Char} (hquote : isMarkup quote)
    (tag : Tag) (name value : List Char)
    : run readTag (.quoted tag name quote value) s
        =
      (.quoted tag name quote (value ++ s), []) := by
  induction s generalizing value with
  | nil => simp
  | cons c s ih =>
    rw [markup_cons_eq_nil_iff] at h
    have hc : c ≠ quote := by
      intro heq
      rw [heq, hquote] at h
      simp at h
    rw [run_cons]
    simp only [readTag, hc, ↓reduceIte]
    rw [ih h.2]
    simp

/-
A part of a page that begins and ends outside of tags, and the controls in it. The controls of parts
that are put together are those of the parts.
-/
structure Part (s : List Char) (cs : List Control) : Prop where
  closed : (run readTag .text s).1 = .text
  controls : controls s = cs

instance (s : List Char) (cs : List Control) : Decidable (Part s cs) :=
  decidable_of_iff ((run readTag .text s).1 = .text ∧ controls s = cs)
    ⟨fun h => ⟨h.1, h.2⟩, fun h => ⟨h.closed, h.controls⟩⟩

theorem Part.run_eq {s : List Char} {cs : List Control} (h : Part s cs)
    : run readTag .text s = (.text, tags s) :=
  Prod.ext h.closed rfl

theorem Part.nil : Part [] [] := by
  constructor
  . rfl
  . rfl

theorem Part.of_run {s : List Char} {ts : List Tag} (h : run readTag .text s = (.text, ts))
    : Part s (ts.filterMap Tag.control) := by
  constructor
  . rw [h]
  . rw [Html.controls, tags]
    rw [h]

theorem Part.literal {s : String} {l : List Char} {cs : List Control} (hs : s = String.ofList l)
    (h : Part l cs)
    : Part s.toList cs := by
  rw [hs, String.toList_ofList]
  exact h

theorem Part.append {x y : List Char} {cs ds : List Control} (hx : Part x cs) (hy : Part y ds)
    : Part (x ++ y) (cs ++ ds) := by
  have := Part.of_run (run_trans _ hx.run_eq hy.run_eq)
  rw [List.filterMap_append] at this
  rw [← hx.controls, ← hy.controls]
  exact this

theorem Part.append_nil {x y : List Char} {cs : List Control} (hx : Part x cs) (hy : Part y [])
    : Part (x ++ y) cs := by
  have := hx.append hy
  rwa [List.append_nil] at this

theorem Part.nil_append {x y : List Char} {ds : List Control} (hx : Part x []) (hy : Part y ds)
    : Part (x ++ y) ds :=
  hx.append hy

theorem Part.flatMap {f : α → List Char} {g : α → List Control} (h : ∀ x, Part (f x) (g x))
    (xs : List α)
    : Part (xs.flatMap f) (xs.flatMap g) := by
  induction xs with
  | nil => apply Part.nil
  | cons x xs ih =>
    rw [List.flatMap_cons, List.flatMap_cons]
    apply Part.append (h x) ih

theorem Part.flatMap_nil {f : α → List Char} (h : ∀ x, Part (f x) []) (xs : List α)
    : Part (xs.flatMap f) [] := by
  induction xs with
  | nil => apply Part.nil
  | cons x xs ih =>
    rw [List.flatMap_cons]
    apply Part.append_nil (h x) ih

theorem tags_append {x : List Char} {ts : List Tag} (h : run readTag .text x = (.text, ts))
    (y : List Char)
    : tags (x ++ y) = ts ++ tags y := by
  unfold tags
  rw [run_append, h]

theorem run_flatMap {f : α → List Char} {g : α → List Tag}
    (h : ∀ x, run readTag .text (f x) = (.text, g x)) (xs : List α)
    : run readTag .text (xs.flatMap f) = (.text, xs.flatMap g) := by
  induction xs with
  | nil => rfl
  | cons x xs ih =>
    rw [List.flatMap_cons, List.flatMap_cons]
    exact run_trans _ (h x) ih

theorem not_isSelect_of_part {s : List Char} (h : Part s []) (name : List Char)
    : ∀ tag ∈ tags s, isSelect name tag = false := by
  intro tag htag
  have hnone := h.controls
  unfold controls at hnone
  rw [List.filterMap_eq_nil_iff] at hnone
  unfold isSelect
  rw [hnone tag htag]
  rfl

theorem optionsOf_eq {before after : List Tag} {name : List Char} {select : Tag} {content : List Tag}
    (hbefore : ∀ tag ∈ before, isSelect name tag = false) (hselect : isSelect name select = true)
    (hcontent : ∀ tag ∈ content, tag.name ≠ "/select".toList)
    : optionsOf name (before ++ (select :: content ++ (⟨"/select".toList, []⟩ :: after)))
        =
      content.filter (·.name = "option".toList) := by
  have hopen : ∀ tag ∈ content, decide (tag.name ≠ "/select".toList) = true := by
    intro tag htag
    exact decide_eq_true (hcontent tag htag)
  unfold optionsOf
  rw [List.dropWhile_append_of_pos (by simpa using hbefore)]
  rw [List.cons_append, List.dropWhile_cons_of_neg (by simp [hselect]), List.tail_cons]
  rw [List.takeWhile_append_of_pos hopen]
  rw [List.takeWhile_cons_of_neg (by simp), List.append_nil]

end Html
