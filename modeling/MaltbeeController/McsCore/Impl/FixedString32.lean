import Mathlib.Data.List.TakeWhile

/-!
This module contains the fixed capacity string type that names and replies are stored in.
-/

namespace Maltbee

-- Character `i` of the memory behind a `const char*` that points to `value`: the characters and their
-- terminator. Reading past the terminator is not defined.
def charAt (value : List Char) (i : Nat) : Option Char :=
  (value ++ ['\x00'])[i]?

structure FixedString32 where
  buffer : Vector Char 32
  deriving DecidableEq, Repr

namespace FixedString32

def CAPACITY : Nat := 32

def zeroed : Vector Char 32 :=
  Vector.replicate 32 '\x00'

instance : Inhabited FixedString32 where
  default := ⟨zeroed⟩

def store (buffer : Vector Char 32) (i : Nat) (c : Char) : Option (Vector Char 32) :=
  if hi:i < 32 then some (buffer.set i c hi) else none

-- The `for` loop of the constructor. `remaining` is `CAPACITY - 1 - i`, so the loop condition
-- `i < CAPACITY - 1` is that it is not `0`.
def copyLoop (value : List Char) (remaining : Nat) (i : Nat) (buffer : Vector Char 32)
    : Option (Vector Char 32) :=
  match remaining with
  | 0 => store buffer i '\x00'
  | remaining + 1 => do
    let c ← charAt value i
    if c ≠ '\x00' then
      let buffer ← store buffer i c
      copyLoop value remaining (i + 1) buffer
    else
      store buffer i '\x00'

-- The constructor with every memory access checked: `none` is an access out of bounds.
def construct (value : List Char) : Option FixedString32 := do
  let buffer ← copyLoop value (CAPACITY - 1) 0 zeroed
  return ⟨buffer⟩

def c_str (s : FixedString32) : List Char :=
  s.buffer.toList.takeWhile (· ≠ '\x00')

def load (buffer : Vector Char 32) (i : Nat) : Option Char :=
  buffer[i]?

-- What `operator==` returns after its loop, with every memory access checked like in `construct`.
def equalsEnd (s : FixedString32) (other : List Char) (i : Nat) : Option Bool := do
  let c ← load s.buffer i
  if c = '\x00' then
    let c' ← charAt other i
    return c' = '\x00'
  else
    return false

-- The `for` loop of `operator==`. `remaining` is `CAPACITY - i`: at `0` the loop condition reads the
-- character behind the buffer.
def equalsLoop (s : FixedString32) (other : List Char) (remaining : Nat) (i : Nat) : Option Bool :=
  match remaining with
  | 0 => none
  | remaining + 1 => do
    let c ← load s.buffer i
    if c ≠ '\x00' then
      let c' ← charAt other i
      if c' ≠ '\x00' then
        if c ≠ c' then
          return false
        else
          equalsLoop s other remaining (i + 1)
      else
        equalsEnd s other i
    else
      equalsEnd s other i

def equals (s : FixedString32) (other : List Char) : Option Bool :=
  equalsLoop s other CAPACITY 0

def untilTerminator (value : List Char) : List Char :=
  value.takeWhile (· ≠ '\x00')

theorem charAt_eq (value : List Char) (i : Nat) (hi : i ≤ value.length)
    : charAt value i = some ((value.drop i).headD '\x00') := by
  unfold charAt
  cases Nat.lt_or_eq_of_le hi with
  | inl hlt =>
    rw [List.getElem?_append_left hlt]
    rw [List.drop_eq_getElem_cons hlt]
    simp [hlt]
  | inr heq => simp [heq]

def Holds (buffer : Vector Char 32) (pre : List Char) : Prop :=
  buffer.toList = pre ++ List.replicate (32 - pre.length) '\x00'

theorem store_holds {buffer : Vector Char 32} {pre : List Char} (h : Holds buffer pre) (c : Char)
    (hlen : pre.length < 32)
    : ∃ buffer', store buffer pre.length c = some buffer' ∧ Holds buffer' (pre ++ [c]) := by
  refine ⟨buffer.set pre.length c hlen, ?_, ?_⟩
  . simp [store, hlen]
  . unfold Holds at *
    have hsucc : 32 - pre.length = (32 - (pre.length + 1)) + 1 := by omega
    rw [Vector.toList_set]
    rw [h]
    rw [hsucc]
    simp [List.replicate_succ]

theorem store_terminator {buffer : Vector Char 32} {pre : List Char} (h : Holds buffer pre)
    (hlen : pre.length < 32)
    : store buffer pre.length '\x00' = some buffer := by
  unfold Holds at h
  simp only [store, hlen, ↓reduceDIte, Option.some.injEq]
  rw [← Vector.toList_inj]
  rw [Vector.toList_set]
  apply List.ext_getElem
  . simp
  . intro j h1 h2
    rw [List.getElem_set]
    split
    . next hj =>
      subst hj
      simp [h]
    . rfl

theorem copyLoop_holds (value : List Char) (remaining : Nat) {buffer : Vector Char 32}
    {pre : List Char} (h : Holds buffer pre) (hlen : pre.length + remaining < 32)
    (hpre : pre.length ≤ value.length)
    : ∃ buffer', copyLoop value remaining pre.length buffer = some buffer' ∧
        Holds buffer' (pre ++ (untilTerminator (value.drop pre.length)).take remaining) := by
  induction remaining generalizing buffer pre with
  | zero =>
    refine ⟨buffer, ?_, by simpa using h⟩
    simp only [copyLoop]
    apply store_terminator h
    omega
  | succ remaining ih =>
    simp only [copyLoop]
    rw [charAt_eq value pre.length hpre]
    cases hdrop : value.drop pre.length with
    | nil =>
      refine ⟨buffer, ?_, by simpa [untilTerminator] using h⟩
      simpa using store_terminator h (by omega)
    | cons c rest =>
      by_cases hc : c = '\x00'
      . refine ⟨buffer, ?_, by simpa [untilTerminator, hc] using h⟩
        simpa [hc] using store_terminator h (by omega)
      . obtain ⟨next, hnext, hholds⟩ := store_holds h c (by omega)
        have hlt : pre.length < value.length := by
          have := congrArg List.length hdrop
          simp at this
          omega
        have hrest : value.drop (pre ++ [c]).length = rest := by
          rw [List.length_append]
          rw [← List.drop_drop]
          simp [hdrop]
        have := ih hholds (by simp; omega) (by simp; omega)
        rw [hrest] at this
        obtain ⟨final, hfinal, hfinalholds⟩ := this
        refine ⟨final, ?_, ?_⟩
        . simpa [hc, hnext] using hfinal
        . simpa [untilTerminator, hc] using hfinalholds

theorem zeroed_holds : Holds zeroed [] := by
  simp [Holds, zeroed]

theorem construct_holds (value : List Char)
    : ∃ s, construct value = some s ∧ Holds s.buffer ((untilTerminator value).take 31) := by
  obtain ⟨buffer, hbuffer, hholds⟩ :=
    copyLoop_holds value 31 zeroed_holds (by simp) (by simp)
  refine ⟨⟨buffer⟩, ?_, by simpa using hholds⟩
  simp only [construct, CAPACITY]
  simp only [List.length_nil] at hbuffer
  rw [hbuffer]
  rfl

theorem construct_isSome (value : List Char) : (construct value).isSome := by
  obtain ⟨s, hs, _⟩ := construct_holds value
  simp [hs]

def ofCStr (value : List Char) : FixedString32 :=
  (construct value).get (construct_isSome value)

theorem ofCStr_holds (value : List Char)
    : Holds (ofCStr value).buffer ((untilTerminator value).take 31) := by
  obtain ⟨s, hs, hholds⟩ := construct_holds value
  simpa [ofCStr, hs] using hholds

@[simp]
theorem c_str_ofCStr (value : List Char)
    : (ofCStr value).c_str = (untilTerminator value).take 31 := by
  unfold c_str
  rw [ofCStr_holds value]
  rw [List.takeWhile_append_of_pos]
  . simp
  . intro c hc
    have := List.mem_of_mem_take hc
    exact List.mem_takeWhile_imp (p := (· ≠ '\x00')) this

theorem ofCStr_ne {value value' : List Char}
    (h : (untilTerminator value).take 31 ≠ (untilTerminator value').take 31)
    : ofCStr value ≠ ofCStr value' := by
  intro heq
  apply h
  simpa using congrArg c_str heq

end FixedString32

end Maltbee
