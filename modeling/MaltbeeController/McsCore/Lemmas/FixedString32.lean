import MaltbeeController.McsCore.Impl.FixedString32

/-!
This module contains the proof that `FixedString32` cuts a string off once, that it reads and writes nothing
out of bounds, and that it compares equal to the string it has kept and to no other.
-/

namespace Maltbee

/--
A string that ends with its terminator: the characters before it.
-/
structure CString where
  chars : List Char
  ne_terminator : ∀ c ∈ chars, c ≠ '\x00'

namespace FixedString32

theorem untilTerminator_eq_self {value : List Char} (h : ∀ c ∈ value, c ≠ '\x00')
    : untilTerminator value = value := by
  unfold untilTerminator
  rw [List.takeWhile_eq_self_iff]
  simpa using h

theorem ne_terminator_of_mem_untilTerminator {value : List Char} {c : Char}
    (h : c ∈ untilTerminator value)
    : c ≠ '\x00' := by
  have := List.mem_takeWhile_imp h
  simpa using this

variable {s : FixedString32} {pre other : List Char}

theorem load_eq (h : Holds s.buffer pre) {i : Nat} (hi : i ≤ pre.length) (hlen : pre.length < 32)
    : load s.buffer i = some ((pre.drop i).headD '\x00') := by
  have hget : load s.buffer i = (pre ++ List.replicate (32 - pre.length) '\x00')[i]? := by
    rw [← h]
    exact Vector.getElem?_toList.symm
  rw [hget]
  cases Nat.lt_or_eq_of_le hi with
  | inl hlt =>
    rw [List.getElem?_append_left hlt]
    rw [List.drop_eq_getElem_cons hlt]
    simp [hlt]
  | inr heq =>
    rw [heq]
    rw [List.getElem?_append_right (Nat.le_refl _)]
    rw [List.getElem?_replicate]
    simp
    omega

theorem drop_succ_of_drop_eq_cons {value rest : List Char} {c : Char} {i : Nat}
    (h : value.drop i = c :: rest)
    : i + 1 ≤ value.length ∧ value.drop (i + 1) = rest ∧ c ∈ value := by
  have hmem : c ∈ value.drop i := by simp [h]
  refine ⟨?_, ?_, List.mem_of_mem_drop hmem⟩
  . have := congrArg List.length h
    rw [List.length_drop, List.length_cons] at this
    omega
  . rw [← List.drop_drop, h]
    rfl

section Equals

variable (h : Holds s.buffer pre) (hlen : pre.length < 32) (hpre : ∀ c ∈ pre, c ≠ '\x00')
  (hother : ∀ c ∈ other, c ≠ '\x00')

include h hlen hpre hother

theorem equalsEnd_eq {i : Nat} (hi : i ≤ pre.length) (hi' : i ≤ other.length)
    : equalsEnd s other i = some (decide (pre.drop i = [] ∧ other.drop i = [])) := by
  unfold equalsEnd
  rw [load_eq h hi hlen, charAt_eq other i hi']
  cases hdrop : pre.drop i with
  | nil =>
    cases hdrop' : other.drop i with
    | nil => rfl
    | cons c' rest' =>
      have hc' := hother c' (drop_succ_of_drop_eq_cons hdrop').2.2
      simp [hc']
  | cons c rest =>
    have hc := hpre c (drop_succ_of_drop_eq_cons hdrop).2.2
    simp [hc]

-- The comparison goes on as long as both strings do, so that it stays below the terminator of either.
theorem equalsLoop_eq (remaining i : Nat) (hremaining : remaining + i = 32) (hi : i ≤ pre.length)
    (hi' : i ≤ other.length)
    : equalsLoop s other remaining i = some (decide (other.drop i = pre.drop i)) := by
  induction remaining generalizing i with
  | zero => omega
  | succ remaining ih =>
    have hend := equalsEnd_eq h hlen hpre hother hi hi'
    simp only [equalsLoop]
    rw [load_eq h hi hlen, charAt_eq other i hi']
    cases hdrop : pre.drop i with
    | nil =>
      rw [hdrop] at hend
      simpa using hend
    | cons c rest =>
      have ⟨hnext, hrest, hmem⟩ := drop_succ_of_drop_eq_cons hdrop
      have hc := hpre c hmem
      cases hdrop' : other.drop i with
      | nil =>
        rw [hdrop, hdrop'] at hend
        simpa [hc] using hend
      | cons c' rest' =>
        have ⟨hnext', hrest', hmem'⟩ := drop_succ_of_drop_eq_cons hdrop'
        have hc' := hother c' hmem'
        have hloop := ih (i + 1) (by omega) hnext hnext'
        rw [hrest, hrest'] at hloop
        by_cases heq : c = c'
        . simpa [hc, hc', heq] using hloop
        . have hne : ¬c' = c := fun h => heq h.symm
          simp [hc, hc', heq, hne]

theorem equals_eq : s.equals other = some (decide (other = pre)) := by
  apply equalsLoop_eq h hlen hpre hother
  . rfl
  . omega
  . omega

end Equals

structure Wraps (s t : CString) (fixed : FixedString32) : Prop where
  constructed : construct s.chars = some fixed
  terminated : fixed.buffer.toList
    = s.chars.take 31 ++ List.replicate (32 - (s.chars.take 31).length) '\x00'
  c_str : fixed.c_str = s.chars.take 31
  equals : fixed.equals t.chars = some (decide (t.chars = s.chars.take 31))
  again : construct fixed.c_str = some fixed
  equals_c_str : fixed.equals fixed.c_str = some true

theorem construct_eq (value : List Char) : construct value = some (ofCStr value) := by
  unfold ofCStr
  rw [Option.some_get]

theorem eq_of_holds {s s' : FixedString32} {pre : List Char} (h : Holds s.buffer pre)
    (h' : Holds s'.buffer pre)
    : s = s' := by
  have : s.buffer = s'.buffer := by
    rw [← Vector.toList_inj, h, h']
  cases s
  cases s'
  congr

theorem ofCStr_c_str_ofCStr (value : List Char) : ofCStr (ofCStr value).c_str = ofCStr value := by
  have hagain := ofCStr_holds (ofCStr value).c_str
  have hclean : ∀ c ∈ (untilTerminator value).take 31, c ≠ '\x00' := by
    intro c hc
    exact ne_terminator_of_mem_untilTerminator (List.mem_of_mem_take hc)
  rw [c_str_ofCStr, untilTerminator_eq_self hclean, List.take_take, Nat.min_self] at hagain
  rw [← c_str_ofCStr] at hagain
  exact eq_of_holds hagain (by rw [c_str_ofCStr]; exact ofCStr_holds value)

theorem wraps (s t : CString) : Wraps s t (ofCStr s.chars) := by
  have hkept := untilTerminator_eq_self s.ne_terminator
  have hholds := ofCStr_holds s.chars
  have hc_str := c_str_ofCStr s.chars
  rw [hkept] at hholds hc_str
  have hlen : (s.chars.take 31).length < 32 := by
    rw [List.length_take]
    omega
  have hclean : ∀ c ∈ s.chars.take 31, c ≠ '\x00' := by
    intro c hc
    exact s.ne_terminator c (List.mem_of_mem_take hc)
  constructor
  . exact construct_eq s.chars
  . exact hholds
  . exact hc_str
  . apply equals_eq hholds hlen hclean t.ne_terminator
  . rw [construct_eq, ofCStr_c_str_ofCStr]
  . rw [hc_str, equals_eq hholds hlen hclean hclean, decide_eq_true rfl]

end FixedString32

end Maltbee
