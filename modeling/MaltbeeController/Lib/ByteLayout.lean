import Mathlib.Data.List.Basic
import Mathlib.Logic.Equiv.Defs
import Mathlib.Logic.Function.Basic

/-!
This module contains fixed width layouts of values in a memory of bytes, and what is read back from a
memory when the power was lost between two bytes of a write.
-/

-- `fits a` is that the stored type has `a`. Every string of `width` bytes is the layout of such a value.
structure ByteLayout (α : Type u) where
  width : Nat
  fits : α → Bool
  encode : α → List UInt8
  decode : List UInt8 → α
  length_encode (a : α) : (encode a).length = width
  decode_encode (a : α) : fits a → decode (encode a) = a
  fits_decode (bytes : List UInt8) : bytes.length = width → fits (decode bytes)
  encode_decode (bytes : List UInt8) : bytes.length = width → encode (decode bytes) = bytes

namespace ByteLayout

section Splice

-- `old` with its first `k` bytes replaced by those of `new`.
def splice (k : Nat) (new old : List UInt8) : List UInt8 :=
  new.take k ++ old.drop k

variable {new old : List UInt8}

theorem length_splice (h : new.length = old.length) (k : Nat)
    : (splice k new old).length = old.length := by
  unfold splice
  rw [List.length_append, List.length_take, List.length_drop]
  omega

theorem take_splice (h : new.length = old.length) (k w : Nat)
    : (splice k new old).take w = splice k (new.take w) (old.take w) := by
  unfold splice
  rw [List.take_append, List.length_take, List.take_take, List.take_take, Nat.min_comm]
  congr 1
  rw [List.drop_take]
  rcases Nat.le_total k new.length with hk | hk
  . rw [Nat.min_eq_left hk]
  . rw [List.drop_eq_nil_of_le (by omega), List.take_nil, List.take_nil]

theorem drop_splice (h : new.length = old.length) (k m : Nat)
    : (splice k new old).drop m = splice (k - m) (new.drop m) (old.drop m) := by
  unfold splice
  rw [List.drop_append, List.length_take, List.drop_take, List.drop_drop, List.drop_drop]
  congr 1
  rcases Nat.le_total k new.length with hk | hk
  . rw [Nat.min_eq_left hk]
    congr 1
    omega
  . rw [List.drop_eq_nil_of_le (by omega), List.drop_eq_nil_of_le (by omega)]

theorem drop_take_flatMap {α : Type u} {f : α → List UInt8} {w : Nat} (hf : ∀ a, (f a).length = w)
    (l : List α) (i : Nat) (hi : i < l.length)
    : ((l.flatMap f).drop (i * w)).take w = f l[i] := by
  induction l generalizing i with
  | nil => contradiction
  | cons a l ih =>
    rw [List.flatMap_cons]
    cases i with
    | zero =>
      rw [Nat.zero_mul, List.drop_zero]
      exact List.take_left' (hf a)
    | succ i =>
      rw [Nat.succ_mul, Nat.add_comm, ← List.drop_drop, List.drop_left' (hf a)]
      exact ih i _

theorem flatten_chunks {w : Nat} (n : Nat) (bytes : List UInt8) (h : bytes.length = n * w)
    : (List.ofFn fun i : Fin n => (bytes.drop (i * w)).take w).flatten = bytes := by
  induction n generalizing bytes with
  | zero =>
    rw [Nat.zero_mul] at h
    rw [List.ofFn_zero, List.eq_nil_of_length_eq_zero h]
    rfl
  | succ n ih =>
    rw [Nat.succ_mul] at h
    have hrest := ih (bytes.drop w) (by rw [List.length_drop]; omega)
    rw [List.ofFn_succ, List.flatten_cons]
    simp only [Fin.val_succ, Nat.succ_mul]
    simp only [List.drop_drop, Nat.add_comm w] at hrest
    rw [hrest]
    simp

theorem length_chunk {w : Nat} (n : Nat) (bytes : List UInt8) (h : bytes.length = n * w) (i : Fin n)
    : ((bytes.drop (i * w)).take w).length = w := by
  have hi : (i + 1) * w ≤ n * w := Nat.mul_le_mul_right w i.isLt
  rw [Nat.succ_mul] at hi
  rw [List.length_take, List.length_drop]
  omega

end Splice

variable {α : Type u} {β : Type v} (L : ByteLayout α) (M : ByteLayout β)

def torn (old new : α) (k : Nat) : α :=
  L.decode (splice k (L.encode new) (L.encode old))

theorem length_encode_eq (new old : α) : (L.encode new).length = (L.encode old).length := by
  rw [L.length_encode, L.length_encode]

theorem length_torn (old new : α) (k : Nat)
    : (splice k (L.encode new) (L.encode old)).length = L.width := by
  rw [length_splice (L.length_encode_eq new old)]
  apply L.length_encode

theorem fits_torn (old new : α) (k : Nat) : L.fits (L.torn old new k) := by
  apply L.fits_decode
  apply length_torn

theorem torn_zero {old : α} (h : L.fits old) (new : α) : L.torn old new 0 = old := by
  unfold torn splice
  rw [List.take_zero, List.drop_zero, List.nil_append]
  exact L.decode_encode old h

theorem torn_of_le {new : α} (h : L.fits new) (old : α) {k : Nat} (hk : L.width ≤ k)
    : L.torn old new k = new := by
  unfold torn splice
  rw [List.take_of_length_le (by rw [L.length_encode]; exact hk)]
  rw [List.drop_eq_nil_of_le (by rw [L.length_encode]; exact hk)]
  rw [List.append_nil]
  exact L.decode_encode new h

theorem torn_self {a : α} (h : L.fits a) (k : Nat) : L.torn a a k = a := by
  unfold torn splice
  rw [List.take_append_drop]
  exact L.decode_encode a h

def uint8 : ByteLayout UInt8 where
  width := 1
  fits _ := true
  encode b := [b]
  decode bytes := bytes.headD 0
  length_encode _ := rfl
  decode_encode _ _ := rfl
  fits_decode _ _ := rfl
  encode_decode bytes h := by
    obtain ⟨b, rfl⟩ := List.length_eq_one_iff.mp h
    rfl

theorem toNat_ofNat_byte (b : UInt8) : (Char.ofNat b.toNat).toNat = b.toNat := by
  have hb := b.toNat_lt
  have hvalid : b.toNat.isValidChar := .inl (by omega)
  unfold Char.ofNat
  rw [dif_pos hvalid]
  rfl

def char : ByteLayout Char where
  width := 1
  fits c := c.toNat < 256
  encode c := [.ofNat c.toNat]
  decode bytes := .ofNat (bytes.headD 0).toNat
  length_encode _ := rfl
  decode_encode c h := by
    have : c.toNat < 256 := by simpa using h
    simp [Nat.mod_eq_of_lt this]
  fits_decode bytes _ := by
    rw [toNat_ofNat_byte, decide_eq_true_eq]
    exact UInt8.toNat_lt _
  encode_decode bytes h := by
    obtain ⟨b, rfl⟩ := List.length_eq_one_iff.mp h
    rw [List.headD_cons, toNat_ofNat_byte]
    simp

theorem char_torn {c c' : Char} (hc : char.fits c) (hc' : char.fits c') (k : Nat)
    : char.torn c c' k = if k = 0 then c else c' := by
  split
  . next hk =>
    rw [hk]
    exact char.torn_zero hc c'
  . next hk => exact char.torn_of_le hc' c (Nat.pos_of_ne_zero hk)

def low (value : Int) : UInt8 :=
  .ofNat (value % 256).toNat

def high (value : Int) : UInt8 :=
  .ofNat (value / 256 % 256).toNat

def ofBytes (low high : UInt8) : Int :=
  let value : Int := low.toNat + 256 * high.toNat
  if value < 32768 then value else value - 65536

theorem toNat_low (value : Int) : ((low value).toNat : Int) = value % 256 := by
  unfold low
  rw [UInt8.toNat_ofNat']
  omega

theorem toNat_high (value : Int) : ((high value).toNat : Int) = value / 256 % 256 := by
  unfold high
  rw [UInt8.toNat_ofNat']
  omega

theorem ofBytes_low_high {value : Int} (h : -32768 ≤ value ∧ value < 32768)
    : ofBytes (low value) (high value) = value := by
  unfold ofBytes
  rw [toNat_low, toNat_high]
  dsimp only
  split
  . omega
  . omega

theorem ofBytes_bounds (l h : UInt8) : -32768 ≤ ofBytes l h ∧ ofBytes l h < 32768 := by
  have := l.toNat_lt
  have := h.toNat_lt
  unfold ofBytes
  dsimp only
  split
  . omega
  . omega

theorem low_ofBytes (l h : UInt8) : low (ofBytes l h) = l := by
  have := l.toNat_lt
  rw [← UInt8.toNat_inj, ← Int.natCast_inj, toNat_low]
  unfold ofBytes
  dsimp only
  split
  . omega
  . omega

theorem high_ofBytes (l h : UInt8) : high (ofBytes l h) = h := by
  have := l.toNat_lt
  have := h.toNat_lt
  rw [← UInt8.toNat_inj, ← Int.natCast_inj, toNat_high]
  unfold ofBytes
  dsimp only
  split
  . omega
  . omega

def int16 : ByteLayout Int where
  width := 2
  fits value := -32768 ≤ value ∧ value < 32768
  encode value := [low value, high value]
  decode bytes := ofBytes (bytes.headD 0) (bytes.tail.headD 0)
  length_encode _ := rfl
  decode_encode value h := ofBytes_low_high (by simpa using h)
  fits_decode bytes _ := by
    rw [decide_eq_true_eq]
    apply ofBytes_bounds
  encode_decode bytes h := by
    obtain ⟨low, high, rfl⟩ := List.length_eq_two.mp h
    dsimp only [List.headD_cons, List.tail_cons]
    rw [low_ofBytes, high_ofBytes]

-- `value` with its low byte replaced by that of `value'`.
def withLow (value value' : Int) : Int :=
  value / 256 * 256 + value' % 256

theorem int16_torn_one {value : Int} (h : int16.fits value) (value' : Int)
    : int16.torn value value' 1 = withLow value value' := by
  have hbounds : -32768 ≤ value ∧ value < 32768 := by simpa [int16] using h
  have htorn : int16.torn value value' 1 = ofBytes (low value') (high value) := by
    simp [torn, splice, int16]
  rw [htorn]
  unfold ofBytes withLow
  rw [toNat_low, toNat_high]
  dsimp only
  split
  . omega
  . omega

def uint16 : ByteLayout UInt16 where
  width := 2
  fits _ := true
  encode value := [.ofNat value.toNat, .ofNat (value.toNat / 256)]
  decode bytes := .ofNat ((bytes.headD 0).toNat + 256 * (bytes.tail.headD 0).toNat)
  length_encode _ := rfl
  decode_encode value _ := by
    have := value.toNat_lt
    apply UInt16.toNat_inj.mp
    simp only [List.headD_cons, List.tail_cons, UInt8.toNat_ofNat', UInt16.toNat_ofNat']
    omega
  fits_decode _ _ := rfl
  encode_decode bytes h := by
    obtain ⟨low, high, rfl⟩ := List.length_eq_two.mp h
    have := low.toNat_lt
    have := high.toNat_lt
    simp only [List.headD_cons, List.tail_cons, UInt16.toNat_ofNat', List.cons.injEq, and_true,
      ← UInt8.toNat_inj, UInt8.toNat_ofNat']
    omega

def prod : ByteLayout (α × β) where
  width := L.width + M.width
  fits a := L.fits a.1 && M.fits a.2
  encode a := L.encode a.1 ++ M.encode a.2
  decode bytes := (L.decode (bytes.take L.width), M.decode (bytes.drop L.width))
  length_encode a := by
    rw [List.length_append, L.length_encode, M.length_encode]
  decode_encode a h := by
    rw [Bool.and_eq_true] at h
    rw [List.take_left' (L.length_encode a.1), List.drop_left' (L.length_encode a.1)]
    rw [L.decode_encode _ h.1, M.decode_encode _ h.2]
  fits_decode bytes h := by
    rw [Bool.and_eq_true]
    constructor
    . apply L.fits_decode
      rw [List.length_take]
      omega
    . apply M.fits_decode
      rw [List.length_drop]
      omega
  encode_decode bytes h := by
    dsimp only
    rw [L.encode_decode _ (by rw [List.length_take]; omega)]
    rw [M.encode_decode _ (by rw [List.length_drop]; omega)]
    apply List.take_append_drop

theorem prod_fits_iff (a : α × β) : (L.prod M).fits a ↔ L.fits a.1 ∧ M.fits a.2 := by
  exact Bool.and_eq_true_iff

theorem prod_torn (old new : α × β) (k : Nat)
    : (L.prod M).torn old new k = (L.torn old.1 new.1 k, M.torn old.2 new.2 (k - L.width)) := by
  have hlen := (L.prod M).length_encode_eq new old
  have htake := take_splice hlen k L.width
  have hdrop := drop_splice hlen k L.width
  dsimp only [prod] at htake hdrop
  rw [List.take_left' (L.length_encode _), List.take_left' (L.length_encode _)] at htake
  rw [List.drop_left' (L.length_encode _), List.drop_left' (L.length_encode _)] at hdrop
  unfold torn
  dsimp only [prod]
  rw [htake, hdrop]

def vector (n : Nat) : ByteLayout (Vector α n) where
  width := n * L.width
  fits v := v.toList.all L.fits
  encode v := v.toList.flatMap L.encode
  decode bytes := .ofFn fun i => L.decode ((bytes.drop (i * L.width)).take L.width)
  length_encode v := by
    rw [List.length_flatMap]
    simp [L.length_encode, List.map_const']
  decode_encode v h := by
    rw [List.all_eq_true] at h
    apply Vector.ext
    intro i hi
    rw [Vector.getElem_ofFn]
    rw [drop_take_flatMap L.length_encode v.toList i (by simpa using hi)]
    apply L.decode_encode
    apply h
    apply List.getElem_mem
  fits_decode bytes h := by
    rw [List.all_eq_true]
    intro a ha
    rw [Vector.mem_toList_iff, Vector.mem_ofFn] at ha
    obtain ⟨i, rfl⟩ := ha
    apply L.fits_decode
    apply length_chunk n bytes h
  encode_decode bytes h := by
    rw [Vector.toList_ofFn, List.flatMap_def, List.map_ofFn]
    refine Eq.trans ?_ (flatten_chunks n bytes h)
    congr 2
    funext i
    apply L.encode_decode
    apply length_chunk n bytes h

theorem get_ofFn {n : Nat} (f : Fin n → α) (i : Fin n) : (Vector.ofFn f).get i = f i := by
  simp only [Vector.get, Vector.toArray_ofFn, Array.getElem_ofFn]
  rfl

theorem vector_fits_iff (n : Nat) (v : Vector α n)
    : (L.vector n).fits v ↔ ∀ i : Fin n, L.fits (v.get i) := by
  unfold vector
  simp only [List.all_eq_true, Vector.mem_toList_iff, Vector.mem_iff_getElem, forall_exists_index]
  constructor
  . intro h i
    exact h _ i i.isLt rfl
  . rintro h _ i hi rfl
    exact h ⟨i, hi⟩

theorem vector_torn (n : Nat) (old new : Vector α n) (k : Nat) (i : Fin n)
    : ((L.vector n).torn old new k).get i = L.torn (old.get i) (new.get i) (k - i * L.width) := by
  have hi := i.isLt
  have hlen := (L.vector n).length_encode_eq new old
  have hdrop := drop_splice hlen k (i * L.width)
  have hdroplen : (((L.vector n).encode new).drop (i * L.width)).length
      = (((L.vector n).encode old).drop (i * L.width)).length := by
    rw [List.length_drop, List.length_drop, hlen]
  have htake := take_splice hdroplen (k - i * L.width) L.width
  rw [← hdrop] at htake
  dsimp only [vector] at htake
  rw [drop_take_flatMap L.length_encode _ i (by simp)] at htake
  rw [drop_take_flatMap L.length_encode _ i (by simp)] at htake
  unfold torn
  dsimp only [vector]
  rw [get_ofFn, htake]
  rfl

def ofEquiv (e : β ≃ α) : ByteLayout β where
  width := L.width
  fits b := L.fits (e b)
  encode b := L.encode (e b)
  decode bytes := e.symm (L.decode bytes)
  length_encode b := L.length_encode (e b)
  decode_encode b h := by
    rw [L.decode_encode _ h]
    apply e.symm_apply_apply
  fits_decode bytes h := by
    rw [e.apply_symm_apply]
    exact L.fits_decode bytes h
  encode_decode bytes h := by
    rw [e.apply_symm_apply]
    exact L.encode_decode bytes h

theorem ofEquiv_torn (e : β ≃ α) (old new : β) (k : Nat)
    : (L.ofEquiv e).torn old new k = e.symm (L.torn (e old) (e new) k) := by
  rfl

end ByteLayout

abbrev ByteMemory := Nat → UInt8

namespace ByteMemory

variable (m : ByteMemory)

def read (base count : Nat) : List UInt8 :=
  (List.range count).map fun i => m (base + i)

def get {α : Type u} (L : ByteLayout α) (base : Nat) : α :=
  L.decode (m.read base L.width)

-- The bytes that are written, in this order, when `bytes` are put at `base`.
def writes (base : Nat) (bytes : List UInt8) : List (Nat × UInt8) :=
  match bytes with
  | [] => []
  | b :: bytes => (base, b) :: writes (base + 1) bytes

def put {α : Type u} (L : ByteLayout α) (base : Nat) (a : α) : List (Nat × UInt8) :=
  writes base (L.encode a)

def commit (writes : List (Nat × UInt8)) : ByteMemory :=
  writes.foldl (fun m w => Function.update m w.1 w.2) m

@[simp]
theorem length_read (base count : Nat) : (m.read base count).length = count := by
  simp [read]

theorem getElem_read {base count i : Nat} (h : i < (m.read base count).length)
    : (m.read base count)[i] = m (base + i) := by
  simp [read]

theorem writes_append (base : Nat) (bytes more : List UInt8)
    : writes base (bytes ++ more) = writes base bytes ++ writes (base + bytes.length) more := by
  induction bytes generalizing base with
  | nil => rfl
  | cons b bytes ih =>
    rw [List.cons_append, List.length_cons]
    simp only [writes, List.cons_append]
    rw [ih, Nat.add_assoc, Nat.add_comm 1]

@[simp]
theorem length_writes (base : Nat) (bytes : List UInt8) : (writes base bytes).length = bytes.length := by
  induction bytes generalizing base with
  | nil => rfl
  | cons b bytes ih => simp [writes, ih]

theorem take_writes (base k : Nat) (bytes : List UInt8)
    : (writes base bytes).take k = writes base (bytes.take k) := by
  induction bytes generalizing base k with
  | nil => simp [writes]
  | cons b bytes ih =>
    cases k with
    | zero => rfl
    | succ k =>
      simp only [writes, List.take_succ_cons]
      rw [ih]

theorem commit_writes (base : Nat) (bytes : List UInt8) (address : Nat)
    : m.commit (writes base bytes) address
        =
      if address < base then m address else bytes[address - base]?.getD (m address) := by
  induction bytes generalizing m base with
  | nil => simp [writes, commit]
  | cons b bytes ih =>
    have hnext := ih (Function.update m base b) (base + 1)
    simp only [commit, writes, List.foldl_cons] at hnext ⊢
    rw [hnext]
    rcases Nat.lt_trichotomy address base with hlt | heq | hgt
    . rw [if_pos (by omega), if_pos hlt]
      exact Function.update_of_ne (by omega) _ _
    . rw [if_pos (by omega), if_neg (by omega), heq, Nat.sub_self]
      exact Function.update_self _ _ _
    . have hsub : address - base = address - (base + 1) + 1 := by omega
      rw [if_neg (by omega), if_neg (by omega), hsub, List.getElem?_cons_succ]
      rw [Function.update_of_ne (by omega)]

theorem read_commit_writes (base : Nat) (bytes : List UInt8) (k : Nat) {count : Nat}
    (h : bytes.length = count)
    : (m.commit ((writes base bytes).take k)).read base count
        =
      ByteLayout.splice k bytes (m.read base count) := by
  rw [take_writes]
  apply List.ext_getElem
  . rw [ByteLayout.length_splice (by rw [h, length_read]), length_read, length_read]
  . intro i hi _
    rw [length_read] at hi
    have hnot : ¬base + i < base := by omega
    rw [getElem_read, commit_writes, if_neg hnot, Nat.add_sub_cancel_left]
    simp only [ByteLayout.splice]
    rw [List.getElem_append]
    split
    . next hlt =>
      rw [List.getElem?_eq_getElem hlt]
      rfl
    . next hge =>
      rw [List.getElem?_eq_none (by omega)]
      rw [List.length_take] at hge
      rw [List.getElem_drop, getElem_read, Option.getD_none]
      congr 2
      rw [List.length_take]
      omega

@[simp]
theorem length_put {α : Type u} (L : ByteLayout α) (base : Nat) (a : α)
    : (put L base a).length = L.width := by
  unfold put
  rw [length_writes, L.length_encode]

theorem get_commit_put {α : Type u} (L : ByteLayout α) (base : Nat) (a : α) (k : Nat)
    : (m.commit ((put L base a).take k)).get L base = L.torn (m.get L base) a k := by
  unfold get put ByteLayout.torn
  rw [read_commit_writes m base (L.encode a) k (L.length_encode a)]
  rw [L.encode_decode _ (m.length_read base L.width)]

theorem put_prod {α : Type u} {β : Type v} (L : ByteLayout α) (M : ByteLayout β) (base : Nat) (a : α)
    (b : β)
    : put (L.prod M) base (a, b) = put L base a ++ put M (base + L.width) b := by
  unfold put
  rw [← L.length_encode a, ← writes_append]
  rfl

theorem get_prod {α : Type u} {β : Type v} (L : ByteLayout α) (M : ByteLayout β) (base : Nat)
    : m.get (L.prod M) base = (m.get L base, m.get M (base + L.width)) := by
  have hread : m.read base (L.width + M.width)
      = m.read base L.width ++ m.read (base + L.width) M.width := by
    unfold read
    rw [List.range_add, List.map_append, List.map_map]
    simp only [Function.comp_def, Nat.add_assoc]
  unfold get
  dsimp only [ByteLayout.prod]
  rw [hread]
  rw [List.take_left' (m.length_read base L.width), List.drop_left' (m.length_read base L.width)]

end ByteMemory
