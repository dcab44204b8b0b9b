import MaltbeeController.Lib.KeyedArray
import MaltbeeController.Lib.StepRun
import MaltbeeController.McsCore.Impl.TurnoutCollection
import MaltbeeController.McsCore.Lemmas.Turnout

/-!
This module contains the proof that the collection of turnouts, whatever is added to it and moved in it,
is a map from addresses to turnouts that holds at most as many addresses as it has room for.
-/

namespace Maltbee

open StepRun (run run_refines run_concat)

namespace TurnoutCollection

variable {c : TurnoutCollection}

def Distinct (c : TurnoutCollection) : Prop :=
  c.turnouts.Distinct Turnout.address

theorem getByAddress_eq_find? (c : TurnoutCollection) (address : Int)
    : c.getByAddress address = c.turnouts.find? Turnout.address address := by
  rfl

theorem getByAddress_eq_map_deref (c : TurnoutCollection) (address : Int)
    : c.getByAddress address = (c.getByAddressMut address).map c.deref := by
  apply BoundedArray.find?_toList

theorem of_getByAddressMut_eq_some {address : Int} {i : Fin 64}
    (h : c.getByAddressMut address = some i)
    : i.val < c.count ∧ (c.deref i).address = address := by
  have := BoundedArray.of_indexOf?_eq_some h
  exact ⟨this.1, of_decide_eq_true this.2⟩

theorem getByAddressMut_eq_none_iff (address : Int)
    : c.getByAddressMut address = none ↔ c.getByAddress address = none := by
  rw [getByAddress_eq_map_deref]
  simp

theorem exists_pointer {address : Int} {t : Turnout} (h : c.getByAddress address = some t)
    : ∃ i, c.getByAddressMut address = some i ∧ c.deref i = t := by
  rw [getByAddress_eq_map_deref] at h
  simpa using h

end TurnoutCollection

namespace TurnoutService

open TurnoutCollection

variable {c : TurnoutCollection} {move : Turnout → Turnout} {address : Int}

theorem validateTurnout_of_locked {t : Turnout} (h : t.isLocked)
    : validateTurnout (some t) = .Locked := by
  simp [validateTurnout, h]

theorem validateTurnout_of_disabled {t : Turnout} (hlocked : t.isLocked = false) (h : t.isDisabled)
    : validateTurnout (some t) = .Disabled := by
  simp [validateTurnout, hlocked, h]

theorem validateTurnout_of_canThrow {t : Turnout} (h : t.canThrow)
    : validateTurnout (some t) = .Success := by
  rw [Turnout.canThrow_iff] at h
  simp [validateTurnout, h]

theorem validateTurnout_ne_success {t : Turnout} (h : ¬t.canThrow)
    : validateTurnout (some t) ≠ .Success := by
  cases hlocked : t.isLocked with
  | true => simp [validateTurnout_of_locked hlocked]
  | false =>
    cases hdisabled : t.isDisabled with
    | true => simp [validateTurnout_of_disabled hlocked hdisabled]
    | false => simp [Turnout.canThrow_iff, hlocked, hdisabled] at h

theorem operate_of_none (h : c.getByAddress address = none)
    : operate move c address = (.NotFound, c) := by
  rw [← getByAddressMut_eq_none_iff] at h
  unfold operate
  rw [h]
  rfl

theorem operate_of_blocked {t : Turnout} (h : c.getByAddress address = some t)
    (hblocked : ¬t.canThrow)
    : operate move c address = (validateTurnout (some t), c) := by
  rcases exists_pointer h with ⟨i, hpointer, hderef⟩
  unfold operate
  rw [hpointer]
  simp only [Option.map_some, hderef]
  rw [if_pos (validateTurnout_ne_success hblocked)]

theorem operate_of_canThrow {t : Turnout} (h : c.getByAddress address = some t) (hthrow : t.canThrow)
    : ∃ i, c.getByAddressMut address = some i ∧ c.deref i = t ∧
        operate move c address = (.Success, c.write i (move t)) := by
  rcases exists_pointer h with ⟨i, hpointer, hderef⟩
  refine ⟨i, hpointer, hderef, ?_⟩
  unfold operate
  rw [hpointer]
  simp only [Option.map_some, hderef, validateTurnout_of_canThrow hthrow, ne_eq, not_true_eq_false,
    ↓reduceIte]

theorem operate_cases (move : Turnout → Turnout) (c : TurnoutCollection) (address : Int)
    : (∃ t, c.getByAddress address = some t ∧ t.canThrow) ∨
        ((operate move c address).1 ≠ .Success ∧ (operate move c address).2 = c) := by
  cases hfind : c.getByAddress address with
  | none =>
    right
    rw [operate_of_none hfind]
    simp
  | some t =>
    by_cases hthrow : t.canThrow
    . left
      exact ⟨t, rfl, hthrow⟩
    . right
      rw [operate_of_blocked hfind hthrow]
      exact ⟨validateTurnout_ne_success hthrow, rfl⟩

end TurnoutService

namespace TurnoutCollection

inductive Operation where
  | throwStraight
  | throwDiverging
  | toggle
  deriving DecidableEq, Repr

namespace Operation

def perform (op : Operation) (c : TurnoutCollection) (address : Int)
    : TurnoutServiceResult × TurnoutCollection :=
  match op with
  | .throwStraight => TurnoutService.throwStraight c address
  | .throwDiverging => TurnoutService.throwDiverging c address
  | .toggle => TurnoutService.toggle c address

def move (op : Operation) (t : Turnout) : Turnout :=
  match op with
  | .throwStraight => t.throwStraight
  | .throwDiverging => t.throwDiverging
  | .toggle => t.toggle

theorem perform_eq_operate (op : Operation) (c : TurnoutCollection) (address : Int)
    : op.perform c address = TurnoutService.operate op.move c address := by
  cases op with
  | throwStraight => rfl
  | throwDiverging => rfl
  | toggle => rfl

@[simp]
theorem address_move (op : Operation) (t : Turnout) : (op.move t).address = t.address := by
  cases op with
  | throwStraight => apply Turnout.address_throwStraight
  | throwDiverging => apply Turnout.address_throwDiverging
  | toggle => apply Turnout.address_toggle

end Operation

inductive Call where
  | add (turnout : Turnout)
  | operate (op : Operation) (address : Int)
  deriving DecidableEq, Repr

def call (c : TurnoutCollection) (e : Call) : TurnoutCollection × List TurnoutServiceResult :=
  match e with
  | .add turnout => (TurnoutService.addTurnout c turnout, [])
  | .operate op address =>
    let res := op.perform c address
    (res.2, [res.1])

-- The purpose of the collection: the same calls on a map from addresses to turnouts.
def mapCall (m : BoundedMap Int Turnout 64) (e : Call)
    : BoundedMap Int Turnout 64 × List TurnoutServiceResult :=
  match e with
  | .add turnout => (m.put turnout.address turnout, [])
  | .operate op address =>
    match m.lookup address with
    | none => (m, [.NotFound])
    | some turnout =>
      if turnout.isLocked then
        (m, [.Locked])
      else if turnout.isDisabled then
        (m, [.Disabled])
      else
        (m.put address (op.move turnout), [.Success])

def Represents (c : TurnoutCollection) (m : BoundedMap Int Turnout 64) : Prop :=
  c.turnouts.Represents Turnout.address m

variable {c : TurnoutCollection} {m : BoundedMap Int Turnout 64}

theorem add_of_known {turnout : Turnout} {i : Fin 64}
    (h : c.getByAddressMut turnout.address = some i)
    : c.add turnout = c.write i turnout := by
  unfold getByAddressMut at h
  unfold add
  rw [h]
  rfl

theorem add_of_unknown {turnout : Turnout} (h : c.getByAddress turnout.address = none)
    : c.add turnout
        =
      if c.count ≥ MAX_TURNOUTS then c else { turnouts := c.turnouts.push turnout } := by
  rw [← getByAddressMut_eq_none_iff] at h
  unfold getByAddressMut at h
  unfold add
  rw [h]
  rfl

theorem add_of_new {turnout : Turnout} (hnew : c.getByAddress turnout.address = none)
    (hroom : c.count < 64)
    : c.add turnout = { turnouts := c.turnouts.push turnout } := by
  rw [add_of_unknown hnew]
  apply if_neg
  unfold MAX_TURNOUTS
  omega

theorem add_of_full {turnout : Turnout} (hnew : c.getByAddress turnout.address = none)
    (hfull : ¬c.count < 64)
    : c.add turnout = c := by
  rw [add_of_unknown hnew]
  apply if_pos
  unfold MAX_TURNOUTS
  omega

theorem Represents.write (h : c.Represents m) {turnout : Turnout} {i : Fin 64}
    (hpointer : c.getByAddressMut turnout.address = some i)
    : (c.write i turnout).Represents (m.put turnout.address turnout) := by
  have ⟨hin, haddress⟩ := of_getByAddressMut_eq_some hpointer
  apply BoundedArray.Represents.set h hin haddress.symm

theorem Represents.add (h : c.Represents m) (turnout : Turnout)
    : (c.add turnout).Represents (m.put turnout.address turnout) := by
  cases hpointer : c.getByAddressMut turnout.address with
  | some i =>
    rw [add_of_known hpointer]
    apply h.write hpointer
  | none =>
    rw [getByAddressMut_eq_none_iff] at hpointer
    by_cases hroom : c.count < 64
    . rw [add_of_new hpointer hroom]
      apply BoundedArray.Represents.push h hpointer hroom
    . rw [add_of_full hpointer hroom]
      apply BoundedArray.Represents.full h hpointer hroom

theorem Represents.operate (h : c.Represents m) (op : Operation) {address : Int} {turnout : Turnout}
    (hfind : c.getByAddress address = some turnout) (hthrow : turnout.canThrow)
    : (op.perform c address).1 = .Success ∧
        (op.perform c address).2.Represents (m.put address (op.move turnout)) := by
  rcases TurnoutService.operate_of_canThrow hfind hthrow with ⟨i, hpointer, hderef, hoperate⟩
  have haddress : (op.move turnout).address = address := by
    rw [Operation.address_move]
    exact BoundedArray.key_of_find? hfind
  rw [Operation.perform_eq_operate]
  rw [hoperate]
  refine ⟨rfl, ?_⟩
  have := @Represents.write _ _ h (op.move turnout) i (by rw [haddress, hpointer])
  rw [haddress] at this
  exact this

theorem mapCall_of_none {op : Operation} {address : Int} (h : m.lookup address = none)
    : mapCall m (.operate op address) = (m, [.NotFound]) := by
  simp only [mapCall, h]

theorem mapCall_of_blocked {op : Operation} {address : Int} {turnout : Turnout}
    (h : m.lookup address = some turnout) (hblocked : ¬turnout.canThrow)
    : mapCall m (.operate op address) = (m, [TurnoutService.validateTurnout (some turnout)]) := by
  simp only [mapCall, h]
  split
  . next hlocked => rw [TurnoutService.validateTurnout_of_locked hlocked]
  . next hlocked =>
    rw [Bool.not_eq_true] at hlocked
    have hdisabled : turnout.isDisabled := by
      simpa [Turnout.canThrow_iff, hlocked] using hblocked
    rw [if_pos hdisabled]
    rw [TurnoutService.validateTurnout_of_disabled hlocked hdisabled]

theorem mapCall_of_canThrow {op : Operation} {address : Int} {turnout : Turnout}
    (h : m.lookup address = some turnout) (hthrow : turnout.canThrow)
    : mapCall m (.operate op address) = (m.put address (op.move turnout), [.Success]) := by
  rw [Turnout.canThrow_iff] at hthrow
  simp [mapCall, h, hthrow]

theorem Represents.call (h : c.Represents m) (e : Call)
    : (c.call e).1.Represents (mapCall m e).1 ∧ (c.call e).2 = (mapCall m e).2 := by
  cases e with
  | add turnout => exact ⟨h.add turnout, rfl⟩
  | operate op address =>
    have hlookup : m.lookup address = c.getByAddress address := h.lookup address
    unfold TurnoutCollection.call
    dsimp only
    cases hfind : c.getByAddress address with
    | none =>
      rw [hfind] at hlookup
      rw [mapCall_of_none hlookup]
      rw [Operation.perform_eq_operate]
      rw [TurnoutService.operate_of_none hfind]
      exact ⟨h, rfl⟩
    | some turnout =>
      rw [hfind] at hlookup
      by_cases hthrow : turnout.canThrow
      . rcases h.operate op hfind hthrow with ⟨hresult, hstate⟩
        rw [mapCall_of_canThrow hlookup hthrow]
        rw [hresult]
        exact ⟨hstate, rfl⟩
      . rw [mapCall_of_blocked hlookup hthrow]
        rw [Operation.perform_eq_operate]
        rw [TurnoutService.operate_of_blocked hfind hthrow]
        exact ⟨h, rfl⟩

-- What holds of every collection that calls lead to.
structure IsMap (c : TurnoutCollection) (m : BoundedMap Int Turnout 64) : Prop where
  getByAddress : ∀ address, c.getByAddress address = m.lookup address
  getByAddressMut : ∀ address, (c.getByAddressMut address).map c.deref = m.lookup address
  address : ∀ address turnout, c.getByAddress address = some turnout → turnout.address = address
  unique : ∀ i j : Fin 64, i.val < c.count → j.val < c.count →
    (c.deref i).address = (c.deref j).address → i = j
  count : c.count = m.card

structure Adds (c : TurnoutCollection) (turnout : Turnout) : Prop where
  known : ∀ i, c.getByAddressMut turnout.address = some i →
    (c.add turnout).turnouts.toList = c.turnouts.toList.set i turnout
  new : c.getByAddress turnout.address = none → c.count < 64 →
    (c.add turnout).turnouts.toList = c.turnouts.toList ++ [turnout]
  full : c.getByAddress turnout.address = none → ¬c.count < 64 → c.add turnout = c

structure Operates (c : TurnoutCollection) (op : Operation) (address : Int) : Prop where
  others : ∀ other, other ≠ address →
    (op.perform c address).2.getByAddress other = c.getByAddress other
  failed : (op.perform c address).1 ≠ .Success → (op.perform c address).2 = c

theorem IsMap.of_represents (h : c.Represents m) : IsMap c m := by
  constructor
  . intro address
    exact (h.lookup address).symm
  . intro address
    rw [← getByAddress_eq_map_deref]
    exact (h.lookup address).symm
  . intro address turnout hfind
    exact BoundedArray.key_of_find? hfind
  . intro i j hi hj haddress
    apply BoundedArray.eq_of_key_eq h.distinct hi hj haddress
  . exact h.card_eq.symm

theorem Adds.intro (c : TurnoutCollection) (turnout : Turnout) : Adds c turnout := by
  constructor
  . intro i hpointer
    rw [add_of_known hpointer]
    apply BoundedArray.toList_set
  . intro hnew hroom
    rw [add_of_new hnew hroom]
    apply BoundedArray.toList_push hroom
  . exact add_of_full

theorem Operates.of_represents (h : c.Represents m) (op : Operation) (address : Int)
    : Operates c op address := by
  rcases TurnoutService.operate_cases op.move c address with ⟨t, hfind, hthrow⟩ | hunchanged
  . have ⟨hsuccess, hstate⟩ := h.operate op hfind hthrow
    constructor
    . intro other hne
      rw [getByAddress_eq_find?, getByAddress_eq_find?, ← hstate.lookup, ← h.lookup]
      rw [BoundedMap.lookup_put]
      simp [hne]
    . intro hfailed
      contradiction
  . rw [← Operation.perform_eq_operate] at hunchanged
    constructor
    . intro other _
      rw [hunchanged.2]
    . intro _
      exact hunchanged.2

theorem represents_run (calls : List Call)
    : (run call {} calls).1.Represents (run mapCall .empty calls).1
        ∧
      (run call {} calls).2 = (run mapCall .empty calls).2 := by
  apply run_refines call (R := Represents)
  . intro c m e h
    exact h.call e
  . apply BoundedArray.Represents.empty

/--
Whatever is added and moved, in whatever order, the collection is a map from addresses to turnouts.
-/
theorem is_map (calls : List Call)
    : let c := (run call {} calls).1
      let m := (run mapCall .empty calls).1
      IsMap c m ∧ (run call {} calls).2 = (run mapCall .empty calls).2 ∧
        (∀ turnout, Adds c turnout) ∧ ∀ op address, Operates c op address := by
  have ⟨hstate, hresults⟩ := represents_run calls
  refine ⟨.of_represents hstate, hresults, ?_, ?_⟩
  . intro turnout
    apply Adds.intro
  . intro op address
    apply Operates.of_represents hstate

end TurnoutCollection

end Maltbee
