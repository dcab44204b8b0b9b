import MaltbeeController.Lib.StepRun
import MaltbeeController.Lib.WrapClock
import MaltbeeController.McsEsp32.Impl.Mqtt

/-!
This module contains when a node announces itself, over runs of any length in which the link may go down
and come back at any time and the clock may wrap any number of times.
-/

open StepRun WrapClock

namespace Maltbee

namespace MqttPresenceAnnouncer

def call (a : MqttPresenceAnnouncer) (currentlyConnected : Bool) (now : Millis)
    : MqttPresenceAnnouncer × List (List Publication) :=
  let res := a.update currentlyConnected now now
  (res.1, [res.2])

def after (nodeId : Int) (ownMac : Str) (start : Millis) (calls : List (Nat × Bool))
    : MqttPresenceAnnouncer × List (Nat × List Publication) :=
  run (timed (reading start) call) { nodeId := nodeId, ownMac := ownMac } calls

def published (nodeId : Int) (ownMac : Str) (start : Millis) (pre : List (Nat × Bool)) (c : Nat × Bool)
    : List Publication :=
  ((after nodeId ownMac start pre).1.update c.2 (reading start c.1) (reading start c.1)).2

def lastAnnouncement (trace : List (Nat × List Publication)) : Option Nat :=
  (trace.filter (·.2 ≠ [])).getLast?.map (·.1)

def connected (calls : List (Nat × Bool)) : Bool :=
  calls.getLast?.any (·.2)

def announcement (nodeId : Int) (ownMac : Str) : List Publication :=
  [
    {
      topic := PresenceTopics.statusTopic nodeId
      payload := "online".toList
      retained := false
    },
    {
      topic := PresenceTopics.macTopic nodeId
      payload := ownMac
      retained := false
    }
  ]

-- The link was down at the previous call, or the last announcement has become too old.
def Due (nodeId : Int) (ownMac : Str) (start : Millis) (pre : List (Nat × Bool)) (t : Nat) : Prop :=
  connected pre = false
    ∨
  ∃ s ∈ lastAnnouncement (after nodeId ownMac start pre).2, s + 30000 ≤ t

variable {nodeId : Int} {ownMac : Str} {start : Millis}

@[simp]
theorem connected_concat (calls : List (Nat × Bool)) (c : Nat × Bool)
    : connected (calls ++ [c]) = c.2 := by
  simp [connected]

theorem lastAnnouncement_concat (trace : List (Nat × List Publication)) (t : Nat)
    (out : List Publication)
    : lastAnnouncement (trace ++ [(t, out)]) = if out = [] then lastAnnouncement trace else some t := by
  unfold lastAnnouncement
  split
  . next h => simp [h]
  . next h => simp [h]

theorem after_concat (pre : List (Nat × Bool)) (c : Nat × Bool)
    : after nodeId ownMac start (pre ++ [c])
        =
      (
        ((after nodeId ownMac start pre).1.update c.2 (reading start c.1) (reading start c.1)).1,
        (after nodeId ownMac start pre).2 ++ [(c.1, published nodeId ownMac start pre c)]
      ) := by
  unfold after
  rw [run_concat]
  rfl

theorem lastAnnouncement_after_concat (pre : List (Nat × Bool)) (c : Nat × Bool)
    : lastAnnouncement (after nodeId ownMac start (pre ++ [c])).2
        =
      if published nodeId ownMac start pre c = [] then
        lastAnnouncement (after nodeId ownMac start pre).2
      else
        some c.1 := by
  rw [after_concat]
  apply lastAnnouncement_concat

theorem update_disconnected (a : MqttPresenceAnnouncer) (now : Millis)
    : a.update false now now = ({ a with wasConnected := false }, []) := by
  rfl

theorem update_connected (a : MqttPresenceAnnouncer) (now : Millis)
    : a.update true now now
        =
      if a.wasConnected = false ∨ 30000 ≤ now - a.lastAnnouncedAtMs then
        (
          { a with wasConnected := true, lastAnnouncedAtMs := now },
          announcement a.nodeId a.ownMac
        )
      else
        ({ a with wasConnected := true }, []) := by
  have hdue : (!a.wasConnected || decide (now - a.lastAnnouncedAtMs ≥ kHeartbeatIntervalMs)) = true
      ↔
    a.wasConnected = false ∨ 30000 ≤ now - a.lastAnnouncedAtMs := by
    simp [kHeartbeatIntervalMs]
  unfold update
  rw [Bool.not_true, if_neg Bool.false_ne_true]
  simp only [hdue]
  split
  . rfl
  . rfl

-- What the announcer knows of the calls so far. While the link is down the stored time goes stale, and
-- the call that finds the link up again does not depend on it.
structure Tracks (nodeId : Int) (ownMac : Str) (start : Millis) (calls : List (Nat × Bool))
    (a : MqttPresenceAnnouncer) : Prop where
  node : a.nodeId = nodeId
  mac : a.ownMac = ownMac
  wasConnected : a.wasConnected = connected calls
  recent : connected calls = true → ∃ s, lastAnnouncement (after nodeId ownMac start calls).2 = some s ∧
    a.lastAnnouncedAtMs = reading start s ∧ ∀ c ∈ calls.getLast?, s ≤ c.1 ∧ c.1 < s + 30000

variable {calls : List (Nat × Bool)} {c : Nat × Bool}

theorem Tracks.elapsed_iff {a : MqttPresenceAnnouncer} (h : Tracks nodeId ownMac start calls a)
    (hspaced : Spaced (2 ^ 31) (calls ++ [c])) {s : Nat} (hconnected : connected calls = true)
    (hs : lastAnnouncement (after nodeId ownMac start calls).2 = some s)
    : s ≤ c.1 ∧ (30000 ≤ reading start c.1 - a.lastAnnouncedAtMs ↔ s + 30000 ≤ c.1) := by
  rcases h.recent hconnected with ⟨s', hs', htime, hrecent⟩
  rw [hs, Option.some.injEq] at hs'
  subst hs'
  have hturn : s ≤ c.1 ∧ c.1 < s + 30000 + 2 ^ 31 := by
    cases hlast : calls.getLast? with
    | none =>
      unfold connected at hconnected
      rw [hlast] at hconnected
      contradiction
    | some last =>
      have hbefore := hrecent last hlast
      have hstep := hspaced.step hlast
      omega
  refine ⟨hturn.1, ?_⟩
  rw [htime, ← BitVec.not_lt]
  have hlt : reading start c.1 - reading start s < 30000 ↔ c.1 < s + 30000 :=
    reading_sub_lt_ofNat_iff start hturn.1 (by omega) (by decide)
  rw [hlt, Nat.not_lt]

theorem Tracks.due_iff {a : MqttPresenceAnnouncer} (h : Tracks nodeId ownMac start calls a)
    (hspaced : Spaced (2 ^ 31) (calls ++ [c]))
    : (a.wasConnected = false ∨ 30000 ≤ reading start c.1 - a.lastAnnouncedAtMs)
        ↔
      Due nodeId ownMac start calls c.1 := by
  unfold Due
  rw [h.wasConnected]
  cases hconnected : connected calls with
  | false => simp
  | true =>
    rcases h.recent hconnected with ⟨s, hs, _⟩
    rw [(h.elapsed_iff hspaced hconnected hs).2, hs]
    simp

structure Announced (nodeId : Int) (ownMac : Str) (start : Millis) (pre : List (Nat × Bool))
    (c : Nat × Bool) : Prop where
  due : c.2 = true → Due nodeId ownMac start pre c.1 →
    published nodeId ownMac start pre c = announcement nodeId ownMac
  silent : ¬(c.2 = true ∧ Due nodeId ownMac start pre c.1) → published nodeId ownMac start pre c = []

theorem Tracks.announced (h : Tracks nodeId ownMac start calls (after nodeId ownMac start calls).1)
    (hspaced : Spaced (2 ^ 31) (calls ++ [c]))
    : Announced nodeId ownMac start calls c := by
  have hdue := h.due_iff hspaced
  rcases c with ⟨t, up⟩
  cases up with
  | false =>
    constructor
    . simp
    . intro _
      unfold published
      rw [update_disconnected]
  | true =>
    dsimp only at hdue
    constructor
    . intro _ hannounce
      unfold published
      rw [update_connected, if_pos (hdue.mpr hannounce), h.node, h.mac]
    . intro hquiet
      have hyoung : ¬Due nodeId ownMac start calls t := by
        simpa using hquiet
      unfold published
      rw [update_connected, if_neg (mt hdue.mp hyoung)]

theorem Tracks.update (h : Tracks nodeId ownMac start calls (after nodeId ownMac start calls).1)
    (hspaced : Spaced (2 ^ 31) (calls ++ [c]))
    : Tracks nodeId ownMac start (calls ++ [c]) (after nodeId ownMac start (calls ++ [c])).1 := by
  have hdue := h.due_iff hspaced
  have hannounced := h.announced hspaced
  rcases c with ⟨t, up⟩
  rw [after_concat]
  cases up with
  | false =>
    constructor
    . exact h.node
    . exact h.mac
    . simp [update_disconnected]
    . simp
  | true =>
    dsimp only at hdue ⊢
    rw [update_connected]
    by_cases hannounce : Due nodeId ownMac start calls t
    . rw [if_pos (hdue.mpr hannounce)]
      constructor
      . exact h.node
      . exact h.mac
      . simp
      . intro _
        refine ⟨t, ?_, rfl, ?_⟩
        . rw [lastAnnouncement_after_concat, hannounced.due rfl hannounce]
          simp [announcement]
        . simp
    . rw [if_neg (mt hdue.mp hannounce)]
      constructor
      . exact h.node
      . exact h.mac
      . simp
      . intro _
        unfold Due at hannounce
        rw [not_or] at hannounce
        have hconnected := Bool.of_not_eq_false hannounce.1
        rcases h.recent hconnected with ⟨s, hs, htime, _⟩
        refine ⟨s, ?_, htime, ?_⟩
        . rw [lastAnnouncement_after_concat, hannounced.silent]
          . simpa using hs
          . simpa [Due, hannounce.1] using hannounce.2
        . have hbefore := (h.elapsed_iff hspaced hconnected hs).1
          have hyoung := hannounce.2
          simp only [hs, Option.mem_some_iff, exists_eq_left'] at hyoung
          simp only [List.getLast?_concat, Option.mem_some_iff, forall_eq']
          omega

theorem after_tracks (hspaced : Spaced (2 ^ 31) calls)
    : Tracks nodeId ownMac start calls (after nodeId ownMac start calls).1 := by
  induction calls using List.reverseRecOn with
  | nil =>
    constructor
    . rfl
    . rfl
    . rfl
    . simp [connected]
  | append_singleton calls c ih => exact (ih hspaced.left_of_append).update hspaced

theorem le_lastAnnouncement {pre mid : List (Nat × Bool)} {a : Nat × Bool}
    (ha : published nodeId ownMac start pre a ≠ []) (hspaced : Spaced (2 ^ 31) (pre ++ [a] ++ mid))
    : ∃ s, lastAnnouncement (after nodeId ownMac start (pre ++ [a] ++ mid)).2 = some s ∧ a.1 ≤ s := by
  induction mid using List.reverseRecOn with
  | nil =>
    rw [List.append_nil, lastAnnouncement_after_concat, if_neg ha]
    exact ⟨a.1, rfl, Nat.le_refl _⟩
  | append_singleton mid b ih =>
    rw [← List.append_assoc] at *
    rw [lastAnnouncement_after_concat]
    split
    . exact ih hspaced.left_of_append
    . refine ⟨b.1, rfl, ?_⟩
      apply hspaced.le_of_mem
      simp

/-
How a node announces itself over a run of calls: `spaced` is about two announcements in one stretch of
calls that all find the link up.
-/
structure Announces (nodeId : Int) (ownMac : Str) (start : Millis) (calls : List (Nat × Bool))
    : Prop where
  announced : ∀ pre c post, calls = pre ++ [c] ++ post → Announced nodeId ownMac start pre c
  spaced : ∀ pre a mid b post, calls = pre ++ [a] ++ mid ++ [b] ++ post →
    (∀ c ∈ [a] ++ mid ++ [b], c.2 = true) → published nodeId ownMac start pre a ≠ [] →
      published nodeId ownMac start (pre ++ [a] ++ mid) b ≠ [] → a.1 + 30000 ≤ b.1
  fresh : ∀ pre c post, calls = pre ++ [c] ++ post → c.2 = true →
    ∃ s, lastAnnouncement (after nodeId ownMac start (pre ++ [c])).2 = some s ∧
      s ≤ c.1 ∧ c.1 < s + 30000

/--
A node announces itself when the link comes up and every thirty seconds while it stays up, however long
the link was down before and wherever the clock wraps.
-/
theorem announces (nodeId : Int) (ownMac : Str) (start : Millis) (calls : List (Nat × Bool))
    (hspaced : Spaced (2 ^ 31) calls)
    : Announces nodeId ownMac start calls := by
  have hannounced : ∀ pre c post, calls = pre ++ [c] ++ post →
      Announced nodeId ownMac start pre c := by
    intro pre c post hcalls
    rw [hcalls] at hspaced
    have hbefore := hspaced.left_of_append
    exact (after_tracks hbefore.left_of_append).announced hbefore
  constructor
  . exact hannounced
  . intro pre a mid b post hcalls hup ha hb
    have hdue : Due nodeId ownMac start (pre ++ [a] ++ mid) b.1 := by
      by_contra hnot
      apply hb
      apply (hannounced _ _ _ hcalls).silent
      exact fun h => hnot h.2
    have hconnected : connected (pre ++ [a] ++ mid) = true := by
      unfold connected
      rw [List.append_assoc, List.getLast?_append_of_ne_nil _ (by simp)]
      rw [List.getLast?_eq_some_getLast (by simp), Option.any_some]
      apply hup
      apply List.mem_append_left
      apply List.getLast_mem
    rw [hcalls] at hspaced
    rcases le_lastAnnouncement ha hspaced.left_of_append.left_of_append with ⟨s, hs, hle⟩
    cases hdue with
    | inl hdown =>
      rw [hconnected] at hdown
      contradiction
    | inr hold =>
      simp only [hs, Option.mem_some_iff, exists_eq_left'] at hold
      omega
  . intro pre c post hcalls hup
    rw [hcalls] at hspaced
    rcases (after_tracks hspaced.left_of_append).recent (by simpa using hup) with ⟨s, hs, _, hrecent⟩
    exact ⟨s, hs, hrecent c (by simp)⟩

def flapping : List (Nat × Bool) :=
  [(0, true), (20000, true), (30000, true), (31000, false), (2000000000, true), (2000029999, true)]

theorem announces_flapping : Announces 7 "1A2B".toList 4294947296 flapping := by
  apply announces 7 "1A2B".toList 4294947296 flapping
  decide

example
    : ((after 7 "1A2B".toList 4294947296 flapping).2.filter (·.2 ≠ [])).map (·.1)
        =
      [0, 30000, 2000000000] := by
  decide +kernel

end MqttPresenceAnnouncer

end Maltbee
