import MaltbeeController.Lib.PulseTrace
import MaltbeeController.Lib.WrapClock
import MaltbeeController.McsLoconet.Impl.PulsingLocoNetTransport

/-!
This module contains the correctness of the pulsing transport: the shape of everything it requests
from the switch driver, whatever the clock shows, and the exact condition under which a pulse ends
when it should.
-/

open StepRun WrapClock PulseTrace

namespace Maltbee

namespace SwitchRequest

def on (packet : LocoNetPacket) : SwitchRequest :=
  ⟨packet.address, packet.position, true⟩

def off (r : SwitchRequest) : SwitchRequest :=
  { r with outputOn := false }

@[simp]
theorem outputOn_on (packet : LocoNetPacket) : (on packet).outputOn = true := by
  rfl

@[simp]
theorem outputOn_off (r : SwitchRequest) : r.off.outputOn = false := by
  rfl

end SwitchRequest

namespace PulsingLocoNetTransport

def pendingRequest (t : PulsingLocoNetTransport) : Option SwitchRequest :=
  if t.releasePending then some ⟨t.pendingAddress, t.pendingPosition, true⟩ else none

def Call.packet? (c : Call) : Option LocoNetPacket :=
  match c with
  | .sendPacket packet => some packet
  | .update => none

abbrev WellFormed (requests : List SwitchRequest) (pending : Option SwitchRequest) : Prop :=
  Pulses SwitchRequest.outputOn SwitchRequest.off requests pending

theorem releasePendingSwitch_wellFormed {t : PulsingLocoNetTransport} {requests : List SwitchRequest}
    (hpending : t.releasePending = true) (h : WellFormed requests t.pendingRequest)
    : WellFormed (requests ++ t.releasePendingSwitch.2) t.releasePendingSwitch.1.pendingRequest := by
  simp only [pendingRequest, hpending, ↓reduceIte] at h
  simpa [releasePendingSwitch, pendingRequest, SwitchRequest.off] using Pulses.off h (by simp)

theorem sendPacket_wellFormed {t : PulsingLocoNetTransport} {requests : List SwitchRequest}
    (packet : LocoNetPacket) (now : Millis) (h : WellFormed requests t.pendingRequest)
    : WellFormed (requests ++ (t.sendPacket packet now).2)
        (t.sendPacket packet now).1.pendingRequest := by
  have hon : SwitchRequest.outputOn ⟨packet.address, packet.position, true⟩ := by rfl
  unfold sendPacket
  dsimp
  split
  . next hpending =>
    have := releasePendingSwitch_wellFormed hpending h
    rw [← List.append_assoc]
    apply Pulses.on
    . simpa [releasePendingSwitch, pendingRequest] using this
    . exact hon
  . next hpending =>
    simp only [pendingRequest, hpending] at h
    apply Pulses.on
    . simpa using h
    . exact hon

theorem update_wellFormed {t : PulsingLocoNetTransport} {requests : List SwitchRequest}
    (now : Millis) (h : WellFormed requests t.pendingRequest)
    : WellFormed (requests ++ (t.update now).2) (t.update now).1.pendingRequest := by
  unfold update
  split
  . next hif =>
    simp only [Bool.and_eq_true] at hif
    apply releasePendingSwitch_wellFormed hif.1 h
  . simpa using h

theorem call_wellFormed {t : PulsingLocoNetTransport} {requests : List SwitchRequest}
    (c : Call) (now : Millis) (h : WellFormed requests t.pendingRequest)
    : WellFormed (requests ++ (t.call c now).2) (t.call c now).1.pendingRequest := by
  cases c with
  | sendPacket packet => exact sendPacket_wellFormed packet now h
  | update => exact update_wellFormed now h

theorem call_ons (t : PulsingLocoNetTransport) (c : Call) (now : Millis)
    : (t.call c now).2.filter (·.outputOn) = (c.packet?.map SwitchRequest.on).toList := by
  cases c with
  | sendPacket packet =>
    simp only [call, sendPacket]
    split
    . rfl
    . rfl
  | update =>
    simp only [call, update]
    split
    . rfl
    . rfl

def requests (pulseDurationMs : Millis) (calls : List (Call × Millis))
    : PulsingLocoNetTransport × List SwitchRequest :=
  run (fun t c => t.call c.1 c.2) { pulseDurationMs } calls

theorem requests_concat (pulseDurationMs : Millis) (calls : List (Call × Millis))
    (c : Call × Millis)
    : requests pulseDurationMs (calls ++ [c])
        =
      (
        ((requests pulseDurationMs calls).1.call c.1 c.2).1,
        (requests pulseDurationMs calls).2 ++ ((requests pulseDurationMs calls).1.call c.1 c.2).2
      ) := by
  apply run_concat

theorem requests_wellFormed (pulseDurationMs : Millis) (calls : List (Call × Millis))
    : WellFormed (requests pulseDurationMs calls).2
        (requests pulseDurationMs calls).1.pendingRequest := by
  induction calls using List.reverseRecOn with
  | nil => exact .nil
  | append_singleton calls c ih =>
    rw [requests_concat]
    apply call_wellFormed
    exact ih

theorem requests_ons (pulseDurationMs : Millis) (calls : List (Call × Millis))
    : (requests pulseDurationMs calls).2.filter (·.outputOn)
        =
      (calls.filterMap (·.1.packet?)).map SwitchRequest.on := by
  induction calls using List.reverseRecOn with
  | nil => rfl
  | append_singleton calls c ih =>
    rw [requests_concat]
    rw [List.filter_append]
    rw [ih]
    rw [call_ons]
    cases hc : c.1.packet? <;> simp [hc]

theorem requests_alternate (pulseDurationMs : Millis) (calls : List (Call × Millis))
    : let t := (requests pulseDurationMs calls).1
      let out := (requests pulseDurationMs calls).2
      (∀ (i : Nat) (hi : i < out.length), out[i].outputOn = decide (i % 2 = 0)) ∧
      (∀ (i : Nat) (hi : i + 1 < out.length), i % 2 = 0 →
        out[i + 1] = { out[i] with outputOn := false }) ∧
      out.filter (·.outputOn) = (calls.filterMap (·.1.packet?)).map SwitchRequest.on ∧
      ((∃ r, out.getLast? = some r ∧ r.outputOn) ↔ t.releasePending) ∧
      (∀ n, (out.take n).countP (!·.outputOn) ≤ (out.take n).countP (·.outputOn) ∧
        (out.take n).countP (·.outputOn) ≤ (out.take n).countP (!·.outputOn) + 1) := by
  have h := requests_wellFormed pulseDurationMs calls
  refine ⟨?_, ?_, ?_, ?_, ?_⟩
  . apply Pulses.isOn_getElem h
  . apply Pulses.getElem_succ_eq_off h
  . apply requests_ons pulseDurationMs calls
  . rw [Pulses.getLast?_isOn_iff h]
    unfold pendingRequest
    split <;> simp_all
  . apply Pulses.open_le_one h

/-!
The clock as the hardware has it: `start` is what it shows when the run begins, and each call is made
at a real time, in milliseconds since then. The log stamps each request with the time of its call.
-/

def log (d : Nat) (start : Millis) (calls : List (Nat × Call))
    : PulsingLocoNetTransport × List (Nat × SwitchRequest) :=
  run (timed (reading start) call) { pulseDurationMs := .ofNat 32 d } calls

-- The ON request at the end of a log, that is one whose OFF request has not been sent.
def openSince (out : List (Nat × SwitchRequest)) : Option (Nat × SwitchRequest) :=
  out.getLast?.filter (·.2.outputOn)

theorem log_concat (d : Nat) (start : Millis) (calls : List (Nat × Call)) (c : Nat × Call)
    : log d start (calls ++ [c])
        =
      (
        ((log d start calls).1.call c.2 (reading start c.1)).1,
        (log d start calls).2 ++
          ((log d start calls).1.call c.2 (reading start c.1)).2.map fun r => (c.1, r)
      ) := by
  apply run_concat

theorem call_pulseDurationMs (t : PulsingLocoNetTransport) (c : Call) (now : Millis)
    : (t.call c now).1.pulseDurationMs = t.pulseDurationMs := by
  cases c with
  | sendPacket packet =>
    simp only [call, sendPacket]
    split
    . rfl
    . rfl
  | update =>
    simp only [call, update]
    split
    . rfl
    . rfl

theorem log_pulseDurationMs (d : Nat) (start : Millis) (calls : List (Nat × Call))
    : (log d start calls).1.pulseDurationMs = .ofNat 32 d := by
  induction calls using List.reverseRecOn with
  | nil => rfl
  | append_singleton calls c ih =>
    rw [log_concat]
    rw [call_pulseDurationMs]
    exact ih

structure Remembers (d : Nat) (start : Millis) (t : PulsingLocoNetTransport) (s : Nat)
    (r : SwitchRequest) : Prop where
  releasePending : t.releasePending = true
  request : r = ⟨t.pendingAddress, t.pendingPosition, true⟩
  releaseAtMs : t.releaseAtMs = reading start (s + d)

theorem log_remembers (d : Nat) (start : Millis) (calls : List (Nat × Call)) (s : Nat)
    (r : SwitchRequest) (hopen : openSince (log d start calls).2 = some (s, r))
    : Remembers d start (log d start calls).1 s r := by
  induction calls using List.reverseRecOn with
  | nil => simp [log, openSince] at hopen
  | append_singleton calls c ih =>
    have hduration := log_pulseDurationMs d start calls
    rw [log_concat] at hopen ⊢
    rcases c with ⟨now, c⟩
    cases c with
    | sendPacket packet =>
      simp only [call, sendPacket, List.map_append, ← List.append_assoc] at hopen ⊢
      simp [openSince] at hopen
      rcases hopen with ⟨⟨hs, hr⟩, _⟩
      subst hs hr
      constructor
      . rfl
      . rfl
      . dsimp
        rw [reading_add]
        split
        . simp [releasePendingSwitch, hduration]
        . simp [hduration]
    | update =>
      simp only [call, update] at hopen ⊢
      split at hopen
      . simp [releasePendingSwitch, openSince] at hopen
        rcases hopen with ⟨⟨_, hr⟩, hon⟩
        simp [← hr] at hon
      . next hif =>
        simp only [hif, Bool.false_eq_true, ↓reduceIte]
        apply ih
        simpa using hopen

theorem log_time_mem (d : Nat) (start : Millis) (calls : List (Nat × Call))
    : ∀ e ∈ (log d start calls).2, ∃ c ∈ calls, c.1 = e.1 := by
  induction calls using List.reverseRecOn with
  | nil => simp [log]
  | append_singleton calls c ih =>
    rw [log_concat]
    intro e he
    rw [List.mem_append] at he
    cases he with
    | inl he =>
      rcases ih e he with ⟨c', hmem, htime⟩
      exact ⟨c', by simp [hmem], htime⟩
    | inr he =>
      rw [List.mem_map] at he
      rcases he with ⟨r, _, hr⟩
      exact ⟨c, by simp, by rw [← hr]⟩

theorem openSince_le {d : Nat} {start : Millis} {calls : List (Nat × Call)} {c : Nat × Call} {s : Nat}
    {r : SwitchRequest} (hspaced : Spaced gap (calls ++ [c]))
    (hopen : openSince (log d start calls).2 = some (s, r))
    : s ≤ c.1 := by
  simp only [openSince, Option.filter_eq_some_iff] at hopen
  have hmem := List.mem_of_getLast? hopen.1
  rcases log_time_mem d start calls _ hmem with ⟨c', hc', htime⟩
  have := Spaced.le_of_mem hspaced hc'
  omega

def sentByUpdate (d : Nat) (start : Millis) (calls : List (Nat × Call)) (t : Nat)
    : List SwitchRequest :=
  ((log d start calls).1.update (reading start t)).2

theorem off_mem_sentByUpdate_iff {d : Nat} {start : Millis} {calls : List (Nat × Call)} {s : Nat}
    {r : SwitchRequest} (t : Nat) (hopen : openSince (log d start calls).2 = some (s, r))
    : r.off ∈ sentByUpdate d start calls t ↔ reading start (s + d) ≤ reading start t := by
  have h := log_remembers d start calls s r hopen
  unfold sentByUpdate update
  rw [h.releasePending]
  rw [h.releaseAtMs]
  rw [h.request]
  split
  . next hif => simpa [releasePendingSwitch, SwitchRequest.off] using hif
  . next hif => simpa using hif

-- Every `update()` of the run ends the pulse that is open then exactly if `d` ms have passed.
def ReleasesOnTime (d : Nat) (start : Millis) (calls : List (Nat × Call)) : Prop :=
  ∀ pre t post s r, calls = pre ++ (t, .update) :: post →
    openSince (log d start pre).2 = some (s, r) →
      (r.off ∈ sentByUpdate d start pre t ↔ s + d ≤ t)

-- No wrap of the clock separates an `update()` from the deadline of the pulse that is open then.
def PolledInPeriod (d : Nat) (start : Millis) (calls : List (Nat × Call)) : Prop :=
  ∀ pre t post s r, calls = pre ++ (t, .update) :: post →
    openSince (log d start pre).2 = some (s, r) →
      period start (s + d) = period start t

theorem releasesOnTime_of_polledInPeriod {d : Nat} {start : Millis} {calls : List (Nat × Call)}
    (h : PolledInPeriod d start calls)
    : ReleasesOnTime d start calls := by
  intro pre t post s r hcalls hopen
  rw [off_mem_sentByUpdate_iff t hopen]
  apply reading_le_iff_of_period_eq
  exact h pre t post s r hcalls hopen

theorem lt_of_openSince {d : Nat} {start : Millis} {pre post : List (Nat × Call)}
    {c : Nat × Call} {s : Nat} {r : SwitchRequest}
    (hontime : ReleasesOnTime d start (pre ++ c :: post))
    (hopen : openSince (log d start (pre ++ [c])).2 = some (s, r))
    : c.1 ≤ s + d := by
  rw [log_concat] at hopen
  rcases c with ⟨t, c⟩
  cases c with
  | sendPacket packet =>
    simp [call, sendPacket, openSince] at hopen
    omega
  | update =>
    have hstays : (log d start pre).1.update (reading start t) = ((log d start pre).1, []) := by
      simp only [call, update] at hopen ⊢
      split at hopen
      . simp [releasePendingSwitch, openSince] at hopen
        rcases hopen with ⟨⟨_, hr⟩, hon⟩
        simp [← hr] at hon
      . next hif => simp [hif]
    simp only [call, hstays, List.map_nil, List.append_nil] at hopen
    have hnot : r.off ∉ sentByUpdate d start pre t := by
      simp [sentByUpdate, hstays]
    rw [hontime pre t post s r rfl hopen] at hnot
    dsimp
    omega

theorem polledInPeriod_of_releasesOnTime {d : Nat} {start : Millis} {calls : List (Nat × Call)}
    (hd : d < 2 ^ 31) (hspaced : Spaced (2 ^ 31) calls) (h : ReleasesOnTime d start calls)
    : PolledInPeriod d start calls := by
  intro pre t post s r hcalls hopen
  subst hcalls
  have hspaced : Spaced (2 ^ 31) (pre ++ [(t, Call.update)]) := by
    have happend : pre ++ (t, Call.update) :: post = (pre ++ [(t, Call.update)]) ++ post := by
      simp
    rw [happend] at hspaced
    apply Spaced.left_of_append hspaced
  have hle : s ≤ t := openSince_le hspaced hopen
  have hontime := h pre t post s r rfl hopen
  rw [off_mem_sentByUpdate_iff t hopen] at hontime
  rcases Nat.lt_trichotomy (period start (s + d)) (period start t) with hlt | heq | hgt
  . -- The reading cannot be past the deadline again: the call before this one was too recent.
    have hmono := period_mono start (s := t) (t := s + d)
    have hturn := turn_le_of_period_lt start hlt (hontime.mpr (by omega))
    cases pre using List.reverseRecOn with
    | nil => simp [log, openSince] at hopen
    | append_singleton pre c =>
      have hprev : c.1 ≤ s + d := by
        have happend : pre ++ [c] ++ (t, Call.update) :: post = pre ++ c :: (t, .update) :: post := by
          simp
        rw [happend] at h
        apply lt_of_openSince h hopen
      have hgap := Spaced.step (a := c) hspaced (by simp)
      dsimp at hgap
      omega
  . exact heq
  . -- The deadline has wrapped and the clock has not: it reads as past at once.
    have hmono := period_mono start (s := s + d) (t := t)
    have := hontime.mp (reading_le_of_period_lt start (by omega) hgt)
    omega

/--
A run of `sendPacket()` and `update()` calls ends every pulse on time if and only if no `update()`
meets an open pulse across a wrap of the clock from its deadline.
-/
theorem releasesOnTime_iff (d : Nat) (hd : d < 2 ^ 31) (start : Millis) (calls : List (Nat × Call))
    (hspaced : Spaced (2 ^ 31) calls)
    : ReleasesOnTime d start calls ↔ PolledInPeriod d start calls := by
  constructor
  . apply polledInPeriod_of_releasesOnTime hd hspaced
  . apply releasesOnTime_of_polledInPeriod

theorem releasesOnTime_iff_polled_once
    : Spaced (2 ^ 31) [(0, Call.sendPacket ⟨101, .thrown⟩), (250, .update)] ∧
        (ReleasesOnTime 250 0 [(0, .sendPacket ⟨101, .thrown⟩), (250, .update)]
          ↔
        PolledInPeriod 250 0 [(0, .sendPacket ⟨101, .thrown⟩), (250, .update)]) := by
  have hspaced : Spaced (2 ^ 31) [(0, Call.sendPacket ⟨101, .thrown⟩), (250, .update)] := by decide
  exact ⟨hspaced, releasesOnTime_iff 250 (by decide) 0 _ hspaced⟩

-- 100 ms before the clock wraps a 250 ms pulse is cut to nothing.
theorem not_releasesOnTime_before_wrap
    : Spaced (2 ^ 31) [(0, Call.sendPacket ⟨101, .thrown⟩), (0, .update)] ∧
        ¬ReleasesOnTime 250 4294967196 [(0, .sendPacket ⟨101, .thrown⟩), (0, .update)] := by
  constructor
  . decide
  . intro h
    have := h [(0, .sendPacket ⟨101, .thrown⟩)] 0 [] 0 ⟨101, .thrown, true⟩ rfl (by decide)
    have hoff := this.mp (by decide)
    omega

end PulsingLocoNetTransport

end Maltbee
