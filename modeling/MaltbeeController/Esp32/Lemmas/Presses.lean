import MaltbeeController.Esp32.Lemmas.Loop
import MaltbeeController.Esp32.Lemmas.Rounds

/-!
This module contains the proof that the ESP32 boards never command a turnout on their own: behind each command
is a press of the button of its station, and behind each press at most one command.
-/

namespace Maltbee

namespace Button

variable (b : Button) (raw : Bool) (now₁ now₂ : Millis)

theorem update_lastRawReading : (b.update raw now₁ now₂).lastRawReading = raw := by
  unfold update
  dsimp only
  split
  . split
    . rfl
    . rfl
  . next heq =>
    rw [ne_eq, Decidable.not_not] at heq
    split
    . exact heq.symm
    . exact heq.symm

theorem update_lastRawTransitionTime
    : (b.update raw now₁ now₂).lastRawTransitionTime
        =
      if raw ≠ b.lastRawReading then now₁ else b.lastRawTransitionTime := by
  unfold update
  dsimp only
  split
  . split
    . rfl
    . rfl
  . split
    . rfl
    . rfl

theorem update_debounceMilliseconds
    : (b.update raw now₁ now₂).debounceMilliseconds = b.debounceMilliseconds := by
  unfold update
  dsimp only
  split
  . split
    . rfl
    . rfl
  . split
    . rfl
    . rfl

theorem due_of_wasPressed_update (h : (b.update raw now₁ now₂).wasPressed = true)
    : b.debounceMilliseconds ≤ now₂ - (b.update raw now₁ now₂).lastRawTransitionTime := by
  rw [wasPressed_update] at h
  unfold update isPressed at *
  dsimp only at *
  split at h
  . next hne =>
    rw [if_pos hne]
    split at h
    . next hdue =>
      rw [if_pos hdue]
      exact hdue
    . simp at h
  . next heq =>
    rw [if_neg heq]
    split at h
    . next hdue =>
      rw [if_pos hdue]
      exact hdue
    . simp at h

end Button

namespace Esp32

open StepRun (run run_concat halting)

def lastReport (address : Int) (reports : List TurnoutFeedback) : Option TurnoutPosition :=
  (reports.filterMap fun f => if f.address = address then some f.position else none).getLast?

theorem lastReport_append (address : Int) (reports more : List TurnoutFeedback)
    : lastReport address (reports ++ more)
        =
      (lastReport address more).or (lastReport address reports) := by
  unfold lastReport
  rw [List.filterMap_append, List.getLast?_append]

variable {β : Type u} {δ : Type v}

namespace Round

def heard (r : Round) : List TurnoutFeedback :=
  r.reports.getD []

-- The button of station `i` reads as pressed and its gate is open.
def closed (r : Round) (i : Nat) : Bool :=
  !r.collision && r.pressed i

end Round

-- Where the turnout is as far as the board has been told.
def confirmed (address : Int) (rounds : List Round) : TurnoutPosition :=
  (lastReport address (rounds.flatMap (·.heard))).getD .closed

theorem confirmed_concat (address : Int) (rounds : List Round) (r : Round)
    : confirmed address (rounds ++ [r])
        =
      (lastReport address r.heard).getD (confirmed address rounds) := by
  unfold confirmed
  rw [List.flatMap_append, lastReport_append, Option.getD_or]
  simp

namespace StationUnit

-- A station that has its address, is neither locked nor disabled, and knows of `position`.
structure Knows (u : StationUnit β δ) (address : Int) (position : TurnoutPosition) : Prop where
  address : u.station.turnout.address = address
  canThrow : u.station.turnout.canThrow = true
  position : u.station.turnout.position = position

variable [LedPairStation δ] {u : StationUnit β δ} {address : Int} {position : TurnoutPosition}

theorem applyFeedback_knows (h : u.Knows address position) (feedback : TurnoutFeedback)
    (now₁ now₂ : Millis)
    : (u.applyFeedback feedback now₁ now₂).Knows address
        ((lastReport address [feedback]).getD position) := by
  by_cases heq : feedback.address = address
  . have hlast : lastReport address [feedback] = some feedback.position := by
      simp [lastReport, heq]
    rw [← h.address] at heq
    unfold applyFeedback
    rw [ToggleTurnoutStation.applyFeedback_of_eq heq h.canThrow, hlast]
    exact ⟨h.address, h.canThrow, rfl⟩
  . have hlast : lastReport address [feedback] = none := by
      simp [lastReport, heq]
    rw [← h.address] at heq
    rw [applyFeedback_of_ne u heq, hlast]
    exact h

end StationUnit

namespace Round

variable [LedPairStation δ] (r : Round) (i : Nat) {u : StationUnit β δ} {address : Int}
variable {position : TurnoutPosition}

theorem foldl_applyFeedback_knows (h : u.Knows address position)
    (updates : List (TurnoutFeedback × Nat))
    : (updates.foldl
          (fun u f => u.applyFeedback f.1 (r.now (.feedback f.2 i 0)) (r.now (.feedback f.2 i 1)))
          u).Knows address ((lastReport address (updates.map (·.1))).getD position) := by
  induction updates using List.reverseRecOn with
  | nil => exact h
  | append_singleton updates f ih =>
    rw [List.foldl_append, List.map_append, lastReport_append, Option.getD_or]
    exact StationUnit.applyFeedback_knows ih f.1 _ _

theorem hear_knows (h : u.Knows address position)
    : (r.hear i u).Knows address ((lastReport address r.heard).getD position) := by
  unfold hear heard
  cases r.reports with
  | none => exact ⟨h.address, h.canThrow, h.position⟩
  | some reports =>
    have hknows := foldl_applyFeedback_knows r i h reports.zipIdx
    rw [List.zipIdx_map_fst] at hknows
    exact hknows

theorem prepare_knows (h : u.Knows address position)
    : (r.prepare i u).Knows address ((lastReport address r.heard).getD position) := by
  have hgate : (r.gate u).Knows address position := ⟨h.address, h.canThrow, h.position⟩
  have hhear := hear_knows r i hgate
  unfold prepare light identify
  split
  . exact ⟨hhear.address, hhear.canThrow, hhear.position⟩
  . exact ⟨hhear.address, hhear.canThrow, hhear.position⟩

variable (u)

theorem foldl_applyFeedback_frame (updates : List (TurnoutFeedback × Nat))
    : let u' := updates.foldl
        (fun u f => u.applyFeedback f.1 (r.now (.feedback f.2 i 0)) (r.now (.feedback f.2 i 1))) u
      u'.station.button = u.station.button ∧ u'.gatedButton = u.gatedButton := by
  induction updates generalizing u with
  | nil => exact ⟨rfl, rfl⟩
  | cons f updates ih =>
    have hbutton : (u.applyFeedback f.1 (r.now (.feedback f.2 i 0))
        (r.now (.feedback f.2 i 1))).station.button = u.station.button := by
      unfold StationUnit.applyFeedback ToggleTurnoutStation.applyFeedback
      split
      . rfl
      . rfl
    have hrest := ih (u.applyFeedback f.1 (r.now (.feedback f.2 i 0)) (r.now (.feedback f.2 i 1)))
    rw [hbutton] at hrest
    exact hrest

theorem prepare_frame
    : (r.prepare i u).station.button = u.station.button
        ∧
      (r.prepare i u).gatedButton = ⟨r.collision⟩ := by
  have hhear
      : (r.hear i (r.gate u)).station.button = u.station.button
          ∧
        (r.hear i (r.gate u)).gatedButton = ⟨r.collision⟩ := by
    unfold hear
    split
    . exact ⟨rfl, rfl⟩
    . apply foldl_applyFeedback_frame
  unfold prepare light identify
  split
  . exact hhear
  . exact hhear

theorem play_button
    : (r.play i u).1.station.button
        =
      u.station.button.update (r.closed i) (r.now (.station i 0)) (r.now (.station i 1)) := by
  have ⟨hbutton, hgate⟩ := prepare_frame r i u
  unfold play StationUnit.update ToggleTurnoutStation.update
  dsimp only
  rw [hbutton, hgate]
  rfl

variable {u}

theorem play_knows (h : u.Knows address position)
    : (r.play i u).1.Knows address ((lastReport address r.heard).getD position) := by
  have hprepare := prepare_knows r i h
  exact ⟨hprepare.address, hprepare.canThrow, hprepare.position⟩

theorem play_commands (h : u.Knows address position)
    : (r.play i u).2
        =
      if (r.play i u).1.station.button.wasPressed then
        [⟨address, ((lastReport address r.heard).getD position).opposite⟩]
      else
        [] := by
  have hprepare := prepare_knows r i h
  unfold play StationUnit.update
  dsimp only
  rw [ToggleTurnoutStation.update_commands, hprepare.address, hprepare.position,
    ← Button.wasPressed_update]
  rfl

def replay (i : Nat) (u : StationUnit β δ) (rounds : List Round) : StationUnit β δ :=
  (run (fun u r => r.play i u) u rounds).1

theorem replay_concat (u : StationUnit β δ) (rounds : List Round)
    : replay i u (rounds ++ [r]) = (r.play i (replay i u rounds)).1 := by
  unfold replay
  rw [run_concat]

theorem closed_of_mem_play {u : StationUnit β δ} {address : Int} {position : TurnoutPosition}
    (h : u.Knows address position) {command : TurnoutCommand} (hcommand : command ∈ (r.play i u).2)
    : r.closed i = true := by
  rw [play_commands r i h] at hcommand
  split at hcommand
  . next hpressed =>
    rw [play_button] at hpressed
    exact Button.raw_of_wasPressed_update _ _ _ _ hpressed
  . contradiction

end Round

open Round (replay replay_concat)

structure StationUnit.New (u : StationUnit β δ) (address : Int) : Prop where
  knows : u.Knows address .closed
  button : u.station.button = { debounceMilliseconds := ToggleTurnoutStation.DEBOUNCE_MS }

theorem Node.bootUnit_new [LedPairStation δ] (bootMode : BootMode) (now : Nat → Nat → Millis) (i : Nat)
    (wiring : β × Int × List Char)
    : (bootUnit bootMode now i wiring : StationUnit β δ).New wiring.2.1 := by
  exact ⟨⟨rfl, rfl, rfl⟩, rfl⟩

-- The button of station `i` has been held down from `first` to the last of the rounds.
def Held (i : Nat) (rounds : List Round) (first : Round) : Prop :=
  ∃ earlier held, rounds = earlier ++ first :: held ∧ ∀ r ∈ first :: held, r.closed i = true

theorem Held.concat {i : Nat} {rounds : List Round} {first r : Round} (h : Held i rounds first)
    (hr : r.closed i = true)
    : Held i (rounds ++ [r]) first := by
  rcases h with ⟨earlier, held, rfl, hheld⟩
  refine ⟨earlier, held ++ [r], by simp, ?_⟩
  rw [← List.cons_append]
  intro r' hr'
  rcases List.mem_append.mp hr' with hold | hnew
  . exact hheld r' hold
  . rw [List.mem_singleton.mp hnew]
    exact hr

section Station

variable [LedPairStation δ] {u : StationUnit β δ} {address : Int} {i : Nat}

theorem replay_knows (hnew : u.New address) (rounds : List Round)
    : (replay i u rounds).Knows address (confirmed address rounds) := by
  induction rounds using List.reverseRecOn with
  | nil => exact hnew.knows
  | append_singleton rounds r ih =>
    rw [replay_concat, confirmed_concat]
    exact r.play_knows i ih

theorem replay_debounceMilliseconds (hnew : u.New address) (rounds : List Round)
    : (replay i u rounds).station.button.debounceMilliseconds
        =
      ToggleTurnoutStation.DEBOUNCE_MS := by
  induction rounds using List.reverseRecOn with
  | nil => exact congrArg Button.debounceMilliseconds hnew.button
  | append_singleton rounds r ih =>
    rw [replay_concat, Round.play_button, Button.update_debounceMilliseconds, ih]

-- The time that the button keeps is that of the sample since which it has read as pressed.
theorem replay_held (hnew : u.New address) (rounds : List Round)
    (h : (replay i u rounds).station.button.lastRawReading = true)
    : ∃ first, Held i rounds first ∧
        (replay i u rounds).station.button.lastRawTransitionTime = first.now (.station i 0) := by
  induction rounds using List.reverseRecOn with
  | nil =>
    have hraw : u.station.button.lastRawReading = true := h
    rw [hnew.button] at hraw
    contradiction
  | append_singleton rounds r ih =>
    rw [replay_concat, Round.play_button] at h ⊢
    rw [Button.update_lastRawReading] at h
    rw [Button.update_lastRawTransitionTime, h]
    cases hbefore : (replay i u rounds).station.button.lastRawReading with
    | true =>
      have ⟨first, hheld, htime⟩ := ih hbefore
      exact ⟨first, hheld.concat h, htime⟩
    | false => exact ⟨r, ⟨rounds, [], rfl, by simpa using h⟩, rfl⟩

theorem replay_isPressed_append {rounds later : List Round}
    (h : (replay i u rounds).station.button.isPressed = true)
    (hlater : ∀ r ∈ later, r.closed i = true)
    : (replay i u (rounds ++ later)).station.button.isPressed = true := by
  induction later using List.reverseRecOn with
  | nil =>
    rw [List.append_nil]
    exact h
  | append_singleton later r ih =>
    rw [← List.append_assoc, replay_concat, Round.play_button]
    have hbefore := ih fun r' hr' => hlater r' (List.mem_append_left _ hr')
    rcases Button.update_stableReading _ (r.closed i) (r.now (.station i 0)) (r.now (.station i 1))
      with hraw | hstable
    . exact hraw.trans (hlater r (by simp))
    . exact hstable.trans hbefore

theorem play_reason (hnew : u.New address) {before : List Round} {r : Round}
    {command : TurnoutCommand} (h : command ∈ (r.play i (replay i u before)).2)
    : command = ⟨address, (confirmed address (before ++ [r])).opposite⟩
        ∧
      ∃ first, Held i (before ++ [r]) first ∧
        ToggleTurnoutStation.DEBOUNCE_MS
          ≤ r.now (.station i 1) - first.now (.station i 0) := by
  rw [r.play_commands i (replay_knows hnew before)] at h
  split at h
  . next hpressed =>
    rw [Round.play_button] at hpressed
    have hraw := Button.raw_of_wasPressed_update _ _ _ _ hpressed
    have hdue := Button.due_of_wasPressed_update _ _ _ _ hpressed
    rw [replay_debounceMilliseconds hnew] at hdue
    rw [← Round.play_button, ← replay_concat] at hdue
    have hlast : (replay i u (before ++ [r])).station.button.lastRawReading = true := by
      rw [replay_concat, Round.play_button, Button.update_lastRawReading]
      exact hraw
    have ⟨first, hheld, htime⟩ := replay_held hnew _ hlast
    rw [htime] at hdue
    rw [confirmed_concat]
    exact ⟨List.mem_singleton.mp h, first, hheld, hdue⟩
  . contradiction

theorem released_between (hnew : u.New address) {earlier later : List Round} {r' r : Round}
    (hfirst : (r'.play i (replay i u earlier)).2 ≠ [])
    (hsecond : (r.play i (replay i u (earlier ++ r' :: later))).2 ≠ [])
    : ∃ h ∈ later, h.closed i = false := by
  rw [r'.play_commands i (replay_knows hnew _), ite_ne_right_iff] at hfirst
  rw [r.play_commands i (replay_knows hnew _), ite_ne_right_iff] at hsecond
  have hpressed : (replay i u (earlier ++ [r'])).station.button.isPressed = true := by
    rw [replay_concat]
    have := hfirst.1
    rw [Round.play_button, Button.wasPressed_update, Bool.and_eq_true] at this
    rw [Round.play_button]
    exact this.2
  by_contra hheld
  have hclosed : ∀ h ∈ later, h.closed i = true := by simpa using hheld
  have hstill := replay_isPressed_append hpressed hclosed
  have hedge := hsecond.1
  rw [Round.play_button, Button.wasPressed_update, Bool.and_eq_true, Bool.not_eq_true'] at hedge
  rw [List.append_assoc, List.singleton_append, hedge.1] at hstill
  contradiction

end Station

namespace Round

variable [LedPairStation δ] (r : Round) (i : Nat) (u : StationUnit β δ)

theorem prepare_address
    : (r.prepare i u).station.turnout.address = u.station.turnout.address := by
  have hfoldl (updates : List (TurnoutFeedback × Nat)) (u : StationUnit β δ)
      : (updates.foldl
            (fun u f => u.applyFeedback f.1 (r.now (.feedback f.2 i 0)) (r.now (.feedback f.2 i 1)))
            u).station.turnout.address
          =
        u.station.turnout.address := by
    induction updates generalizing u with
    | nil => rfl
    | cons f updates ih =>
      rw [List.foldl_cons, ih]
      apply StationUnit.address_applyFeedback
  have hhear : (r.hear i (r.gate u)).station.turnout.address = u.station.turnout.address := by
    unfold hear
    split
    . rfl
    . apply hfoldl
  unfold prepare light identify
  split
  . exact hhear
  . exact hhear

theorem play_address : (r.play i u).1.station.turnout.address = u.station.turnout.address := by
  exact prepare_address r i u

theorem address_of_mem_play
    : ∀ command ∈ (r.play i u).2, command.address = u.station.turnout.address := by
  intro command hcommand
  rw [← prepare_address r i u]
  exact StationUnit.address_of_mem_update _ _ _ _ command hcommand

theorem run_playAll_component (units : List (StationUnit β δ)) (rounds : List Round) (i : Nat)
    : (run (playAll β δ) units rounds).1[i]? = units[i]?.map fun u => replay i u rounds := by
  unfold playAll
  rw [Broadcast.run_component]
  simp only [StepRun.run_map]
  rfl

theorem run_playAll_addresses (units : List (StationUnit β δ)) (rounds : List Round)
    : (run (playAll β δ) units rounds).1.map (·.station.turnout.address)
        =
      units.map (·.station.turnout.address) := by
  apply StepRun.run_invariant (playAll β δ) units
    (P := fun units' => units'.map (·.station.turnout.address)
      = units.map (·.station.turnout.address)) rfl
  intro units' r h
  rw [← h]
  unfold playAll
  apply Broadcast.step_keys
  intro u e
  apply play_address

end Round

/-
Why a board sends `command` in round `r`, with its station `i`: the button has been held down for the time
of the debouncing, it has been let go of since the last command of the station, and the command is the
only one for the turnout and the opposite of what has been reported last.
-/
structure Reason (i : Nat) (before : List (Round × List TurnoutCommand)) (r : Round)
    (sent : List TurnoutCommand) (command : TurnoutCommand) : Prop where
  held : ∃ first, Held i (before.map (·.1) ++ [r]) first ∧
    ToggleTurnoutStation.DEBOUNCE_MS ≤ r.now (.station i 1) - first.now (.station i 0)
  released : ∀ earlier r' sent' later, before = earlier ++ (r', sent') :: later →
    (∃ other ∈ sent', other.address = command.address) → ∃ h ∈ later, h.1.closed i = false
  alone : sent.filter (·.address = command.address) = [command]
  position : command.position = (confirmed command.address (before.map (·.1) ++ [r])).opposite

def Reasoned (addresses : List Int) (log : List (Round × List TurnoutCommand)) : Prop :=
  ∀ before r sent after, log = before ++ (r, sent) :: after →
    ∀ command ∈ sent, ∃ i, addresses[i]? = some command.address ∧ Reason i before r sent command

section Boards

variable [LedPairStation δ] {units : List (StationUnit β δ)} {addresses : List Int}

theorem exists_of_mem_playAll {before : List Round} {r : Round} {command : TurnoutCommand}
    (h : command ∈ (Round.playAll β δ (run (Round.playAll β δ) units before).1 r).2)
    : ∃ i u, units[i]? = some u ∧ command ∈ (r.play i (replay i u before)).2 := by
  rcases List.mem_flatMap.mp h with ⟨res, hres, hcommand⟩
  rcases List.mem_mapIdx.mp hres with ⟨i, hi, rfl⟩
  have hcomponent := Round.run_playAll_component units before i
  rw [List.getElem?_eq_getElem hi, eq_comm, Option.map_eq_some_iff] at hcomponent
  have ⟨u, hu, heq⟩ := hcomponent
  rw [← heq] at hcommand
  exact ⟨i, u, hu, hcommand⟩

theorem filter_playAll (hnodup : (units.map (·.station.turnout.address)).Nodup) {i : Nat}
    {u : StationUnit β δ} (hu : units[i]? = some u) (before : List Round) (r : Round)
    : (Round.playAll β δ (run (Round.playAll β δ) units before).1 r).2.filter
          (·.address = u.station.turnout.address)
        =
      (r.play i (replay i u before)).2 := by
  have hcomponent := Round.run_playAll_component units before i
  rw [hu, Option.map_some] at hcomponent
  have hkeys := Round.run_playAll_addresses units before
  have haddress : (replay i u before).station.turnout.address = u.station.turnout.address := by
    have := congrArg (·[i]?) hkeys
    simpa [hcomponent, hu] using this
  rw [← hkeys] at hnodup
  have howner (u : StationUnit β δ) (e : Nat × Round)
      : ∀ command ∈ (e.2.play e.1 u).2, command.address = u.station.turnout.address :=
    e.2.address_of_mem_play e.1 u
  have hfilter := Broadcast.filter_outputs howner hnodup hcomponent fun i => (i, r)
  rw [haddress] at hfilter
  exact hfilter

theorem log_reasoned (haddresses : units.map (·.station.turnout.address) = addresses)
    (hnodup : addresses.Nodup)
    (hnew : ∀ u ∈ units, u.New u.station.turnout.address) (rounds : List Round)
    : Reasoned addresses (StepRun.log (Round.playAll β δ) units rounds) := by
  rw [← haddresses] at hnodup
  intro before r sent after hlog command hcommand
  have ⟨hsent, _, hbefore⟩ := StepRun.log_entry _ _ hlog
  rw [hsent] at hcommand
  have ⟨i, u, hu, hmem⟩ := exists_of_mem_playAll hcommand
  have hunew := hnew u (List.mem_of_getElem? hu)
  have ⟨hcommand_eq, hheld⟩ := play_reason hunew hmem
  have haddress : command.address = u.station.turnout.address := by rw [hcommand_eq]
  refine ⟨i, ?_, ?_⟩
  . rw [← haddresses, List.getElem?_map, hu, haddress]
    rfl
  constructor
  . exact hheld
  . intro earlier r' sent' later hsplit ⟨other, hother, hsame⟩
    rw [hbefore] at hsplit
    have ⟨hsent', hrounds, _⟩ := StepRun.log_entry _ _ hsplit
    rw [hsent'] at hother
    have hfilter := filter_playAll hnodup hu (earlier.map (·.1)) r'
    have hfirst : (r'.play i (replay i u (earlier.map (·.1)))).2 ≠ [] := by
      rw [← hfilter]
      apply List.ne_nil_of_mem (a := other)
      rw [List.mem_filter, decide_eq_true_eq]
      exact ⟨hother, hsame.trans haddress⟩
    rw [hrounds] at hmem
    have ⟨h, hh, hreleased⟩ := released_between hunew hfirst (List.ne_nil_of_mem hmem)
    rcases List.mem_map.mp hh with ⟨entry, hentry, rfl⟩
    exact ⟨entry, hentry, hreleased⟩
  . rw [hsent, haddress, filter_playAll hnodup hu]
    have hcommands := r.play_commands i (replay_knows (i := i) hunew (before.map (·.1)))
    split at hcommands
    . rw [hcommands] at hmem ⊢
      rw [List.mem_singleton.mp hmem]
    . rw [hcommands] at hmem
      contradiction
  . rw [hcommand_eq]

theorem PlaysRounds.reasoned {N : Nat} {σ : Type w} {loop : σ → LoopInput N → Option σ × List Effect}
    {node : σ → Node N β δ} {round : σ → LoopInput N → Round} (h : PlaysRounds loop node round)
    {s : σ} {bootMode : BootMode} {now : Nat → Nat → Millis} {wirings : List (β × Int × List Char)}
    (hunits : (node s).units = wirings.mapIdx (Node.bootUnit bootMode now))
    (hnodup : (wirings.map (·.2.1)).Nodup) (inputs : List (LoopInput N))
    : Reasoned (wirings.map (·.2.1)) (history loop node round s inputs) := by
  by_cases hmode : (node s).bootMode = .WirelessSetup
  . rw [h.history_of_setup s hmode]
    intro before r sent after hlog
    simp at hlog
  . rw [(h.history_eq_log s hmode inputs).1]
    apply log_reasoned _ hnodup
    . intro u hu
      rw [hunits] at hu
      rcases List.mem_mapIdx.mp hu with ⟨i, hi, rfl⟩
      apply Node.bootUnit_new
    . rw [hunits]
      apply List.ext_getElem?
      intro i
      simp [Node.bootUnit, ToggleTurnoutStation.new, Turnout.new, Turnout.address,
        Function.comp_def]

end Boards

/--
From the boot on, all the commands that a board sends are in its history, and each of them has its reason.
-/
theorem commands_reasoned (ownMac : MacAddress) (wirelessSetupRequested : Bool)
    : (∀ configStore runningConfig now inputs,
        let p := Panel.boot ownMac configStore runningConfig wirelessSetupRequested now
        let log := history Panel.loop Panel.node Panel.round p inputs
        commands (run (halting Panel.loop) (some p) inputs).2 = log.flatMap (·.2)
          ∧
        Reasoned (Panel.TURNOUT_CONFIGS.map (·.2.1)) log)
        ∧
      ∀ configStore runningConfig now now₁ now₂ inputs,
        let p := Node4.boot ownMac configStore runningConfig wirelessSetupRequested now now₁ now₂
        let log := history Node4.loop Node4.node Node4.round p inputs
        commands (run (halting Node4.loop) (some p) inputs).2 = log.flatMap (·.2)
          ∧
        Reasoned (Node4.TURNOUT_CONFIGS.map (·.2.1)) log := by
  constructor
  . intro configStore runningConfig now inputs p log
    constructor
    . exact (Panel.playsRounds.history_commands p inputs).symm
    . apply Panel.playsRounds.reasoned rfl
      decide
  . intro configStore runningConfig now now₁ now₂ inputs p log
    constructor
    . exact (Node4.playsRounds.history_commands p inputs).symm
    . apply Node4.playsRounds.reasoned rfl
      decide

theorem commands_reasoned_held
    : let log := history Panel.loop Panel.node Panel.round panel [held 12 0 [], held 12 30 []]
      log.map (·.2) = [[], [⟨1, .thrown⟩]] ∧ Reasoned (Panel.TURNOUT_CONFIGS.map (·.2.1)) log := by
  constructor
  . decide +kernel
  . exact ((commands_reasoned mac false).1 (configured 12) _ _ _).2

end Esp32

end Maltbee
