import MaltbeeController.Esp32.Impl.Loop

/-!
This module contains what the loops of the two boards have in common: a tick in which only the way from
the network to the stations is the board's own.
-/

namespace Maltbee

namespace Esp32

-- What a board adds to a tick of its node: how it keeps the node, what it gets from its own inputs
-- before, and what it does with the node from the network on.
structure BoardTick (N : Nat) (β : Type u) (δ : Type v) (σ : Type w) where
  withNode : Node N β δ → σ
  board : Str
  setupActive : Bool
  driven : List Effect
  attend : Node N β δ → Bool → σ × List Effect

variable {N : Nat} {β : Type u} {δ : Type v} {σ : Type w}

def BoardTick.run [LedPairStation δ] (t : BoardTick N β δ σ) (n : Node N β δ) (input : LoopInput N)
    : Option σ × List Effect :=
  let polled := n.pollSerial input
  if polled.1.rebootRequested then
    (none, polled.2)
  else if polled.1.bootMode = .WirelessSetup then
    let served := polled.1.serveSetup input
    (some (t.withNode served.1), polled.2 ++ served.2)
  else
    let checked := polled.1.checkIdentity t.board t.setupActive input
    let requested := checked.1.requestSetup input
    let effects := polled.2 ++ t.driven ++ checked.2 ++ requested.2
    if requested.1 then
      (none, effects)
    else
      let res := t.attend checked.1 polled.1.identityGuard.collisionDetected
      (some res.1, effects ++ res.2)

theorem BoardTick.run_cases [LedPairStation δ] {t : BoardTick N β δ σ} {n : Node N β δ}
    {input : LoopInput N} {s' : σ} (h : s' ∈ (t.run n input).1)
    : (∃ served, served = (n.pollSerial input).1.serveSetup input
        ∧
      t.withNode served.1 = s'
        ∧
      (t.run n input).2 = (n.pollSerial input).2 ++ served.2)
        ∨
      ∃ checked res, checked = (n.pollSerial input).1.checkIdentity t.board t.setupActive input
        ∧
      res = t.attend checked.1 (n.pollSerial input).1.identityGuard.collisionDetected
        ∧
      res.1 = s'
        ∧
      (t.run n input).2
        =
      (n.pollSerial input).2 ++ t.driven ++ checked.2 ++ (checked.1.requestSetup input).2
        ++ res.2 := by
  simp only [run] at h ⊢
  split at h
  . contradiction
  . next hreboot =>
    rw [if_neg hreboot]
    split at h
    . next hsetup =>
      rw [if_pos hsetup]
      exact .inl ⟨_, rfl, Option.mem_some_iff.mp h, rfl⟩
    . next hsetup =>
      rw [if_neg hsetup]
      split at h
      . contradiction
      . next hrequested =>
        rw [if_neg hrequested]
        exact .inr ⟨_, _, rfl, rfl, Option.mem_some_iff.mp h, rfl⟩

def Panel.boardTick (p : Panel N) (input : LoopInput N)
    : BoardTick N MatrixDigitalInput LedPairDriver (Panel N) :=
  let scanned := p.matrixScanner.update fun col => (matrixColumn col).isActive input.digitalRead
  {
    withNode := fun node => { p with node }
    board := "panel".toList
    setupActive := bootButton.isActive input.digitalRead
    driven := scanned.2.map .drive
    attend := fun node collision =>
      Panel.attend { p with node, matrixScanner := scanned.1 } collision input
  }

theorem Panel.loop_eq (p : Panel N) (input : LoopInput N)
    : p.loop input = (p.boardTick input).run p.node input := by
  rfl

def Node4.boardTick (p : Node4 N) (input : LoopInput N)
    : BoardTick N ArduinoDigitalInput IndependentLedPairDriver (Node4 N) where
  withNode node := { p with node }
  board := "node".toList
  setupActive := Node4.setupTriggerInput.isActive input.digitalRead
  driven := []
  attend node collision := Node4.attend { p with node } collision input

theorem Node4.loop_eq (p : Node4 N) (input : LoopInput N)
    : p.loop input = (p.boardTick input).run p.node input := by
  simp only [BoardTick.run, Node4.boardTick, List.append_nil]
  rfl

end Esp32

end Maltbee
