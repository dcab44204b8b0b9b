import MaltbeeController.Lib.Broadcast
import MaltbeeController.McsCore.Impl.Turnout

/-!
This module contains what it means for the stations of a panel not to interfere with each other, and what
has to be shown of a single station for it.
-/

namespace Maltbee

/-
The stations of a panel: `react` is what one of them does and `view i` is how station number `i` sees an
event of the panel. `reported` says of an event that is a report what the report decodes to.
-/
structure StationPanel (σ : Type u) (ε : Type v) (κ : Type w) where
  react : σ → ε → σ × List TurnoutCommand
  view : Nat → κ → ε
  address : σ → Int
  reported : κ → Option (Option TurnoutFeedback)

namespace StationPanel

open StepRun (run run_cons run_nil)

variable {σ : Type u} {ε : Type v} {κ : Type w} (p : StationPanel σ ε κ)

def step (stations : List σ) (e : κ) : List σ × List TurnoutCommand :=
  Broadcast.step p.react p.view stations e

def concerns (address : Int) (e : κ) : Bool :=
  match p.reported e with
  | none => true
  | some feedback => feedback.any fun feedback => feedback.address = address

def ownEvents (i : Nat) (s : σ) (events : List κ) : List ε :=
  Broadcast.ownEvents p.view p.concerns i (p.address s) events

/-
Each station runs as if it were alone with what concerns it. A report that decodes to nothing changes no
station, reports for different addresses can be exchanged and a repeated report changes nothing more.
-/
structure Independent : Prop where
  state : ∀ stations : List σ, (stations.map p.address).Nodup → ∀ events i s, stations[i]? = some s →
    (run p.step stations events).1[i]? = some (run p.react s (p.ownEvents i s events)).1
  commands : ∀ stations : List σ, (stations.map p.address).Nodup → ∀ events i s,
    stations[i]? = some s →
      (run p.step stations events).2.filter (·.address = p.address s)
        =
      (run p.react s (p.ownEvents i s events)).2
  undecoded : ∀ stations e, p.reported e = some none → run p.step stations [e] = (stations, [])
  comm : ∀ stations e e' feedback feedback', p.reported e = some (some feedback) →
    p.reported e' = some (some feedback') → feedback.address ≠ feedback'.address →
      run p.step stations [e, e'] = run p.step stations [e', e]
  idem : ∀ stations e e' feedback, p.reported e = some (some feedback) →
    p.reported e' = some (some feedback) → run p.step stations [e, e'] = run p.step stations [e]

structure Lawful : Prop where
  address : ∀ s e, p.address (p.react s e).1 = p.address s
  commands : ∀ s e, ∀ command ∈ (p.react s e).2, command.address = p.address s
  skips : ∀ s i e, p.concerns (p.address s) e = false → p.react s (p.view i e) = (s, [])
  silent : ∀ s i e, p.reported e ≠ none → (p.react s (p.view i e)).2 = []
  idem : ∀ s i e e' feedback, p.reported e = some (some feedback) →
    p.reported e' = some (some feedback) →
      (p.react (p.react s (p.view i e)).1 (p.view i e')).1 = (p.react s (p.view i e)).1

variable {p}

theorem concerns_eq_false {e : κ} {feedback : TurnoutFeedback} {address : Int}
    (he : p.reported e = some (some feedback)) (hne : feedback.address ≠ address)
    : p.concerns address e = false := by
  simp [concerns, he, hne]

theorem Lawful.comm (h : p.Lawful) (s : σ) (i : Nat) {e e' : κ} {feedback feedback' : TurnoutFeedback}
    (he : p.reported e = some (some feedback)) (he' : p.reported e' = some (some feedback'))
    (hne : feedback.address ≠ feedback'.address)
    : (p.react (p.react s (p.view i e)).1 (p.view i e')).1
        =
      (p.react (p.react s (p.view i e')).1 (p.view i e)).1 := by
  by_cases heq : feedback.address = p.address s
  . have hother (s' : σ) (hs' : p.address s' = p.address s) : p.react s' (p.view i e') = (s', []) := by
      apply h.skips
      apply concerns_eq_false he'
      rw [hs', ← heq]
      exact hne.symm
    rw [hother s rfl]
    rw [hother _ (h.address s _)]
  . have hother (s' : σ) (hs' : p.address s' = p.address s) : p.react s' (p.view i e) = (s', []) := by
      apply h.skips
      apply concerns_eq_false he
      rw [hs']
      exact heq
    rw [hother s rfl]
    rw [hother _ (h.address s _)]

theorem Lawful.independent (h : p.Lawful) : p.Independent := by
  constructor
  . intro stations _ events i s hs
    unfold step
    rw [Broadcast.run_component, hs, Option.map_some]
    rw [Broadcast.run_ownEvents p.react p.view h.address h.skips]
    rfl
  . intro stations hnodup events i s hs
    unfold step
    rw [Broadcast.run_outputs p.view h.commands h.address hnodup events hs]
    rw [Broadcast.run_ownEvents p.react p.view h.address h.skips]
    rfl
  . intro stations e he
    have hskip (s : σ) (i : Nat) : p.react s (p.view i e) = (s, []) := by
      apply h.skips
      simp [concerns, he]
    rw [← run_nil p.step stations]
    apply Broadcast.run_eq_of_silent
    . simp [hskip]
    . simp
    . simp [hskip]
  . intro stations e e' feedback feedback' he he' hne
    apply Broadcast.run_eq_of_silent
    . simp [h.silent, he, he']
    . simp [h.silent, he, he']
    . intro s i
      exact h.comm s i he he' hne
  . intro stations e e' feedback he he'
    apply Broadcast.run_eq_of_silent
    . simp [h.silent, he, he']
    . simp [h.silent, he]
    . intro s i
      exact h.idem s i e e' feedback he he'

end StationPanel

end Maltbee
