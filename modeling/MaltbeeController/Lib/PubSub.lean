import Mathlib.Logic.Function.Basic
import Mathlib.Logic.Relation

/-!
This module contains nodes that publish messages to a broker and the rule by which invariants of such a
system are proved one node at a time. The broker may lose, delay, reorder and duplicate messages.
-/

namespace PubSub

variable {ι : Type u} {σ : Type v} {μ : Type w}

-- A message on the broker. `none` is a publisher outside of the system.
structure Sent (ι : Type u) (μ : Type w) where
  publisher : Option ι
  message : μ

structure Protocol (σ : Type v) (μ : Type w) where
  act : σ → σ → List μ → Prop
  hears : σ → μ → Prop
  receive : σ → μ → σ
  outside : μ → Prop

structure Net (ι : Type u) (σ : Type v) (μ : Type w) where
  node : ι → σ
  sent : List (Sent ι μ) := []
  delivered : ι → List (Sent ι μ) := fun _ => []

variable [DecidableEq ι] (p : Protocol σ μ)

namespace Net

def act (net : Net ι σ μ) (i : ι) (s : σ) (out : List μ) : Net ι σ μ :=
  {
    net with
    node := Function.update net.node i s
    sent := net.sent ++ out.map fun m => ⟨some i, m⟩
  }

def outside (net : Net ι σ μ) (m : μ) : Net ι σ μ :=
  { net with sent := net.sent ++ [⟨none, m⟩] }

def deliver (net : Net ι σ μ) (i : ι) (m : Sent ι μ) : Net ι σ μ :=
  {
    net with
    node := Function.update net.node i (p.receive (net.node i) m.message)
    delivered := Function.update net.delivered i (net.delivered i ++ [m])
  }

end Net

-- A delivered message stays on the broker, and none has to be delivered.
inductive Step : Net ι σ μ → Net ι σ μ → Prop where
  | act (net : Net ι σ μ) (i : ι) (s : σ) (out : List μ) (h : p.act (net.node i) s out)
      : Step net (net.act i s out)
  | outside (net : Net ι σ μ) (m : μ) (h : p.outside m) : Step net (net.outside m)
  | deliver (net : Net ι σ μ) (i : ι) (m : Sent ι μ) (hsent : m ∈ net.sent)
      (hhears : p.hears (net.node i) m.message)
      : Step net (net.deliver p i m)

def Reachable (net net' : Net ι σ μ) : Prop :=
  Relation.ReflTransGen (Step p) net net'

-- What one node does on its own: it receives the first messages and publishes the second ones.
inductive Run : σ → List μ → List μ → σ → Prop where
  | nil (s : σ) : Run s [] [] s
  | act {s s' s'' : σ} {received published out : List μ} (hrun : Run s received published s')
      (hact : p.act s' s'' out)
      : Run s received (published ++ out) s''
  | receive {s s' : σ} {received published : List μ} {m : μ} (hrun : Run s received published s')
      (hhears : p.hears s' m)
      : Run s (received ++ [m]) published (p.receive s' m)

/-
`Local i s received` is kept by each node on its own if it may rely on `Origin` for the messages it
receives and has to guarantee it for those it publishes.
-/
structure Rely (Local : ι → σ → List (Sent ι μ) → Prop) (Origin : Sent ι μ → Prop) : Prop where
  act : ∀ i s s' out received, Local i s received → p.act s s' out →
    Local i s' received ∧ ∀ m ∈ out, Origin ⟨some i, m⟩
  outside : ∀ m, p.outside m → Origin ⟨none, m⟩
  deliver : ∀ i s received m, Local i s received → Origin m → p.hears s m.message →
    Local i (p.receive s m.message) (received ++ [m])

variable {p} {Local : ι → σ → List (Sent ι μ) → Prop} {Origin : Sent ι μ → Prop}

def Sound (Local : ι → σ → List (Sent ι μ) → Prop) (Origin : Sent ι μ → Prop) (net : Net ι σ μ)
    : Prop :=
  (∀ i, Local i (net.node i) (net.delivered i)) ∧ ∀ m ∈ net.sent, Origin m

theorem Rely.step (h : Rely p Local Origin) {net net' : Net ι σ μ}
    (hsound : Sound Local Origin net) (hstep : Step p net net')
    : Sound Local Origin net' := by
  rcases hsound with ⟨hlocal, hsent⟩
  cases hstep with
  | act i s out hact =>
    have ⟨hkept, horigin⟩ := h.act i _ s out _ (hlocal i) hact
    constructor
    . intro j
      rcases eq_or_ne j i with rfl | hne
      . simpa [Net.act] using hkept
      . simpa [Net.act, hne] using hlocal j
    . intro m hm
      rcases List.mem_append.mp hm with hm | hm
      . exact hsent m hm
      . rcases List.mem_map.mp hm with ⟨body, hbody, rfl⟩
        exact horigin body hbody
  | outside m hm =>
    constructor
    . exact hlocal
    . intro m' hm'
      rcases List.mem_append.mp hm' with hm' | hm'
      . exact hsent m' hm'
      . rw [List.mem_singleton] at hm'
        rw [hm']
        exact h.outside m hm
  | deliver i m hm hhears =>
    constructor
    . intro j
      rcases eq_or_ne j i with rfl | hne
      . simpa [Net.deliver] using h.deliver j _ _ m (hlocal j) (hsent m hm) hhears
      . simpa [Net.deliver, hne] using hlocal j
    . exact hsent

theorem Rely.reachable (h : Rely p Local Origin) {net net' : Net ι σ μ}
    (hsound : Sound Local Origin net) (hreach : Reachable p net net')
    : Sound Local Origin net' := by
  induction hreach with
  | refl => exact hsound
  | tail _ hstep ih => exact h.step ih hstep

theorem Step.delivered_subset {net net' : Net ι σ μ} (hstep : Step p net net') (i : ι)
    : net.delivered i ⊆ net'.delivered i := by
  cases hstep with
  | act => apply List.Subset.refl
  | outside => apply List.Subset.refl
  | deliver j m =>
    rcases eq_or_ne i j with rfl | hne
    . simp [Net.deliver]
    . simp [Net.deliver, hne]

theorem delivered_subset {net net' : Net ι σ μ} (hreach : Reachable p net net') (i : ι)
    : net.delivered i ⊆ net'.delivered i := by
  induction hreach with
  | refl => apply List.Subset.refl
  | tail _ hstep ih => exact List.Subset.trans ih (hstep.delivered_subset i)

/-
A run of a node takes place in every net that has sent what it receives. All others keep their states.
-/
theorem Run.reachable {net : Net ι σ μ} {i : ι} {s s' : σ} {received published : List μ}
    (hrun : Run p s received published s') (hnode : net.node i = s)
    (hsent : ∀ m ∈ received, ∃ publisher, ⟨publisher, m⟩ ∈ net.sent)
    : ∃ net', Reachable p net net' ∧ net'.node = Function.update net.node i s' ∧
        net'.sent = net.sent ++ published.map fun m => ⟨some i, m⟩ := by
  induction hrun with
  | nil =>
    refine ⟨net, .refl, ?_, ?_⟩
    . rw [← hnode, Function.update_eq_self]
    . simp
  | @act _ s'' _ _ out _ hact ih =>
    rcases ih hsent with ⟨net', hreach, hnet', hsent'⟩
    refine ⟨net'.act i s'' out, ?_, ?_, ?_⟩
    . apply hreach.tail
      apply Step.act
      rw [hnet', Function.update_self]
      exact hact
    . simp [Net.act, hnet']
    . simp [Net.act, hsent']
  | @receive _ earlier _ m _ hhears ih =>
    have hearlier : ∀ m' ∈ earlier, ∃ publisher, ⟨publisher, m'⟩ ∈ net.sent := by
      intro m' hm'
      exact hsent m' (List.mem_append_left _ hm')
    rcases ih hearlier with ⟨net', hreach, hnet', hsent'⟩
    rcases hsent m (by simp) with ⟨publisher, hm⟩
    refine ⟨net'.deliver p i ⟨publisher, m⟩, ?_, ?_, ?_⟩
    . apply hreach.tail
      apply Step.deliver
      . rw [hsent']
        exact List.mem_append_left _ hm
      . rw [hnet', Function.update_self]
        exact hhears
    . simp [Net.deliver, hnet']
    . exact hsent'

end PubSub
