import MaltbeeController.McsEsp32.Lemmas.CommandLineParser

/-!
This module contains the grammar of the command lines of an ESP32 node, and the proof that the parser
takes exactly the lines of this grammar and reads back what is printed.
-/

namespace Maltbee

open Words CommandLineParser

inductive Command where
  | Id (n : Int)
  | Wifi (ssid password : Str)
  | Broker (host : Str) (port : Int)
  | TurnoutAddress (channel address : Int)
  | Show
  | Save
  | Reboot
  deriving DecidableEq, Repr

namespace Command

def parsed (c : Command) : ParsedCommand :=
  match c with
  | .Id n => { kind := .Id, intArg := n }
  | .Wifi ssid password => { kind := .Wifi, stringArg1 := ssid, stringArg2 := password }
  | .Broker host port => { kind := .Broker, stringArg1 := host, intArg2 := port }
  | .TurnoutAddress channel address => { kind := .TurnoutAddress, intArg := channel, intArg2 := address }
  | .Show => { kind := .Show }
  | .Save => { kind := .Save }
  | .Reboot => { kind := .Reboot }

def tokens (c : Command) : List Str :=
  match c with
  | .Id n => ["id".toList, to_string n]
  | .Wifi ssid password => ["wifi".toList, ssid, password]
  | .Broker host port => ["broker".toList, host, to_string port]
  | .TurnoutAddress channel address =>
    ["turnout".toList, to_string channel, "address".toList, to_string address]
  | .Show => ["show".toList]
  | .Save => ["save".toList]
  | .Reboot => ["reboot".toList]

def IsInt (v : Int) : Prop :=
  INT_MIN ≤ v ∧ v ≤ INT_MAX

-- The integers are values of an `int`, and the strings can stand as one token.
def Printable (c : Command) : Prop :=
  match c with
  | .Id n => IsInt n
  | .Wifi ssid password => IsWord ssid ∧ IsWord password
  | .Broker host port => IsWord host ∧ IsInt port
  | .TurnoutAddress channel address => IsInt channel ∧ IsInt address
  | .Show | .Save | .Reboot => True

def IntToken (w : Str) (v : Int) : Prop :=
  Decimal.Numeral w v ∧ IsInt v

inductive Form : List Str → Command → Prop where
  | Id {w : Str} {n : Int} (hn : IntToken w n) : Form ["id".toList, w] (.Id n)
  | Wifi {ssid password : Str} : Form ["wifi".toList, ssid, password] (.Wifi ssid password)
  | Broker {host w : Str} {port : Int} (hport : IntToken w port)
      : Form ["broker".toList, host, w] (.Broker host port)
  | TurnoutAddress {w w' : Str} {channel address : Int} (hchannel : IntToken w channel)
      (haddress : IntToken w' address)
      : Form ["turnout".toList, w, "address".toList, w'] (.TurnoutAddress channel address)
  | Show : Form ["show".toList] .Show
  | Save : Form ["save".toList] .Save
  | Reboot : Form ["reboot".toList] .Reboot

def Settles (tokens : List Str) (res : ParsedCommand) : Prop :=
  (∃ c, Form tokens c ∧ res = c.parsed)
    ∨
  ((∀ c, ¬Form tokens c) ∧ ∃ message, message ≠ [] ∧ res = invalid message)

theorem kind_parsed (c : Command) : c.parsed.kind ≠ .Invalid := by
  cases c <;> simp [parsed]

theorem intToken_iff {w : Str} (hw : IsWord w) (v : Int) : IntToken w v ↔ parseInt w = some v := by
  rw [parseInt_eq_some_iff hw]
  rfl

theorem Settles.form {tokens : List Str} {c : Command} (h : Form tokens c)
    : Settles tokens c.parsed :=
  .inl ⟨c, h, rfl⟩

theorem Settles.none {tokens : List Str} {message : Str} (h : ∀ c, ¬Form tokens c)
    (hmessage : message ≠ [])
    : Settles tokens (invalid message) :=
  .inr ⟨h, message, hmessage, rfl⟩

theorem not_intToken {w : Str} (hw : IsWord w) (h : parseInt w = none) (v : Int) : ¬IntToken w v := by
  rw [intToken_iff hw, h]
  simp

theorem Settles.int {tokens : List Str} {w message : Str} {command : Int → Command} (hw : IsWord w)
    (hform : ∀ v, IntToken w v → Form tokens (command v))
    (hnumber : ∀ c, Form tokens c → ∃ v, IntToken w v) (hmessage : message ≠ [])
    : Settles tokens
        (match parseInt w with
        | .none => invalid message
        | some v => (command v).parsed) := by
  split
  . next hnone =>
    apply Settles.none _ hmessage
    intro c hc
    rcases hnumber c hc with ⟨v, hv⟩
    exact not_intToken hw hnone v hv
  . next v hsome => exact .form (hform v ((intToken_iff hw v).mpr hsome))

section Inversion

-- What a verb says about the form. All that there is to do about the other six is to tell it from theirs.
variable {args : List Str} {c : Command}

theorem form_id (h : Form ("id".toList :: args) c)
    : ∃ w n, args = [w] ∧ c = .Id n ∧ IntToken w n := by
  generalize hverb : "id".toList = verb at h
  cases h with
  | Id hn => exact ⟨_, _, rfl, rfl, hn⟩
  | _ => simp at hverb

theorem form_wifi (h : Form ("wifi".toList :: args) c)
    : ∃ ssid password, args = [ssid, password] ∧ c = .Wifi ssid password := by
  generalize hverb : "wifi".toList = verb at h
  cases h with
  | Wifi => exact ⟨_, _, rfl, rfl⟩
  | _ => simp at hverb

theorem form_broker (h : Form ("broker".toList :: args) c)
    : ∃ host w port, args = [host, w] ∧ c = .Broker host port ∧ IntToken w port := by
  generalize hverb : "broker".toList = verb at h
  cases h with
  | Broker hport => exact ⟨_, _, _, rfl, rfl, hport⟩
  | _ => simp at hverb

theorem form_turnout (h : Form ("turnout".toList :: args) c)
    : ∃ w w' channel address, args = [w, "address".toList, w'] ∧ c = .TurnoutAddress channel address ∧
        IntToken w channel ∧ IntToken w' address := by
  generalize hverb : "turnout".toList = verb at h
  cases h with
  | TurnoutAddress hchannel haddress => exact ⟨_, _, _, _, rfl, rfl, hchannel, haddress⟩
  | _ => simp at hverb

theorem form_show (h : Form ("show".toList :: args) c) : args = [] ∧ c = .Show := by
  generalize hverb : "show".toList = verb at h
  cases h with
  | Show => exact ⟨rfl, rfl⟩
  | _ => simp at hverb

theorem form_save (h : Form ("save".toList :: args) c) : args = [] ∧ c = .Save := by
  generalize hverb : "save".toList = verb at h
  cases h with
  | Save => exact ⟨rfl, rfl⟩
  | _ => simp at hverb

theorem form_reboot (h : Form ("reboot".toList :: args) c) : args = [] ∧ c = .Reboot := by
  generalize hverb : "reboot".toList = verb at h
  cases h with
  | Reboot => exact ⟨rfl, rfl⟩
  | _ => simp at hverb

end Inversion

theorem intToken_unique {w : Str} {v v' : Int} (hv : IntToken w v) (hv' : IntToken w v') : v = v' := by
  have hread := (Decimal.readInt_eq_some_nil_iff w v).mpr hv.1
  rw [(Decimal.readInt_eq_some_nil_iff w v').mpr hv'.1] at hread
  simpa [eq_comm] using hread

theorem form_unique {tokens : List Str} {c c' : Command} (h : Form tokens c) (h' : Form tokens c')
    : c = c' := by
  cases h with
  | Id h =>
    rcases form_id h' with ⟨w, n, hargs, rfl, hn⟩
    rw [List.singleton_inj] at hargs
    rw [hargs] at h
    rw [intToken_unique h hn]
  | Wifi =>
    rcases form_wifi h' with ⟨ssid, password, hargs, rfl⟩
    rw [List.cons.injEq, List.singleton_inj] at hargs
    rw [hargs.1, hargs.2]
  | Broker h =>
    rcases form_broker h' with ⟨host, w, port, hargs, rfl, hport⟩
    rw [List.cons.injEq, List.singleton_inj] at hargs
    rw [hargs.2] at h
    rw [hargs.1, intToken_unique h hport]
  | TurnoutAddress h₁ h₂ =>
    rcases form_turnout h' with ⟨w, w', channel, address, hargs, rfl, hchannel, haddress⟩
    rw [List.cons.injEq, List.cons.injEq, List.singleton_inj] at hargs
    rw [hargs.1] at h₁
    rw [hargs.2.2] at h₂
    rw [intToken_unique h₁ hchannel, intToken_unique h₂ haddress]
  | Show => rw [(form_show h').2]
  | Save => rw [(form_save h').2]
  | Reboot => rw [(form_reboot h').2]

theorem parseId_settles {args : List Str} (hargs : ∀ w ∈ args, IsWord w)
    : Settles ("id".toList :: args) (parseId ("id".toList :: args)) := by
  unfold parseId
  split
  . next n heq =>
    rw [List.cons.injEq] at heq
    rw [heq.2] at hargs ⊢
    apply @Settles.int _ _ _ .Id (hargs n (by simp))
    . intro v hv
      exact .Id hv
    . intro c hform
      rcases form_id hform with ⟨w, v, hw, _, h⟩
      rw [List.singleton_inj] at hw
      rw [hw]
      exact ⟨v, h⟩
    . decide
  . next hshape =>
    apply Settles.none _ (by decide)
    intro c hform
    rcases form_id hform with ⟨w, v, rfl, _⟩
    exact hshape _ _ rfl

theorem parseWifi_settles (args : List Str)
    : Settles ("wifi".toList :: args) (parseWifi ("wifi".toList :: args)) := by
  unfold parseWifi
  split
  . next ssid password heq =>
    rw [List.cons.injEq] at heq
    rw [heq.2]
    exact .form .Wifi
  . next hshape =>
    apply Settles.none _ (by decide)
    intro c hform
    rcases form_wifi hform with ⟨ssid, password, rfl, _⟩
    exact hshape _ _ _ rfl

theorem parseBroker_settles {args : List Str} (hargs : ∀ w ∈ args, IsWord w)
    : Settles ("broker".toList :: args) (parseBroker ("broker".toList :: args)) := by
  unfold parseBroker
  split
  . next host n heq =>
    rw [List.cons.injEq] at heq
    rw [heq.2] at hargs ⊢
    apply @Settles.int _ _ _ (.Broker host) (hargs n (by simp))
    . intro v hv
      exact .Broker hv
    . intro c hform
      rcases form_broker hform with ⟨host', w, v, hw, _, h⟩
      rw [List.cons.injEq, List.singleton_inj] at hw
      rw [hw.2]
      exact ⟨v, h⟩
    . decide
  . next hshape =>
    apply Settles.none _ (by decide)
    intro c hform
    rcases form_broker hform with ⟨host, w, v, rfl, _⟩
    exact hshape _ _ _ rfl

theorem parseTurnout_settles {args : List Str} (hargs : ∀ w ∈ args, IsWord w)
    : Settles ("turnout".toList :: args) (parseTurnout ("turnout".toList :: args)) := by
  unfold parseTurnout
  split
  . next n word m heq =>
    rw [List.cons.injEq] at heq
    rw [heq.2] at hargs ⊢
    have hn : IsWord n := hargs n (by simp)
    have hm : IsWord m := hargs m (by simp)
    split
    . next hword =>
      apply Settles.none _ (by decide)
      intro c hform
      rcases form_turnout hform with ⟨w, w', v, v', hw, _⟩
      rw [List.cons.injEq, List.cons.injEq] at hw
      exact hword hw.2.1
    . next hword =>
      rw [ne_eq, Decidable.not_not] at hword
      subst hword
      split
      . next hnone =>
        apply Settles.none _ (by decide)
        intro c hform
        rcases form_turnout hform with ⟨w, w', v, v', hw, _, h, _⟩
        rw [List.cons.injEq] at hw
        rw [← hw.1] at h
        exact not_intToken hn hnone v h
      . next channel hchannel =>
        apply @Settles.int _ _ _ (.TurnoutAddress channel) hm
        . intro address haddress
          exact .TurnoutAddress ((intToken_iff hn channel).mpr hchannel) haddress
        . intro c hform
          rcases form_turnout hform with ⟨w, w', v, v', hw, _, _, h⟩
          rw [List.cons.injEq, List.cons.injEq, List.singleton_inj] at hw
          rw [hw.2.2]
          exact ⟨v', h⟩
        . decide
  . next hshape =>
    apply Settles.none _ (by decide)
    intro c hform
    rcases form_turnout hform with ⟨w, w', v, v', rfl, _⟩
    exact hshape _ _ _ _ rfl

theorem parseBare_settles {verb usage : Str} {c : Command} (args : List Str) (hform : Form [verb] c)
    (hparsed : c.parsed = { kind := c.parsed.kind }) (husage : usage ≠ [])
    (hbare : ∀ c, Form (verb :: args) c → args = [])
    : Settles (verb :: args) (parseBare c.parsed.kind usage (verb :: args)) := by
  unfold parseBare
  split
  . next hlength =>
    apply Settles.none _ husage
    intro c' h
    apply hlength
    rw [hbare c' h]
    rfl
  . next hlength =>
    rw [ne_eq, Decidable.not_not, List.length_cons, Nat.add_eq_right, List.length_eq_zero_iff]
      at hlength
    rw [hlength, ← hparsed]
    exact .form hform

theorem parse_settles (line : Str) : Settles (words line) (parse line) := by
  have hwords : ∀ w ∈ words line, IsWord w := fun w hw => isWord_of_mem hw
  unfold parse
  rw [tokenize_eq]
  cases hline : words line with
  | nil =>
    apply Settles.none _ (by decide)
    intro c hform
    cases hform
  | cons verb args =>
    rw [hline] at hwords
    have hargs := fun w hw => hwords w (List.mem_cons_of_mem verb hw)
    dsimp only
    split
    . next h =>
      subst h
      exact parseId_settles hargs
    . split
      . next h =>
        subst h
        exact parseWifi_settles args
      . split
        . next h =>
          subst h
          exact parseBroker_settles hargs
        . split
          . next h =>
            subst h
            exact parseTurnout_settles hargs
          . split
            . next h =>
              subst h
              apply parseBare_settles args .Show rfl (by decide)
              intro c hform
              exact (form_show hform).1
            . split
              . next h =>
                subst h
                apply parseBare_settles args .Save rfl (by decide)
                intro c hform
                exact (form_save hform).1
              . split
                . next h =>
                  subst h
                  apply parseBare_settles args .Reboot rfl (by decide)
                  intro c hform
                  exact (form_reboot hform).1
                . next hid hwifi hbroker hturnout hshow hsave hreboot =>
                  apply Settles.none
                  . intro c hform
                    cases hform with
                    | Id => exact hid rfl
                    | Wifi => exact hwifi rfl
                    | Broker => exact hbroker rfl
                    | TurnoutAddress => exact hturnout rfl
                    | Show => exact hshow rfl
                    | Save => exact hsave rfl
                    | Reboot => exact hreboot rfl
                  . simp

theorem tokens_form {c : Command} (h : Printable c) : Form c.tokens c := by
  have hint {v : Int} (hv : IsInt v) : IntToken (to_string v) v := ⟨Decimal.numeral_print v, hv⟩
  cases c with
  | Id n => exact .Id (hint h)
  | Wifi ssid password => exact .Wifi
  | Broker host port => exact .Broker (hint h.2)
  | TurnoutAddress channel address => exact .TurnoutAddress (hint h.1) (hint h.2)
  | Show => exact .Show
  | Save => exact .Save
  | Reboot => exact .Reboot

theorem isWord_of_tokens {c : Command} (h : Printable c) : ∀ w ∈ c.tokens, IsWord w := by
  have hint (v : Int) : IsWord (to_string v) := Decimal.isWord_of_numeral (Decimal.numeral_print v)
  cases c with
  | Id n => simp [tokens, hint]; decide
  | Wifi ssid password => simp [tokens, h.1, h.2]; decide
  | Broker host port => simp [tokens, h.1, hint]; decide
  | TurnoutAddress channel address => simp [tokens, hint]; decide
  | Show => simp [tokens]; decide
  | Save => simp [tokens]; decide
  | Reboot => simp [tokens]; decide

/-
What the parser makes of the lines of the grammar, of all others, and of what is printed with any white
space around the tokens.
-/
structure ParsesGrammar : Prop where
  tokens : ∀ line line', words line = words line' → parse line = parse line'
  accepts : ∀ line, (parse line).kind ≠ .Invalid ↔ ∃ c, Form (words line) c
  values : ∀ line c, Form (words line) c → parse line = c.parsed
  rejects : ∀ line, (parse line).kind = .Invalid →
    ∃ message, message ≠ [] ∧ parse line = invalid message
  prints : ∀ c line, Printable c → Layout c.tokens line → parse line = c.parsed

/--
The parser takes the seven forms of the grammar and nothing else, and it reads back every command that is
printed.
-/
theorem parses_grammar : ParsesGrammar := by
  have hvalues : ∀ line c, Form (words line) c → parse line = c.parsed := by
    intro line c hform
    rcases parse_settles line with ⟨c', hform', hparse⟩ | ⟨hnone, _⟩
    . rw [hparse, form_unique hform hform']
    . exact (hnone c hform).elim
  constructor
  . intro line line' hwords
    unfold parse
    rw [tokenize_eq, tokenize_eq, hwords]
  . intro line
    constructor
    . intro hkind
      rcases parse_settles line with ⟨c, hform, _⟩ | ⟨_, message, _, hparse⟩
      . exact ⟨c, hform⟩
      . rw [hparse] at hkind
        exact (hkind rfl).elim
    . intro ⟨c, hform⟩
      rw [hvalues line c hform]
      exact kind_parsed c
  . exact hvalues
  . intro line hkind
    rcases parse_settles line with ⟨c, _, hparse⟩ | ⟨_, hinvalid⟩
    . rw [hparse] at hkind
      exact (kind_parsed c hkind).elim
    . exact hinvalid
  . intro c line hprintable hlayout
    apply hvalues
    rw [words_of_layout (isWord_of_tokens hprintable) hlayout]
    exact tokens_form hprintable

example : parse " turnout\t02 address +0512 ".toList = (Command.TurnoutAddress 2 512).parsed := by
  decide

end Command

end Maltbee
