import MaltbeeController.McsEsp32.Impl.CommandLineParser

/-!
This module contains the theory of the command line parser: its tokens are the words of the line, and
what becomes of a line that is put together from a verb and a text.
-/

namespace Maltbee

namespace CommandLineParser

open Words

-- The text is, but for the white space around it, a decimal numeral with a value that an `int` can hold.
def DecimalInt (text : Str) (v : Int) : Prop :=
  Decimal.Numeral (trim text) v ∧ INT_MIN ≤ v ∧ v ≤ INT_MAX

theorem tokenize_eq (line : Str) : tokenize line = words line := by
  unfold tokenize
  rw [extractAll_eq]
  omega

theorem parseInt_eq_some_iff {w : Str} (hw : IsWord w) (v : Int)
    : parseInt w = some v ↔ Decimal.Numeral w v ∧ INT_MIN ≤ v ∧ v ≤ INT_MAX := by
  have hne : ¬w.isEmpty := by
    simpa using hw.1
  unfold parseInt stoi
  rw [if_neg hne]
  rw [dropWhile_of_forall hw.2]
  rw [← Decimal.readInt_eq_some_nil_iff]
  cases hread : Decimal.readInt w with
  | none => simp
  | some res =>
    rcases res with ⟨value, rest⟩
    simp only [Option.bind_eq_bind, Option.bind_some]
    by_cases hrange : value < INT_MIN ∨ value > INT_MAX
    . simp only [hrange, ↓reduceIte, reduceCtorEq, Option.some.injEq, Prod.mk.injEq, false_iff]
      omega
    . simp only [hrange, ↓reduceIte]
      by_cases hrest : rest = []
      . simp only [hrest, ne_eq, not_true_eq_false, ↓reduceIte, Option.some.injEq, Prod.mk.injEq,
          and_true]
        omega
      . simp [hrest]

theorem decimalInt_iff (text : Str) (v : Int)
    : DecimalInt text v ↔ ∃ w, words text = [w] ∧ parseInt w = some v := by
  constructor
  . intro h
    have hw := Decimal.isWord_of_numeral h.1
    refine ⟨trim text, ?_, ?_⟩
    . rw [words_eq_singleton_iff]
      exact ⟨rfl, hw⟩
    . rw [parseInt_eq_some_iff hw]
      exact h
  . intro ⟨w, hwords, hparse⟩
    rw [words_eq_singleton_iff] at hwords
    rw [parseInt_eq_some_iff hwords.2] at hparse
    unfold DecimalInt
    rw [hwords.1]
    exact hparse

theorem parseInt_of_words {text w : Str} (h : words text = [w]) (v : Int)
    : parseInt w = some v ↔ DecimalInt text v := by
  rw [decimalInt_iff]
  simp [h]

theorem decimalInt_unique {text : Str} {v v' : Int} (h : DecimalInt text v)
    (h' : DecimalInt text v')
    : v = v' := by
  rw [decimalInt_iff] at h h'
  rcases h with ⟨w, hwords, hparse⟩
  rcases h' with ⟨w', hwords', hparse'⟩
  rw [hwords] at hwords'
  simp only [List.cons.injEq, and_true] at hwords'
  rw [hwords'] at hparse
  rw [hparse] at hparse'
  simpa using hparse'

theorem decimalInt_of_isWord {w : Str} (hw : IsWord w) (v : Int)
    : DecimalInt w v ↔ parseInt w = some v := by
  rw [parseInt_of_words (words_of_isWord hw)]

theorem parseInt_to_string {v : Int} (hmin : INT_MIN ≤ v) (hmax : v ≤ INT_MAX)
    : parseInt (to_string v) = some v := by
  have hnumeral := Decimal.numeral_print v
  rw [to_string]
  rw [parseInt_eq_some_iff (Decimal.isWord_of_numeral hnumeral)]
  exact ⟨hnumeral, hmin, hmax⟩

theorem parse_id_cases (text : Str)
    : (∃ v, DecimalInt text v ∧
          parse ("id ".toList ++ text) = { kind := .Id, intArg := v }) ∨
        ((∀ v, ¬DecimalInt text v) ∧ ∃ m, parse ("id ".toList ++ text) = invalid m) := by
  have htokens : tokenize ("id ".toList ++ text) = "id".toList :: words text := by
    rw [tokenize_eq]
    apply words_word_append_space (w := "id".toList) (c := ' ') (by decide) text (by decide)
  have hparse : parse ("id ".toList ++ text) = parseId ("id".toList :: words text) := by
    unfold parse
    rw [htokens]
    rfl
  rw [hparse]
  unfold parseId
  split
  . next w heq =>
    simp only [List.cons.injEq] at heq
    split
    . next hnone =>
      right
      refine ⟨?_, _, rfl⟩
      intro v hv
      rw [← parseInt_of_words heq.2] at hv
      rw [hv] at hnone
      contradiction
    . next v hsome =>
      left
      refine ⟨v, ?_, rfl⟩
      rwa [← parseInt_of_words heq.2]
  . next hshape =>
    right
    refine ⟨?_, _, rfl⟩
    intro v hv
    rw [decimalInt_iff] at hv
    rcases hv with ⟨w, hwords, _⟩
    exact hshape _ w (by rw [hwords])

theorem parse_broker_cases (host port : Str)
    : (∃ h p v, words host ++ words port = [h, p] ∧ parseInt p = some v ∧
          parse ("broker ".toList ++ host ++ " ".toList ++ port) =
            { kind := .Broker, stringArg1 := h, intArg2 := v }) ∨
        ((∀ h p v, words host ++ words port = [h, p] → parseInt p ≠ some v) ∧
          ∃ m, parse ("broker ".toList ++ host ++ " ".toList ++ port) = invalid m) := by
  have htokens : tokenize ("broker ".toList ++ host ++ " ".toList ++ port)
      = "broker".toList :: (words host ++ words port) := by
    rw [tokenize_eq]
    rw [List.append_assoc]
    rw [List.append_assoc]
    rw [← words_append_space host port (c := ' ') (by decide)]
    apply words_word_append_space (w := "broker".toList) (c := ' ') (by decide) _ (by decide)
  have hparse : parse ("broker ".toList ++ host ++ " ".toList ++ port)
      = parseBroker ("broker".toList :: (words host ++ words port)) := by
    unfold parse
    rw [htokens]
    rfl
  rw [hparse]
  unfold parseBroker
  split
  . next h p heq =>
    simp only [List.cons.injEq] at heq
    split
    . next hnone =>
      right
      refine ⟨?_, _, rfl⟩
      intro h' p' v hwords
      rw [hwords] at heq
      simp only [List.cons.injEq, and_true] at heq
      rw [heq.2.2]
      rw [hnone]
      simp
    . next v hsome =>
      left
      exact ⟨h, p, v, heq.2, hsome, rfl⟩
  . next hshape =>
    right
    refine ⟨?_, _, rfl⟩
    intro h p v hwords
    exact (hshape _ h p (by rw [hwords])).elim

theorem parse_turnout_cases {channel : Int} (hmin : INT_MIN ≤ channel) (hmax : channel ≤ INT_MAX)
    (text : Str)
    : (∃ v, DecimalInt text v ∧
          parse ("turnout ".toList ++ to_string channel ++ " address ".toList ++ text) =
            { kind := .TurnoutAddress, intArg := channel, intArg2 := v }) ∨
        ((∀ v, ¬DecimalInt text v) ∧
          ∃ m, parse ("turnout ".toList ++ to_string channel ++ " address ".toList ++ text) =
            invalid m) := by
  have hchannel : IsWord (to_string channel) :=
    Decimal.isWord_of_numeral (Decimal.numeral_print channel)
  have htokens : tokenize ("turnout ".toList ++ to_string channel ++ " address ".toList ++ text)
      = "turnout".toList :: to_string channel :: "address".toList :: words text := by
    rw [tokenize_eq]
    rw [List.append_assoc]
    rw [List.append_assoc]
    have haddress : words ("address ".toList ++ text) = "address".toList :: words text :=
      words_word_append_space (w := "address".toList) (c := ' ') (by decide) text (by decide)
    rw [← haddress]
    rw [← words_word_append_space hchannel _ (c := ' ') (by decide)]
    apply words_word_append_space (w := "turnout".toList) (c := ' ') (by decide) _ (by decide)
  have hparse : parse ("turnout ".toList ++ to_string channel ++ " address ".toList ++ text)
      = parseTurnout ("turnout".toList :: to_string channel :: "address".toList :: words text) := by
    unfold parse
    rw [htokens]
    rfl
  rw [hparse]
  unfold parseTurnout
  split
  . next n word m heq =>
    simp only [List.cons.injEq] at heq
    rcases heq with ⟨_, hn, hword, hwords⟩
    rw [if_neg (by simp [← hword])]
    rw [← hn]
    rw [parseInt_to_string hmin hmax]
    dsimp only
    split
    . next hnone =>
      right
      refine ⟨?_, _, rfl⟩
      intro v hv
      rw [← parseInt_of_words hwords] at hv
      rw [hv] at hnone
      contradiction
    . next v hsome =>
      left
      refine ⟨v, ?_, rfl⟩
      rwa [← parseInt_of_words hwords]
  . next hshape =>
    right
    refine ⟨?_, _, rfl⟩
    intro v hv
    rw [decimalInt_iff] at hv
    rcases hv with ⟨w, hwords, _⟩
    exact hshape _ _ _ w (by rw [hwords])

theorem parse_save : parse "save".toList = { kind := .Save } := by
  decide

theorem parse_reboot : parse "reboot".toList = { kind := .Reboot } := by
  decide

end CommandLineParser

end Maltbee
