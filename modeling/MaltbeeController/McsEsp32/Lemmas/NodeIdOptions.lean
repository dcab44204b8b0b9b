import MaltbeeController.McsEsp32.Impl.SerialCommissioningAdapter
import MaltbeeController.McsEsp32.Lemmas.CommandGrammar
import MaltbeeController.McsEsp32.Lemmas.SetupFormRenderer
import MaltbeeController.McsEsp32.Lemmas.WebFormCommissioningAdapter

/-!
This module contains what the list of node ids on the setup page offers, and when the page that is shown
over a run of commissioning commands has the node's own id selected in it.
-/

namespace Maltbee

open StepRun Html

variable {N : Nat}

namespace SetupFormRenderer

def placeholderTag : Tag where
  name := "option".toList
  attributes :=
    [("value".toList, []), ("disabled".toList, []), ("selected".toList, []), ("hidden".toList, [])]

def idOptions (selectedId : Str) : List Tag :=
  (if selectedId.isEmpty then [placeholderTag] else []) ++ nodeIds.map (idOptionTag · selectedId)

def optionTags (selectedId : Str) : List Tag :=
  (if selectedId.isEmpty then [placeholderTag, ⟨"/option".toList, []⟩] else []) ++
    nodeIds.flatMap fun i => [idOptionTag i selectedId, ⟨"/option".toList, []⟩]

theorem run_placeholder (selectedId : Str)
    : run readTag .text
        (if selectedId.isEmpty then
          "<option value='' disabled selected hidden>-- select --</option>".toList
        else
          [])
        =
      (
        .text,
        if selectedId.isEmpty then [placeholderTag, ⟨"/option".toList, []⟩] else []
      ) := by
  split
  . decide +kernel
  . rfl

theorem run_renderIdOptions (selectedId : Str)
    : run readTag .text (renderIdOptions selectedId) = (.text, optionTags selectedId) := by
  unfold renderIdOptions
  apply run_trans _ (run_placeholder selectedId)
  apply run_flatMap
  intro i
  have hnumber := (to_string_clear i).1
  have := run_option hnumber (run_idOption_closing i selectedId) hnumber
  simpa only [List.append_assoc] using this

theorem filter_optionTags (selectedId : Str)
    : (optionTags selectedId).filter (·.name = "option".toList) = idOptions selectedId := by
  have hids : (nodeIds.flatMap fun i => [idOptionTag i selectedId, ⟨"/option".toList, []⟩]).filter
        (·.name = "option".toList)
      =
    nodeIds.map (idOptionTag · selectedId) := by
    rw [List.filter_flatMap, List.map_eq_flatMap]
    rfl
  unfold optionTags idOptions
  rw [List.filter_append, hids]
  split
  . rfl
  . rfl

theorem name_ne_of_mem_optionTags {selectedId : Str}
    : ∀ tag ∈ optionTags selectedId, tag.name ≠ "/select".toList := by
  intro tag htag
  have hname : tag.name = "option".toList ∨ tag.name = "/option".toList := by
    unfold optionTags at htag
    rw [List.mem_append, List.mem_flatMap] at htag
    rcases htag with htag | ⟨i, _, htag⟩
    . split at htag
      . rw [List.mem_pair] at htag
        rcases htag with rfl | rfl
        . left; rfl
        . right; rfl
      . contradiction
    . rw [List.mem_pair] at htag
      rcases htag with rfl | rfl
      . left; rfl
      . right; rfl
  rcases hname with h | h
  . rw [h]
    decide
  . rw [h]
    decide

def idField (selectedId : Str) : Str :=
  "<label>Node ID</label><select name='id'>".toList ++ renderIdOptions selectedId ++
    "</select>".toList

theorem prefix_render (values : BasicWebFormSubmission N) (networks : List ScannedNetwork)
    : pageHead ++ idField values.nodeId <+: render values networks := by
  unfold render
  iterate 14 refine List.IsPrefix.trans ?_ (List.prefix_append _ _)
  exact List.prefix_rfl

def selectTag : Tag where
  name := "select".toList
  attributes := [("name".toList, "id".toList)]

theorem run_idField (selectedId : Str)
    : run readTag .text (idField selectedId)
        =
      (
        .text,
        [⟨"label".toList, []⟩, ⟨"/label".toList, []⟩, selectTag] ++ optionTags selectedId ++
          [⟨"/select".toList, []⟩]
      ) := by
  have hselect : run readTag .text "<label>Node ID</label><select name='id'>".toList
      =
    (.text, [⟨"label".toList, []⟩, ⟨"/label".toList, []⟩, selectTag]) := by
    decide +kernel
  have hclosed : run readTag .text "</select>".toList = (.text, [⟨"/select".toList, []⟩]) := by
    decide +kernel
  exact run_trans _ (run_trans _ hselect (run_renderIdOptions selectedId)) hclosed

theorem tags_render (values : BasicWebFormSubmission N) (networks : List ScannedNetwork)
    : ∃ after, tags (render values networks)
        =
      tags pageHead ++ [⟨"label".toList, []⟩, ⟨"/label".toList, []⟩] ++
        (selectTag :: optionTags values.nodeId ++ (⟨"/select".toList, []⟩ :: after)) := by
  rcases prefix_render values networks with ⟨tail, hrender⟩
  refine ⟨tags tail, ?_⟩
  rw [← hrender]
  rw [tags_append (run_trans _ part_pageHead.run_eq (run_idField values.nodeId))]
  simp only [List.append_assoc, List.cons_append, List.nil_append]

theorem optionsOf_render (values : BasicWebFormSubmission N) (networks : List ScannedNetwork)
    : optionsOf "id".toList (tags (render values networks)) = idOptions values.nodeId := by
  rcases tags_render values networks with ⟨after, htags⟩
  rw [htags, optionsOf_eq]
  . apply filter_optionTags
  . intro tag htag
    rw [List.mem_append, List.mem_pair] at htag
    rcases htag with htag | rfl | rfl
    . exact not_isSelect_of_part part_pageHead _ tag htag
    . decide
    . decide
  . decide
  . exact name_ne_of_mem_optionTags

theorem has_selected_idOptionTag (i : Int) (selectedId : Str)
    : (idOptionTag i selectedId).has "selected".toList = decide (to_string i = selectedId) := by
  unfold idOptionTag
  by_cases h : to_string i = selectedId
  . simp only [h, if_true]
    rfl
  . simp only [h, if_false]
    rfl

theorem has_disabled_idOptionTag (i : Int) (selectedId : Str)
    : (idOptionTag i selectedId).has "disabled".toList = false := by
  unfold idOptionTag
  split
  . rfl
  . rfl

theorem attribute_value_idOptionTag (i : Int) (selectedId : Str)
    : (idOptionTag i selectedId).attribute "value".toList = some (to_string i) := by
  unfold idOptionTag Tag.attribute
  rw [List.lookup_cons_self, Option.map_some, unescape_eq_self (to_string_clear i).2]

theorem nodeIds_eq : nodeIds = (List.range 99).map fun (i : Nat) => 1 + (i : Int) := by
  rfl

theorem mem_nodeIds (id : Int) : id ∈ nodeIds ↔ 1 ≤ id ∧ id ≤ 99 := by
  rw [nodeIds_eq, List.mem_map]
  constructor
  . intro ⟨i, hi, heq⟩
    rw [List.mem_range] at hi
    omega
  . intro ⟨hmin, hmax⟩
    refine ⟨(id - 1).toNat, ?_, ?_⟩
    . rw [List.mem_range]
      omega
    . omega

theorem nodup_nodeIds : nodeIds.Nodup := by
  rw [nodeIds_eq]
  apply List.Nodup.map _ List.nodup_range
  intro i j h
  dsimp only at h
  omega

theorem to_string_ne_nil (v : Int) : to_string v ≠ [] := by
  have hword : Words.IsWord (to_string v) := Decimal.isWord_of_numeral (Decimal.numeral_print v)
  exact hword.1

theorem selectedOptions_idOptions (selectedId : Str)
    : selectedOptions (idOptions selectedId)
        =
      (if selectedId.isEmpty then [placeholderTag] else []) ++
        (nodeIds.filter (to_string · = selectedId)).map (idOptionTag · selectedId) := by
  unfold selectedOptions idOptions
  rw [List.filter_append, List.filter_map]
  congr 1
  . split
    . rfl
    . rfl
  . congr 2
    funext i
    exact has_selected_idOptionTag i selectedId

theorem selectedOptions_blank : selectedOptions (idOptions []) = [placeholderTag] := by
  have hnone : nodeIds.filter (to_string · = []) = [] := by
    rw [List.filter_eq_nil_iff]
    intro i _
    simpa using to_string_ne_nil i
  rw [selectedOptions_idOptions, hnone]
  rfl

theorem selectedOptions_to_string (id : Int)
    : selectedOptions (idOptions (to_string id))
        =
      if 1 ≤ id ∧ id ≤ 99 then [idOptionTag id (to_string id)] else [] := by
  have hsame : nodeIds.filter (to_string · = to_string id) = nodeIds.filter (· = id) := by
    congr 1
    funext i
    rw [decide_eq_decide]
    exact to_string_injective.eq_iff
  have hne : (to_string id).isEmpty = false := by
    rw [List.isEmpty_eq_false_iff]
    exact to_string_ne_nil id
  rw [selectedOptions_idOptions, hsame, hne, List.filter_eq]
  rw [if_neg Bool.false_ne_true, List.nil_append]
  split
  . next hmem =>
    rw [List.count_eq_one_of_mem nodup_nodeIds ((mem_nodeIds id).mpr hmem)]
    rfl
  . next hmem =>
    rw [List.count_eq_zero_of_not_mem (mt (mem_nodeIds id).mp hmem)]
    rfl

end SetupFormRenderer

/-
The list of node ids on the page that is shown: one option is selected in it, that of the node's own id or,
without an id, the disabled one in front. What is sent for a list that nobody touches is that id or nothing.
-/
structure OffersOwnId (session : BasicCommissioningSession N) (networks : List ScannedNetwork) : Prop where
  selected :
    let page := SetupFormRenderer.render
      (BasicWebFormCommissioningAdapter.currentValues session) networks
    (selectedOptions (optionsOf "id".toList (tags page))).map
        (fun tag => (tag.attribute "value".toList, tag.has "disabled".toList))
      = [if session.draft.nodeId = 0 then
          (some [], true)
        else
          (some (to_string session.draft.nodeId), false)]
  untouched :
    let page := SetupFormRenderer.render
      (BasicWebFormCommissioningAdapter.currentValues session) networks
    untouchedValue (optionsOf "id".toList (tags page))
      = if session.draft.nodeId = 0 then none else some (to_string session.draft.nodeId)

theorem untouchedValue_of_selected {options : List Tag} {tag : Tag}
    (h : selectedOptions options = [tag])
    : untouchedValue options
        =
      if tag.has "disabled".toList then none else tag.attribute "value".toList := by
  unfold untouchedValue
  rw [h]
  rfl

open SetupFormRenderer BasicWebFormCommissioningAdapter in
theorem offersOwnId_iff (session : BasicCommissioningSession N) (networks : List ScannedNetwork)
    : OffersOwnId session networks ↔ 0 ≤ session.draft.nodeId ∧ session.draft.nodeId ≤ 99 := by
  have hoptions := optionsOf_render (currentValues session) networks
  by_cases hset : session.draft.nodeId = 0
  . have hblank : (currentValues session).nodeId = [] := if_pos hset
    rw [hblank] at hoptions
    rw [iff_true_intro (show 0 ≤ session.draft.nodeId ∧ session.draft.nodeId ≤ 99 by omega), iff_true]
    constructor
    . dsimp only
      rw [hoptions, selectedOptions_blank, if_pos hset]
      decide
    . dsimp only
      rw [hoptions, untouchedValue_of_selected selectedOptions_blank, if_pos hset]
      decide
  . have hid : (currentValues session).nodeId = to_string session.draft.nodeId := if_neg hset
    rw [hid] at hoptions
    have hselected := selectedOptions_to_string session.draft.nodeId
    constructor
    . intro h
      have := h.selected
      dsimp only at this
      rw [hoptions, hselected] at this
      by_contra hrange
      rw [if_neg (by omega), List.map_nil] at this
      exact List.cons_ne_nil _ _ this.symm
    . intro hrange
      rw [if_pos (by omega)] at hselected
      have htag := has_disabled_idOptionTag session.draft.nodeId (to_string session.draft.nodeId)
      have hvalue :=
        attribute_value_idOptionTag session.draft.nodeId (to_string session.draft.nodeId)
      constructor
      . dsimp only
        rw [hoptions, hselected, List.map_singleton, htag, hvalue, if_neg hset]
      . dsimp only
        rw [hoptions, untouchedValue_of_selected hselected, htag, hvalue, if_neg hset]
        rfl

open CommandLineParser (parse)

def idOf (c : ParsedCommand) : Option Int :=
  if c.kind = .Id then some c.intArg else none

theorem idOf_parse {line verb : Str} {args : List Str} (hwords : Words.words line = verb :: args)
    (hverb : verb ≠ "id".toList)
    : idOf (parse line) = none := by
  unfold idOf
  apply if_neg
  intro hkind
  rcases Command.parse_settles line with ⟨c, hform, hparse⟩ | ⟨_, message, _, hparse⟩
  . rw [hparse] at hkind
    rw [hwords] at hform
    cases hform with
    | Id _ => exact hverb rfl
    | _ => contradiction
  . rw [hparse] at hkind
    contradiction

namespace BasicCommissioningSession

theorem nodeId_apply (s : BasicCommissioningSession N) (c : ParsedCommand)
    : (s.apply c).1.draft.nodeId = (idOf c).getD s.draft.nodeId := by
  unfold apply idOf
  cases hkind : c.kind with
  | Id => rfl
  | Wifi => rfl
  | Broker => rfl
  | TurnoutAddress =>
    dsimp only
    split
    . rfl
    . unfold BasicNodeConfig.withChannelAddress
      split
      . rfl
      . rfl
  | Show => rfl
  | Save =>
    dsimp only
    split
    . rfl
    . split
      . rfl
      . rfl
  | Reboot => rfl
  | Invalid => rfl

theorem storedId_apply {s : BasicCommissioningSession N}
    (h : 0 ≤ s.store.stored.nodeId ∧ s.store.stored.nodeId ≤ 99) (c : ParsedCommand)
    : 0 ≤ (s.apply c).1.store.stored.nodeId ∧ (s.apply c).1.store.stored.nodeId ≤ 99 := by
  rcases apply_store s c with hkept | ⟨hvalid, hsaved⟩
  . rw [hkept]
    exact h
  . rw [hsaved]
    unfold BasicConfigStore.save
    dsimp only
    split
    . have := ((BasicNodeConfig.validate_eq_nil_iff s.draft).mp hvalid).nodeId
      exact ⟨Int.le_trans (by decide) this.1, this.2⟩
    . exact h

end BasicCommissioningSession

namespace BasicWebFormCommissioningAdapter

variable {P : BasicCommissioningSession N → Prop} {s : BasicCommissioningSession N}

theorem submitChannels_induction (hstep : ∀ s c, idOf c = none → P s → P (s.apply c).1)
    (form : BasicWebFormSubmission N) (channels : List (Fin N)) (h : P s)
    : P (submitChannels form channels s).1 := by
  induction channels generalizing s with
  | nil => exact h
  | cons i channels ih =>
    have hcommand : idOf (channelCommand form i) = none := by
      unfold channelCommand
      rw [List.append_assoc, List.append_assoc]
      exact idOf_parse (Words.words_word_append_space (w := "turnout".toList) (c := ' ') (by decide) _
        (by decide)) (by decide)
    have hnext := hstep s _ hcommand h
    rw [submitChannels_cons]
    split
    . exact hnext
    . exact ih hnext

-- What the id of the form leads to is kept by the rest of the form.
theorem submit_induction (hstep : ∀ s c, idOf c = none → P s → P (s.apply c).1)
    (form : BasicWebFormSubmission N) (h : P (s.apply (parse ("id ".toList ++ form.nodeId))).1)
    : P (submit s form).1 := by
  have hbroker : idOf (parse ("broker ".toList ++ form.brokerHost ++ " ".toList ++ form.brokerPort))
      = none := by
    rw [List.append_assoc, List.append_assoc]
    exact idOf_parse (Words.words_word_append_space (w := "broker".toList) (c := ' ') (by decide) _
      (by decide)) (by decide)
  have hwifi (ssid password : Str) := hstep _ { kind := .Wifi, stringArg1 := ssid, stringArg2 := password }
    rfl h
  have hentered (ssid password : Str) := hstep _ _ hbroker (hwifi ssid password)
  have hchannels (ssid password : Str) :=
    submitChannels_induction hstep form (List.finRange N) (hentered ssid password)
  have hsaved (ssid password : Str) := hstep _ { kind := .Save } rfl (hchannels ssid password)
  unfold submit
  rw [CommandLineParser.parse_save, CommandLineParser.parse_reboot]
  dsimp only
  generalize (if form.wifiPassword.isEmpty then
      (s.apply (parse ("id ".toList ++ form.nodeId))).1.draft.wifiPassword
    else
      form.wifiPassword) = password
  split
  . exact h
  . split
    . apply hwifi
    . split
      . apply hentered
      . split
        . apply hchannels
        . split
          . apply hsaved
          . exact hstep _ { kind := .Reboot } rfl (hsaved _ _)

end BasicWebFormCommissioningAdapter

-- What comes to a node that is commissioned: a character from the serial port, a form from the setup page,
-- or a restart, after which the draft is what is stored.
inductive SetupInput (N : Nat) where
  | receive (c : Char)
  | submit (form : BasicWebFormSubmission N)
  | restart

namespace SetupInput

def setUp (a : BasicSerialCommissioningAdapter N) (input : SetupInput N)
    : BasicSerialCommissioningAdapter N :=
  match input with
  | .receive c => (a.receive c).1
  | .submit form => { a with session := (BasicWebFormCommissioningAdapter.submit a.session form).1 }
  | .restart => { session := .new a.session.store }

def enteredId (a : BasicSerialCommissioningAdapter N) (input : SetupInput N) : Option Int :=
  match input with
  | .receive c =>
    if c = '\n' then
      idOf (parse (BasicSerialCommissioningAdapter.dropCR a.lineBuffer))
    else
      none
  | .submit form => idOf (parse ("id ".toList ++ form.nodeId))
  | .restart => none

def after (accepts : Nat → Bool) (inputs : List (SetupInput N)) : BasicSerialCommissioningAdapter N :=
  inputs.foldl setUp { session := .new { stored := .factoryDefault, accepts } }

theorem after_concat (accepts : Nat → Bool) (inputs : List (SetupInput N)) (input : SetupInput N)
    : after accepts (inputs ++ [input]) = setUp (after accepts inputs) input := by
  simp [after]

theorem nodeId_submit (s : BasicCommissioningSession N) (form : BasicWebFormSubmission N)
    : (BasicWebFormCommissioningAdapter.submit s form).1.draft.nodeId
        =
      (idOf (parse ("id ".toList ++ form.nodeId))).getD s.draft.nodeId := by
  apply BasicWebFormCommissioningAdapter.submit_induction
    (P := fun s' => s'.draft.nodeId = (idOf (parse ("id ".toList ++ form.nodeId))).getD s.draft.nodeId)
  . intro s' c hc h
    rw [BasicCommissioningSession.nodeId_apply, hc]
    exact h
  . apply BasicCommissioningSession.nodeId_apply

theorem nodeId_of_entered {a : BasicSerialCommissioningAdapter N} {input : SetupInput N} {id : Int}
    (h : enteredId a input = some id)
    : (setUp a input).session.draft.nodeId = id := by
  cases input with
  | receive c =>
    dsimp only [enteredId] at h
    split at h
    . next hc =>
      dsimp only [setUp, BasicSerialCommissioningAdapter.receive]
      rw [if_pos hc]
      rw [BasicCommissioningSession.nodeId_apply, h]
      rfl
    . contradiction
  | submit form =>
    dsimp only [setUp]
    rw [nodeId_submit]
    rw [show idOf (parse ("id ".toList ++ form.nodeId)) = some id from h]
    rfl
  | restart => contradiction

structure InRange (s : BasicCommissioningSession N) : Prop where
  draft : 0 ≤ s.draft.nodeId ∧ s.draft.nodeId ≤ 99
  stored : 0 ≤ s.store.stored.nodeId ∧ s.store.stored.nodeId ≤ 99

theorem InRange.apply {s : BasicCommissioningSession N} (h : InRange s) {c : ParsedCommand}
    (hc : ∀ id ∈ idOf c, 0 ≤ id ∧ id ≤ 99)
    : InRange (s.apply c).1 := by
  constructor
  . rw [BasicCommissioningSession.nodeId_apply]
    cases hid : idOf c with
    | none => exact h.draft
    | some id => exact hc id hid
  . exact BasicCommissioningSession.storedId_apply h.stored c

theorem InRange.setUp {a : BasicSerialCommissioningAdapter N} (h : InRange a.session)
    {input : SetupInput N} (hinput : ∀ id ∈ enteredId a input, 0 ≤ id ∧ id ≤ 99)
    : InRange (setUp a input).session := by
  cases input with
  | receive c =>
    dsimp only [SetupInput.setUp, BasicSerialCommissioningAdapter.receive]
    split
    . next hc =>
      apply h.apply
      simpa [enteredId, hc] using hinput
    . split
      . exact h
      . exact h
  | submit form =>
    apply BasicWebFormCommissioningAdapter.submit_induction (P := InRange)
    . intro s c hc hs
      apply hs.apply
      simp [hc]
    . exact h.apply hinput
  | restart => exact ⟨h.stored, h.stored⟩

/--
The list of node ids has the node's own id selected in it as long as only ids from 1 to 99, or 0 for none,
are entered. An id that is not among the options is taken all the same, and the list then shows another
one.
-/
theorem offers_own_id_iff (accepts : Nat → Bool) (inputs : List (SetupInput N))
    : (∀ pre post, inputs = pre ++ post → ∀ networks, OffersOwnId (after accepts pre).session networks)
        ↔
      ∀ pre input post, inputs = pre ++ [input] ++ post →
        ∀ id ∈ enteredId (after accepts pre) input, 0 ≤ id ∧ id ≤ 99 := by
  constructor
  . intro h pre input post hinputs id hid
    have hoffers := h (pre ++ [input]) post hinputs []
    rw [offersOwnId_iff, after_concat, nodeId_of_entered hid] at hoffers
    exact hoffers
  . intro h pre post hinputs networks
    rw [offersOwnId_iff]
    have hrange : InRange (after accepts pre).session := by
      clear networks
      induction pre using List.reverseRecOn generalizing post with
      | nil =>
        have hunset : (0 : Int) ≤ 0 ∧ (0 : Int) ≤ 99 := by decide
        exact ⟨hunset, hunset⟩
      | append_singleton pre input ih =>
        rw [after_concat]
        apply InRange.setUp
        . apply ih ([input] ++ post)
          rw [hinputs, List.append_assoc]
        . exact h pre input post hinputs
    exact hrange.draft

def serialLine (line : String) : List (SetupInput N) :=
  (line.toList ++ ['\n']).map .receive

-- With an id that is not offered the page shows the first one that is, and would send that.
theorem not_offers_own_id_150
    : let session := (after (N := 12) (fun _ => true) (serialLine "id 150")).session
      let page := SetupFormRenderer.render
        (BasicWebFormCommissioningAdapter.currentValues session) []
      ¬OffersOwnId session []
        ∧
      untouchedValue (optionsOf "id".toList (tags page)) = some "1".toList := by
  constructor
  . rw [offersOwnId_iff]
    decide +kernel
  . rw [SetupFormRenderer.optionsOf_render]
    decide +kernel

end SetupInput

end Maltbee
