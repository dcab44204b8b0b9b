import Mathlib.Data.List.Nodup
import MaltbeeController.Lib.Html
import MaltbeeController.McsEsp32.Impl.CaptivePortalServer
import MaltbeeController.McsEsp32.Lemmas.NodeConfig

/-!
This module contains the proof that what is put into the setup page stays where it is put, and that the
page and the server of the page agree about the fields of the form.
-/

namespace Maltbee

open StepRun Html

theorem to_string_clear (v : Int) : markup (to_string v) = [] ∧ '&' ∉ to_string v := by
  have hclear : ∀ c ∈ to_string v, isMarkup c = false ∧ c ≠ '&' := by
    intro c hc
    cases Decimal.mem_print v c hc with
    | inl hminus =>
      rw [hminus]
      decide
    | inr hdigit =>
      have hne (d : Char) (hd : d.isDigit = false) : c ≠ d := by
        intro heq
        rw [heq, hd] at hdigit
        contradiction
      simp [isMarkup, hne]
  constructor
  . apply markup_eq_nil
    intro c hc
    exact (hclear c hc).1
  . intro hamp
    exact (hclear '&' hamp).2 rfl

inductive FormField (N : Nat) where
  | nodeId
  | wifiSsid
  | wifiPassword
  | brokerHost
  | brokerPort
  | channelTurnoutAddress (i : Fin N)
  deriving DecidableEq

namespace FormField

variable {N : Nat}

def all (N : Nat) : List (FormField N) :=
  [nodeId, wifiSsid, wifiPassword, brokerHost, brokerPort] ++
    (List.finRange N).map channelTurnoutAddress

def get (field : FormField N) (form : BasicWebFormSubmission N) : Str :=
  match field with
  | .nodeId => form.nodeId
  | .wifiSsid => form.wifiSsid
  | .wifiPassword => form.wifiPassword
  | .brokerHost => form.brokerHost
  | .brokerPort => form.brokerPort
  | .channelTurnoutAddress i => form.channelTurnoutAddresses.get i

def name (field : FormField N) : Str :=
  match field with
  | .nodeId => "id".toList
  | .wifiSsid => "wifi_ssid".toList
  | .wifiPassword => "wifi_password".toList
  | .brokerHost => "broker_host".toList
  | .brokerPort => "broker_port".toList
  | .channelTurnoutAddress i => "t".toList ++ to_string (i.val + 1) ++ "_address".toList

-- The control of the field on the page that shows `form`. The node id is chosen from a list of options,
-- and the password is not shown.
def control (form : BasicWebFormSubmission N) (field : FormField N) : Control where
  tag :=
    match field with
    | .nodeId => "select".toList
    | _ => "input".toList
  name := field.name
  value :=
    match field with
    | .nodeId => none
    | .wifiPassword => some []
    | field => some (field.get form)

theorem mem_all (field : FormField N) : field ∈ all N := by
  cases field with
  | channelTurnoutAddress i => simp [all]
  | _ => simp [all]

theorem name_channelTurnoutAddress_injective {i j : Fin N}
    (h : name (.channelTurnoutAddress i) = name (.channelTurnoutAddress j))
    : i = j := by
  unfold name at h
  rw [List.append_cancel_right_eq, List.append_cancel_left_eq] at h
  have hnumber := to_string_injective h
  apply Fin.ext
  exact Int.ofNat_inj.mp ((Int.add_left_inj 1).mp hnumber)

theorem nodup_names : ((all N).map name).Nodup := by
  unfold all
  rw [List.map_append, List.map_map]
  rw [List.nodup_append]
  refine ⟨?_, ?_, ?_⟩
  . have : ["id", "wifi_ssid", "wifi_password", "broker_host", "broker_port"].map String.toList
        |>.Nodup := by decide
    exact this
  . apply List.Nodup.map _ (List.nodup_finRange N)
    intro i j h
    exact name_channelTurnoutAddress_injective h
  . intro x hx y hy heq
    -- The first letter tells the names of the channels from the others.
    have hfirst : ∀ x ∈ ["id", "wifi_ssid", "wifi_password", "broker_host", "broker_port"].map
        String.toList, x.head? ≠ some 't' := by decide
    rw [List.mem_map] at hy
    rcases hy with ⟨i, _, rfl⟩
    apply hfirst x hx
    rw [heq]
    rfl

theorem get_ext {form form' : BasicWebFormSubmission N}
    (h : ∀ field : FormField N, field.get form = field.get form')
    : form = form' := by
  have hid := h .nodeId
  have hssid := h .wifiSsid
  have hpassword := h .wifiPassword
  have hhost := h .brokerHost
  have hport := h .brokerPort
  have haddresses : form.channelTurnoutAddresses = form'.channelTurnoutAddresses := by
    apply Vector.ext
    intro i hi
    exact h (.channelTurnoutAddress ⟨i, hi⟩)
  cases form
  cases form'
  simp only [get] at hid hssid hpassword hhost hport haddresses
  simp [hid, hssid, hpassword, hhost, hport, haddresses]

open BasicCaptivePortalServer in
theorem get_readForm (arg : Str → Str) (field : FormField N)
    : field.get (readForm arg) = FixedString32.untilTerminator (arg field.name) := by
  cases field with
  | channelTurnoutAddress i => apply Vector.getElem_ofFn
  | _ => rfl

open BasicCaptivePortalServer in
theorem readForm_eq_iff (arg arg' : Str → Str)
    : (readForm arg : BasicWebFormSubmission N) = readForm arg'
        ↔
      ∀ field : FormField N,
        FixedString32.untilTerminator (arg field.name)
          =
        FixedString32.untilTerminator (arg' field.name) := by
  constructor
  . intro h field
    rw [← get_readForm, ← get_readForm]
    rw [h]
  . intro h
    apply get_ext
    intro field
    rw [get_readForm, get_readForm]
    exact h field

theorem map_name_control (values : BasicWebFormSubmission N)
    : ((all N).map (control values)).map Control.name = (all N).map name := by
  rw [List.map_map]
  rfl

end FormField

namespace SetupFormRenderer

theorem escaping_escapeChar : Escaping escapeChar := by
  constructor
  . intro c
    unfold escapeChar
    split
    . rfl
    . rfl
    . rfl
    . rfl
    . rfl
    . next hamp _ _ _ _ =>
      have hne : c ≠ '&' := hamp
      simp [readReference, hne]
  . intro c
    unfold escapeChar
    split
    . decide
    . decide
    . decide
    . decide
    . decide
    . next hlt hgt hquot hapos =>
      have hne : c ≠ '<' ∧ c ≠ '>' ∧ c ≠ '"' ∧ c ≠ '\'' := ⟨hlt, hgt, hquot, hapos⟩
      simp [markup, isMarkup, hne]

theorem unescape_escapeHtml (text : Str) : unescape (escapeHtml text) = text := by
  apply unescape_flatMap escaping_escapeChar

theorem markup_escapeHtml (text : Str) : markup (escapeHtml text) = [] := by
  apply clear_flatMap escaping_escapeChar

theorem run_option {value closing label : Str} {tag : Tag}
    (hvalue : markup value = [])
    (hclosing :
      run readTag (.quoted ⟨"option".toList, []⟩ "value".toList '\'' value) closing
        =
      (.text, [tag]))
    (hlabel : markup label = [])
    : run readTag .text
        ("<option value='".toList ++ value ++ closing ++ label ++ "</option>".toList)
        =
      (.text, [tag, ⟨"/option".toList, []⟩]) := by
  have hopened : run readTag .text ("<option value='".toList ++ value)
      =
    (.quoted ⟨"option".toList, []⟩ "value".toList '\'' value, []) :=
    run_trans _ rfl (run_quoted hvalue rfl _ _ [])
  have hclosed := run_trans _ hopened hclosing
  have hlabelled := run_trans _ hclosed (run_text hlabel)
  exact run_trans _ hlabelled rfl

theorem part_option {value closing label : Str} {tag : Tag}
    (hvalue : markup value = [])
    (hclosing :
      run readTag (.quoted ⟨"option".toList, []⟩ "value".toList '\'' value) closing
        =
      (.text, [tag]))
    (hlabel : markup label = []) (hcontrol : tag.control = none)
    : Part ("<option value='".toList ++ value ++ closing ++ label ++ "</option>".toList) [] := by
  have := Part.of_run (run_option hvalue hclosing hlabel)
  rw [List.filterMap_cons_none hcontrol] at this
  exact this

theorem part_renderNetworkOptions (networks : List ScannedNetwork)
    : Part (renderNetworkOptions networks) [] := by
  unfold renderNetworkOptions
  apply Part.append_nil
  . apply Part.literal rfl
    decide +kernel
  . apply Part.flatMap_nil
    intro network
    apply part_option
    . apply markup_escapeHtml
    . rfl
    . apply markup_escapeHtml
    . rfl

def idOptionTag (i : Int) (selectedId : Str) : Tag where
  name := "option".toList
  attributes :=
    ("value".toList, to_string i) ::
      if to_string i = selectedId then [("selected".toList, [])] else []

theorem run_idOption_closing (i : Int) (selectedId : Str)
    : run readTag (.quoted ⟨"option".toList, []⟩ "value".toList '\'' (to_string i))
        ("'".toList ++ (if to_string i = selectedId then " selected".toList else []) ++ ">".toList)
        =
      (.text, [idOptionTag i selectedId]) := by
  unfold idOptionTag
  split
  . rfl
  . rfl

theorem part_renderIdOptions (selectedId : Str) : Part (renderIdOptions selectedId) [] := by
  unfold renderIdOptions
  apply Part.append_nil
  . split
    . apply Part.literal rfl
      decide
    . apply Part.nil
  . apply Part.flatMap_nil
    intro i
    have hnumber := (to_string_clear i).1
    have := part_option hnumber (run_idOption_closing i selectedId) hnumber rfl
    simpa only [List.append_assoc] using this

theorem part_input (tag : Tag) {opening name : Str}
    (hopening : (run readTag .text opening).1 = .quoted tag "value".toList '\'' [])
    (hnone : controls opening = [])
    (hcontrol : ∀ value, (tag.add "value".toList value).control
      =
    some ⟨"input".toList, name, some (unescape value)⟩) (text : Str)
    : Part (opening ++ escapeHtml text ++ "'>".toList) [⟨"input".toList, name, some text⟩] := by
  have hopened : run readTag .text opening
      =
    (.quoted tag "value".toList '\'' [], tags opening) := Prod.ext hopening rfl
  have hvalue := run_trans _ hopened (run_quoted (markup_escapeHtml text) rfl _ _ [])
  have hclosed : run readTag (.quoted tag "value".toList '\'' ([] ++ escapeHtml text)) "'>".toList
      =
    (.text, [tag.add "value".toList (escapeHtml text)]) := rfl
  have := Part.of_run (run_trans _ hvalue hclosed)
  rw [controls] at hnone
  rw [List.append_nil, List.filterMap_append, hnone] at this
  rw [List.filterMap_cons_some (hcontrol _), unescape_escapeHtml] at this
  exact this

theorem fieldName_clear (channelNumber : Int)
    : markup ("t".toList ++ to_string channelNumber ++ "_address".toList) = []
        ∧
      '&' ∉ "t".toList ++ to_string channelNumber ++ "_address".toList := by
  have ⟨hmarkup, hamp⟩ := to_string_clear channelNumber
  constructor
  . rw [markup_append, markup_append, hmarkup]
    decide
  . rw [List.mem_append, List.mem_append]
    rintro ((h | h) | h)
    . exact absurd h (by decide)
    . exact hamp h
    . exact absurd h (by decide)

theorem part_channelLabel (channelNumber : Int)
    : Part
        ("<label>Turnout ".toList ++ to_string channelNumber ++ " Address</label>".toList) [] := by
  have hnumber : run readTag .text ("<label>Turnout ".toList ++ to_string channelNumber)
      =
    (.text, [⟨"label".toList, []⟩]) :=
    run_trans _ rfl (run_text (to_string_clear channelNumber).1)
  have hlabel : run readTag .text
      ("<label>Turnout ".toList ++ to_string channelNumber ++ " Address</label>".toList)
        =
      (.text, [⟨"label".toList, []⟩, ⟨"/label".toList, []⟩]) := run_trans _ hnumber rfl
  exact Part.of_run hlabel

theorem part_numberInput {name : Str} (hname : markup name = [] ∧ '&' ∉ name) (text : Str)
    : Part
        ("<input name='".toList ++ name ++ "' type='number' value='".toList ++ escapeHtml text ++
          "'>".toList)
        [⟨"input".toList, name, some text⟩] := by
  have hquoted : run readTag .text ("<input name='".toList ++ name)
      =
    (.quoted ⟨"input".toList, []⟩ "name".toList '\'' name, []) :=
    run_trans _ rfl (run_quoted hname.1 rfl _ _ [])
  have hopening : run readTag .text ("<input name='".toList ++ name ++
      "' type='number' value='".toList)
        =
      (
        .quoted ⟨
          "input".toList,
          [("name".toList, name), ("type".toList, "number".toList)]
        ⟩ "value".toList '\'' [],
        []
      ) := run_trans _ hquoted rfl
  apply part_input
  . rw [hopening]
  . rw [controls, tags, hopening]
    rfl
  . intro value
    have hself := unescape_eq_self hname.2
    have hcontrol : Tag.control ⟨
      "input".toList,
      [("name".toList, name), ("type".toList, "number".toList), ("value".toList, value)]
    ⟩ = some ⟨"input".toList, unescape name, some (unescape value)⟩ := rfl
    rw [hself] at hcontrol
    exact hcontrol

theorem part_renderChannelField (channelNumber : Int) (address : Str)
    : Part (renderChannelField channelNumber address)
        [
          ⟨
            "input".toList,
            "t".toList ++ to_string channelNumber ++ "_address".toList,
            some address
          ⟩
        ] := by
  have hinput := part_numberInput (fieldName_clear channelNumber) address
  have := (part_channelLabel channelNumber).nil_append hinput
  unfold renderChannelField
  simp only [List.append_assoc] at this ⊢
  exact this

theorem part_kStyle : Part kStyle [] := by
  unfold kStyle
  repeat refine Part.append_nil ?_ (Part.literal rfl (by decide))
  exact Part.literal rfl (by decide)

theorem part_around {opening body closing : Str} {cs : List Control} (hopening : Part opening cs)
    (hbody : Part body []) (hclosing : Part closing [])
    : Part (opening ++ body ++ closing) cs := by
  apply Part.append_nil
  . apply Part.append_nil hopening hbody
  . exact hclosing

theorem part_namedInput (tag : Tag) {s : String} {l name : Str} (hs : s = String.ofList l)
    (hopening : (run readTag .text l).1 = .quoted tag "value".toList '\'' [])
    (hnone : controls l = [])
    (hcontrol : ∀ value, (tag.add "value".toList value).control
      =
    some ⟨"input".toList, name, some (unescape value)⟩) (text : Str)
    : Part (s.toList ++ escapeHtml text ++ "'>".toList) [⟨"input".toList, name, some text⟩] := by
  rw [hs, String.toList_ofList]
  apply part_input tag hopening hnone hcontrol

variable {N : Nat}

theorem part_channels (addresses : Vector Str N)
    : Part
        ((List.finRange N).flatMap fun i => renderChannelField (i.val + 1) (addresses.get i))
        ((List.finRange N).map fun i =>
          ⟨"input".toList, (FormField.channelTurnoutAddress i).name, some (addresses.get i)⟩) := by
  rw [List.map_eq_flatMap]
  apply Part.flatMap
  intro i
  apply part_renderChannelField

theorem map_control (values : BasicWebFormSubmission N)
    : (FormField.all N).map (FormField.control values)
        =
      [⟨"select".toList, "id".toList, none⟩] ++
      [⟨"input".toList, "wifi_ssid".toList, some values.wifiSsid⟩] ++
      [⟨"input".toList, "wifi_password".toList, some []⟩] ++
      [⟨"input".toList, "broker_host".toList, some values.brokerHost⟩] ++
      [⟨"input".toList, "broker_port".toList, some values.brokerPort⟩] ++
      (List.finRange N).map fun i =>
        ⟨
          "input".toList,
          (FormField.channelTurnoutAddress i).name,
          some (values.channelTurnoutAddresses.get i)
        ⟩ := by
  unfold FormField.all
  rw [List.map_append, List.map_map]
  rfl

def pageHead : Str :=
  "<!DOCTYPE html><html><head>".toList ++
  "<meta charset='utf-8'>".toList ++
  "<meta name='viewport' content='width=device-width, initial-scale=1'>".toList ++
  ("<style>".toList ++ kStyle ++ "</style></head><body>".toList) ++
  "<div class='card'><h1>MaltBee Panel Setup</h1>".toList ++
  "<p class='subtitle'>Configure this panel's network settings</p>".toList ++
  ("<p class='version'>Firmware v".toList ++ kFirmwareVersion ++ "</p>".toList) ++
  "<form method='POST' action='/submit'>".toList

theorem part_pageHead : Part pageHead [] := by
  unfold pageHead kFirmwareVersion
  refine Part.append_nil ?_ (Part.literal rfl (by decide))
  refine Part.append_nil ?_ (part_around (Part.literal rfl (by decide))
    (Part.literal rfl (by decide)) (Part.literal rfl (by decide)))
  refine Part.append_nil ?_ (Part.literal rfl (by decide))
  refine Part.append_nil ?_ (Part.literal rfl (by decide))
  refine Part.append_nil ?_ (part_around (Part.literal rfl (by decide)) part_kStyle
    (Part.literal rfl (by decide)))
  refine Part.append_nil ?_ (Part.literal rfl (by decide))
  exact Part.append_nil (Part.literal rfl (by decide)) (Part.literal rfl (by decide))

theorem part_render (values : BasicWebFormSubmission N) (networks : List ScannedNetwork)
    : Part (render values networks) ((FormField.all N).map (FormField.control values)) := by
  rw [map_control]
  unfold render
  -- From the last line of the page to the first.
  refine Part.append_nil ?_ (Part.literal rfl (by decide))
  refine Part.append_nil ?_ (Part.literal rfl (by decide))
  refine Part.append_nil ?_ (Part.literal rfl (by decide))
  -- The channels.
  refine Part.append ?_ (part_channels values.channelTurnoutAddresses)
  refine Part.append_nil ?_ (Part.literal rfl (by decide))
  refine Part.append_nil ?_ (Part.literal rfl (by decide))
  -- The broker.
  refine Part.append ?_ (part_namedInput
    ⟨"input".toList, [("name".toList, "broker_port".toList), ("type".toList, "number".toList)]⟩
    rfl (by decide) (by decide) (fun _ => rfl) values.brokerPort)
  refine Part.append ?_ (part_namedInput ⟨"input".toList, [("name".toList, "broker_host".toList)]⟩
    rfl (by decide) (by decide) (fun _ => rfl) values.brokerHost)
  refine Part.append_nil ?_ (Part.literal rfl (by decide))
  -- The WiFi. The list of networks has no name.
  refine Part.append ?_ (Part.nil_append (Part.literal rfl (by decide)) (Part.literal rfl (by decide)))
  refine Part.append_nil ?_ (Part.append_nil (Part.literal rfl (by decide +kernel))
    (Part.literal rfl (by decide)))
  refine Part.append ?_ (part_namedInput ⟨"input".toList, [("name".toList, "wifi_ssid".toList)]⟩
    rfl (by decide) (by decide) (fun _ => rfl) values.wifiSsid)
  refine Part.append_nil ?_ (part_around (Part.literal rfl (by decide +kernel))
    (part_renderNetworkOptions networks) (Part.literal rfl (by decide)))
  refine Part.append_nil ?_ (Part.literal rfl (by decide))
  -- The node id.
  exact Part.nil_append part_pageHead (part_around (Part.literal rfl (by decide))
    (part_renderIdOptions values.nodeId) (Part.literal rfl (by decide)))

theorem markup_renderNetworkOptions {networks networks' : List ScannedNetwork}
    (h : networks.length = networks'.length)
    : markup (renderNetworkOptions networks) = markup (renderNetworkOptions networks') := by
  unfold renderNetworkOptions
  simp only [markup_append, markup_flatMap, markup_escapeHtml]
  rw [List.flatMap_def, List.flatMap_def]
  rw [List.map_const', List.map_const']
  rw [h]

theorem markup_renderIdOptions {selectedId selectedId' : Str}
    (h : selectedId.isEmpty = selectedId'.isEmpty)
    : markup (renderIdOptions selectedId) = markup (renderIdOptions selectedId') := by
  have hselected (p : Prop) [Decidable p]
      : markup (if p then " selected".toList else []) = [] := by
    split
    . rfl
    . rfl
  unfold renderIdOptions
  simp only [markup_append, markup_flatMap, hselected]
  rw [h]

theorem markup_renderChannelField (channelNumber : Int) (address address' : Str)
    : markup (renderChannelField channelNumber address)
        =
      markup (renderChannelField channelNumber address') := by
  unfold renderChannelField
  simp only [markup_append, markup_escapeHtml]

theorem markup_render {values values' : BasicWebFormSubmission N}
    {networks networks' : List ScannedNetwork}
    (hid : values.nodeId.isEmpty = values'.nodeId.isEmpty)
    (hnetworks : networks.length = networks'.length)
    : markup (render values networks) = markup (render values' networks') := by
  have hchannels (i : Fin N) := markup_renderChannelField (i.val + 1)
    (values.channelTurnoutAddresses.get i) (values'.channelTurnoutAddresses.get i)
  unfold render
  simp only [markup_append, markup_flatMap, markup_escapeHtml, hchannels]
  rw [markup_renderIdOptions hid, markup_renderNetworkOptions hnetworks]

-- The markup of the page with nothing in it but as many networks as are listed.
def pageMarkup (N networks : Nat) (noId : Bool) : Str :=
  let values : BasicWebFormSubmission N := { nodeId := if noId then [] else to_string 1 }
  markup (render values (.replicate networks ⟨[], 0⟩))

theorem markup_render_eq (values : BasicWebFormSubmission N) (networks : List ScannedNetwork)
    : markup (render values networks)
        =
      pageMarkup N networks.length values.nodeId.isEmpty := by
  unfold pageMarkup
  apply markup_render
  . cases hid : values.nodeId.isEmpty with
    | true => rfl
    | false => rfl
  . simp

open BasicCaptivePortalServer in
/--
Nothing that is put into the page opens or closes a tag or a value. The controls of the page show the
fields they stand for, and they are named by the arguments that are read into these fields.
-/
theorem render_safe (values : BasicWebFormSubmission N) (networks : List ScannedNetwork)
    : markup (render values networks) = pageMarkup N networks.length values.nodeId.isEmpty
        ∧
      controls (render values networks) = (FormField.all N).map (FormField.control values)
        ∧
      ((controls (render values networks)).map Control.name).Nodup
        ∧
      (∀ (arg : Str → Str) (field : FormField N),
        field.get (readForm arg) = FixedString32.untilTerminator (arg field.name))
        ∧
      ∀ arg arg' : Str → Str,
        (readForm arg : BasicWebFormSubmission N) = readForm arg'
          ↔
        ∀ name ∈ (controls (render values networks)).map Control.name,
          FixedString32.untilTerminator (arg name)
            =
          FixedString32.untilTerminator (arg' name) := by
  have hcontrols := (part_render values networks).controls
  have hnames : (controls (render values networks)).map Control.name
      =
    (FormField.all N).map FormField.name := by
    rw [hcontrols]
    apply FormField.map_name_control
  refine ⟨markup_render_eq values networks, hcontrols, ?_, FormField.get_readForm, ?_⟩
  . rw [hnames]
    apply FormField.nodup_names
  . intro arg arg'
    rw [hnames]
    rw [FormField.readForm_eq_iff]
    rw [List.forall_mem_map]
    constructor
    . intro h field _
      exact h field
    . intro h field
      exact h field field.mem_all

end SetupFormRenderer

end Maltbee
