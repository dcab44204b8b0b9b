import MaltbeeController.McsEsp32.Impl.WebFormCommissioningAdapter
import MaltbeeController.McsEsp32.Impl.WifiScanFormatter

/-!
This module contains the page with the setup form.
-/

namespace Maltbee

def kFirmwareVersion : Str :=
  "1.0.0".toList

namespace SetupFormRenderer

def escapeChar (c : Char) : Str :=
  match c with
  | '&' => "&amp;".toList
  | '<' => "&lt;".toList
  | '>' => "&gt;".toList
  | '"' => "&quot;".toList
  | '\'' => "&#39;".toList
  | c => [c]

def escapeHtml (text : Str) : Str :=
  text.flatMap escapeChar

def renderNetworkOptions (networks : List ScannedNetwork) : Str :=
  "<option value='' disabled selected hidden>-- select a nearby network --</option>".toList ++
  networks.flatMap fun network =>
    let label := WifiScanFormatter.withSignalBars network.ssid network.rssi
    "<option value='".toList ++ escapeHtml network.ssid ++ "'>".toList ++ escapeHtml label ++
      "</option>".toList

-- The values of `i` in the loop of `renderIdOptions`.
def nodeIds : List Int :=
  (List.range (BasicNodeConfig.kMaxNodeId - BasicNodeConfig.kMinNodeId + 1).toNat).map fun i =>
    BasicNodeConfig.kMinNodeId + i

def renderIdOptions (selectedId : Str) : Str :=
  (if selectedId.isEmpty then
    "<option value='' disabled selected hidden>-- select --</option>".toList
  else
    []) ++
  nodeIds.flatMap fun i =>
    let value := to_string i
    "<option value='".toList ++ value ++ "'".toList ++
      (if value = selectedId then " selected".toList else []) ++ ">".toList ++ value ++
      "</option>".toList

def renderChannelField (channelNumber : Int) (address : Str) : Str :=
  let fieldName := "t".toList ++ to_string channelNumber ++ "_address".toList
  "<label>Turnout ".toList ++ to_string channelNumber ++ " Address</label>".toList ++
  "<input name='".toList ++ fieldName ++ "' type='number' value='".toList ++ escapeHtml address ++
    "'>".toList

def kStyle : Str :=
  "body\x7bfont-family:-apple-system,BlinkMacSystemFont,'Segoe UI',Roboto,sans-serif;".toList ++
  "background:#f2f4f7;margin:0;padding:24px 16px;color:#1f2933;\x7d".toList ++
  ".card\x7bmax-width:420px;margin:0 auto;background:#fff;border-radius:12px;".toList ++
  "box-shadow:0 1px 3px rgba(0,0,0,0.1);padding:24px;\x7d".toList ++
  "h1\x7bfont-size:1.25rem;margin:0 0 4px;\x7d".toList ++
  ".subtitle\x7bcolor:#6b7280;font-size:0.875rem;margin:0 0 20px;\x7d".toList ++
  ".version\x7bcolor:#9ca3af;font-size:0.7rem;margin:0 0 12px;\x7d".toList ++
  "label\x7bdisplay:block;font-size:0.8rem;font-weight:600;color:#374151;".toList ++
  "margin:16px 0 4px;\x7d".toList ++
  "input,select\x7bwidth:100%;box-sizing:border-box;padding:8px 10px;".toList ++
  "border:1px solid #d1d5db;border-radius:6px;font-size:0.95rem;\x7d".toList ++
  "button\x7bmargin-top:24px;width:100%;padding:10px;background:#2563eb;color:#fff;".toList ++
  "border:none;border-radius:6px;font-size:1rem;font-weight:600;cursor:pointer;\x7d".toList ++
  "button:hover\x7bbackground:#1d4ed8;\x7d".toList ++
  "details\x7bmargin-top:20px;\x7d".toList ++
  "summary\x7bcursor:pointer;font-size:0.85rem;font-weight:600;color:#374151;\x7d".toList ++
  ".warning\x7bcolor:#b45309;font-size:0.8rem;margin:8px 0 0;\x7d".toList ++
  ".hint\x7bcolor:#6b7280;font-size:0.8rem;margin:4px 0 0;\x7d".toList

variable {N : Nat}

def render (values : BasicWebFormSubmission N) (networks : List ScannedNetwork) : Str :=
  "<!DOCTYPE html><html><head>".toList ++
  "<meta charset='utf-8'>".toList ++
  "<meta name='viewport' content='width=device-width, initial-scale=1'>".toList ++
  ("<style>".toList ++ kStyle ++ "</style></head><body>".toList) ++
  "<div class='card'><h1>MaltBee Panel Setup</h1>".toList ++
  "<p class='subtitle'>Configure this panel's network settings</p>".toList ++
  ("<p class='version'>Firmware v".toList ++ kFirmwareVersion ++ "</p>".toList) ++
  "<form method='POST' action='/submit'>".toList ++
  ("<label>Node ID</label><select name='id'>".toList ++ renderIdOptions values.nodeId ++
    "</select>".toList) ++
  "<label>WiFi SSID</label>".toList ++
  ("<select onchange=\"document.getElementsByName('wifi_ssid')[0].value=this.value\">".toList ++
    renderNetworkOptions networks ++ "</select>".toList) ++
  ("<input name='wifi_ssid' value='".toList ++ escapeHtml values.wifiSsid ++ "'>".toList) ++
  ("<p class='hint'>Pick a network above, or type one in directly if it's not listed. ".toList ++
    "<a href='/rescan'>Rescan</a></p>".toList) ++
  ("<label>WiFi Password</label>".toList ++
    "<input name='wifi_password' type='password' value=''>".toList) ++
  "<p class='hint'>Leave blank to keep the current password.</p>".toList ++
  ("<label>Broker Host</label><input name='broker_host' value='".toList ++
    escapeHtml values.brokerHost ++ "'>".toList) ++
  ("<label>Broker Port</label><input name='broker_port' type='number' value='".toList ++
    escapeHtml values.brokerPort ++ "'>".toList) ++
  "<details><summary>Turnout Addresses</summary>".toList ++
  "<p class='warning'>Leave a channel blank to leave it unconfigured.</p>".toList ++
  (List.finRange N).flatMap (fun i =>
    renderChannelField (i.val + 1) (values.channelTurnoutAddresses.get i)) ++
  "</details>".toList ++
  "<button type='submit'>Save</button>".toList ++
  "</form></div></body></html>".toList

end SetupFormRenderer

end Maltbee
