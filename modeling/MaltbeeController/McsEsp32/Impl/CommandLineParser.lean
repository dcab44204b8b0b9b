import Mathlib.Algebra.Group.Int.Defs
import MaltbeeController.McsEsp32.Impl.CommissioningSession

/-!
This module contains the parser of the command lines of an ESP32 node.
-/

namespace Maltbee

namespace CommandLineParser

def invalid (message : Str) : ParsedCommand where
  kind := .Invalid
  errorMessage := message

def tokenize (line : Str) : List Str :=
  Words.extractAll (line.length + 1) line

-- An `int` has 32 bits.
abbrev INT_MIN : Int := -2 ^ 31
abbrev INT_MAX : Int := 2 ^ 31 - 1

-- `std::stoi`, with the text after the consumed part. `none` stands for its exceptions: there is no
-- number, or it does not fit.
def stoi (text : Str) : Option (Int × Str) := do
  let (value, rest) ← Decimal.readInt (text.dropWhile Words.isSpace)
  if value < INT_MIN ∨ value > INT_MAX then none else some (value, rest)

def parseInt (text : Str) : Option Int :=
  if text.isEmpty then
    none
  else
    match stoi text with
    | none => none
    | some (value, rest) => if rest ≠ [] then none else some value

def parseId (tokens : List Str) : ParsedCommand :=
  match tokens with
  | [_, n] =>
    match parseInt n with
    | none => invalid "id must be a number".toList
    | some id => { kind := .Id, intArg := id }
  | _ => invalid "usage: id <n>".toList

def parseWifi (tokens : List Str) : ParsedCommand :=
  match tokens with
  | [_, ssid, password] => { kind := .Wifi, stringArg1 := ssid, stringArg2 := password }
  | _ => invalid "usage: wifi <ssid> <password> (no spaces in either)".toList

def parseBroker (tokens : List Str) : ParsedCommand :=
  match tokens with
  | [_, host, n] =>
    match parseInt n with
    | none => invalid "broker port must be a number".toList
    | some port => { kind := .Broker, stringArg1 := host, intArg2 := port }
  | _ => invalid "usage: broker <host> <port>".toList

def parseTurnout (tokens : List Str) : ParsedCommand :=
  match tokens with
  | [_, n, word, m] =>
    if word ≠ "address".toList then
      invalid "usage: turnout <n> address <address>".toList
    else
      match parseInt n with
      | none => invalid "turnout channel must be a number".toList
      | some channel =>
        match parseInt m with
        | none => invalid "turnout address must be a number".toList
        | some address => { kind := .TurnoutAddress, intArg := channel, intArg2 := address }
  | _ => invalid "usage: turnout <n> address <address>".toList

def parseBare (kind : CommandKind) (usage : Str) (tokens : List Str) : ParsedCommand :=
  if tokens.length ≠ 1 then invalid usage else { kind := kind }

def parse (line : Str) : ParsedCommand :=
  let tokens := tokenize line
  match tokens with
  | [] => invalid "empty command".toList
  | verb :: _ =>
    if verb = "id".toList then
      parseId tokens
    else if verb = "wifi".toList then
      parseWifi tokens
    else if verb = "broker".toList then
      parseBroker tokens
    else if verb = "turnout".toList then
      parseTurnout tokens
    else if verb = "show".toList then
      parseBare .Show "usage: show".toList tokens
    else if verb = "save".toList then
      parseBare .Save "usage: save".toList tokens
    else if verb = "reboot".toList then
      parseBare .Reboot "usage: reboot".toList tokens
    else
      invalid ("unknown command: ".toList ++ verb)

end CommandLineParser

end Maltbee
