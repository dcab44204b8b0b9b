import MaltbeeController.Lib.Scanf
import MaltbeeController.McsCore.Impl.FixedString32

/-!
This module contains the configuration of the Mega panel, the repository it is kept in and the session
that edits a draft of it line by line.
-/

namespace Maltbee

structure MegaStationConfig where
  address : Int := 0
  name : FixedString32 := default
  deriving DecidableEq, Repr

structure MegaConfig where
  stations : Vector MegaStationConfig 4 := .replicate 4 {}
  deriving DecidableEq, Repr

namespace MegaConfig

abbrev kStationCount : Int := 4
abbrev kMinAddress : Int := 1
abbrev kMaxAddress : Int := 2048

def validate (config : MegaConfig) : Bool :=
  (List.finRange 4).all fun i =>
    let address := (config.stations.get i).address
    !(address < kMinAddress || address > kMaxAddress) &&
      ((List.finRange 4).filter (i < ·)).all fun j => (config.stations.get j).address ≠ address

def buildDefaultConfig : MegaConfig where
  stations := #v[
    { address := 101, name := .ofCStr "Turnout 1".toList },
    { address := 102, name := .ofCStr "Turnout 2".toList },
    { address := 103, name := .ofCStr "Turnout 3".toList },
    { address := 104, name := .ofCStr "Turnout 4".toList }
  ]

end MegaConfig

/--
The port behind which a configuration outlives the session. What a successful `save` was given is what
`load` returns next; what a failed one leaves behind is open.
-/
structure ConfigurationRepository (ρ : Type u) where
  load : ρ → MegaConfig
  save : ρ → MegaConfig → Bool × ρ
  load_save (r : ρ) (config : MegaConfig) : (save r config).1 → load (save r config).2 = config

namespace InMemoryConfigurationRepository

def repository : ConfigurationRepository MegaConfig where
  load stored := stored
  save _ config := (true, config)
  load_save _ _ _ := rfl

end InMemoryConfigurationRepository

-- `repository` is the state of the repository that the session holds a reference to.
structure MegaCommissioningSession (ρ : Type u) where
  repository : ρ
  draft : MegaConfig

namespace MegaCommissioningSession

open Scanf

variable {ρ : Type u} (port : ConfigurationRepository ρ) (toInt : Int → Int)

def new (repository : ρ) (defaults : MegaConfig) : MegaCommissioningSession ρ :=
  let draft := port.load repository
  if !draft.validate then ⟨repository, defaults⟩ else ⟨repository, draft⟩

-- `draft_.stations[station - 1]` is written; that it exists has been checked before.
def withStation (s : MegaCommissioningSession ρ) (station : Int)
    (h : ¬(station < 1 ∨ station > MegaConfig.kStationCount))
    (edit : MegaStationConfig → MegaStationConfig)
    : MegaCommissioningSession ρ :=
  let i : Fin 4 := ⟨(station - 1).toNat, by simp only [MegaConfig.kStationCount] at h; omega⟩
  { s with draft := ⟨s.draft.stations.set i (edit (s.draft.stations.get i)) i.isLt⟩ }

def handleLine (s : MegaCommissioningSession ρ) (line : List Char)
    : MegaCommissioningSession ρ × FixedString32 :=
  let line := FixedString32.untilTerminator line
  match sscanf toInt line "address %d %d".toList with
  | [.int station, .int address] =>
    if h:station < 1 ∨ station > MegaConfig.kStationCount then
      (s, .ofCStr "ERR: station must be 1-4".toList)
    else if address < MegaConfig.kMinAddress ∨ address > MegaConfig.kMaxAddress then
      (s, .ofCStr "ERR: address out of range".toList)
    else
      (s.withStation station h ({ · with address := address }), .ofCStr "OK".toList)
  | _ =>
    match sscanf toInt line "name %d %31s".toList with
    | [.int station, .str nameBuffer] =>
      if h:station < 1 ∨ station > MegaConfig.kStationCount then
        (s, .ofCStr "ERR: station must be 1-4".toList)
      else
        (s.withStation station h ({ · with name := .ofCStr nameBuffer }), .ofCStr "OK".toList)
    | _ =>
      if line = "save".toList then
        let res := port.save s.repository s.draft
        (
          { s with repository := res.2 },
          if res.1 then .ofCStr "OK".toList else .ofCStr "ERR: save failed".toList
        )
      else
        (s, .ofCStr "ERR: unknown command".toList)

def call (s : MegaCommissioningSession ρ) (line : List Char)
    : MegaCommissioningSession ρ × List FixedString32 :=
  let res := s.handleLine port toInt line
  (res.1, [res.2])

end MegaCommissioningSession

end Maltbee
