import MaltbeeController.McsCore.Lemmas.MegaCommissioningSession

/-!
This module contains what a line given to the commissioning session of the Mega leaves alone: which part
of the draft it may change and when the stored configuration changes with it.
-/

namespace Maltbee

namespace MegaCommissioningSession

variable {ρ : Type u} (port : ConfigurationRepository ρ) (toInt : Int → Int)

/-
What the next line changes. Everything that is not named here stays as it is, whatever the line and
whether or not the repository takes what it is given.
-/
structure Frame (s : MegaCommissioningSession ρ) (kind : LineKind)
    (res : MegaCommissioningSession ρ × FixedString32) : Prop where
  rejected : res.2 ≠ .ofCStr "OK".toList →
    res.1.draft = s.draft ∧ port.load res.1.repository = port.load s.repository
  known : res.2 = .ofCStr "OK".toList → kind ≠ .unknown
  address : ∀ station address, kind = .address station address → res.2 = .ofCStr "OK".toList →
    1 ≤ station ∧ station ≤ MegaConfig.kStationCount ∧ MegaConfig.kMinAddress ≤ address ∧
      address ≤ MegaConfig.kMaxAddress ∧ res.1.repository = s.repository ∧
      ∀ i : Fin 4, res.1.draft.stations.get i
          =
        if (i : Int) = station - 1 then
          { s.draft.stations.get i with address := address }
        else
          s.draft.stations.get i
  name : ∀ station name, kind = .name station name → res.2 = .ofCStr "OK".toList →
    1 ≤ station ∧ station ≤ MegaConfig.kStationCount ∧ res.1.repository = s.repository ∧
      ∀ i : Fin 4, res.1.draft.stations.get i
          =
        if (i : Int) = station - 1 then
          { s.draft.stations.get i with name := .ofCStr name }
        else
          s.draft.stations.get i
  save : kind = .save → res.1.draft = s.draft ∧
    (res.2 = .ofCStr "OK".toList → port.load res.1.repository = res.1.draft)
  stored : port.load res.1.repository ≠ port.load s.repository →
    kind = .save ∧ res.2 = .ofCStr "OK".toList

variable {port} {s : MegaCommissioningSession ρ}

theorem withStation_frame {station : Int} (h : ¬(station < 1 ∨ station > MegaConfig.kStationCount))
    (edit : MegaStationConfig → MegaStationConfig)
    : 1 ≤ station ∧ station ≤ MegaConfig.kStationCount ∧
        (s.withStation station h edit).repository = s.repository ∧
        ∀ i : Fin 4, (s.withStation station h edit).draft.stations.get i
            =
          if (i : Int) = station - 1 then
            edit (s.draft.stations.get i)
          else
            s.draft.stations.get i := by
  refine ⟨?_, ?_, rfl, ?_⟩
  . omega
  . omega
  . apply withStation_draft

theorem Handled.frame {kind : LineKind} {res : MegaCommissioningSession ρ × FixedString32}
    (h : Handled port s kind res)
    (hfail : ∀ r config, (port.save r config).1 = false →
      port.load (port.save r config).2 = port.load r)
    : Frame port s kind res := by
  cases h with
  | @address station address h haddress =>
    constructor
    . intro h
      contradiction
    . simp
    . intro station' address' hkind _
      rw [LineKind.address.injEq] at hkind
      rw [← hkind.1, ← hkind.2]
      have ⟨hmin, hmax, hrepository, hdraft⟩ := @withStation_frame _ s _ h fun station =>
        { station with address := address }
      exact ⟨hmin, hmax, by omega, by omega, hrepository, hdraft⟩
    . intro _ _ hkind
      contradiction
    . intro hkind
      contradiction
    . intro hstored
      contradiction
  | @name station name h =>
    constructor
    . intro h
      contradiction
    . simp
    . intro _ _ hkind
      contradiction
    . intro station' name' hkind _
      rw [LineKind.name.injEq] at hkind
      rw [← hkind.1, ← hkind.2]
      exact withStation_frame h _
    . intro hkind
      contradiction
    . intro hstored
      contradiction
  | saved h =>
    constructor
    . intro h
      contradiction
    . simp
    . intro _ _ hkind
      contradiction
    . intro _ _ hkind
      contradiction
    . intro _
      exact ⟨rfl, fun _ => port.load_save _ _ h⟩
    . intro _
      exact ⟨rfl, rfl⟩
  | saveFailed h =>
    constructor
    . intro _
      exact ⟨rfl, hfail _ _ h⟩
    . simp
    . intro _ _ hkind
      contradiction
    . intro _ _ hkind
      contradiction
    . intro _
      exact ⟨rfl, fun hok => absurd hok save_failed_ne_ok⟩
    . intro hstored
      exact absurd (hfail _ _ h) hstored
  | rejected hkind herror =>
    constructor
    . intro _
      exact ⟨rfl, rfl⟩
    . intro hok
      contradiction
    . intro _ _ _ hok
      contradiction
    . intro _ _ _ hok
      contradiction
    . rintro rfl
      exact (hkind trivial).elim
    . intro hstored
      contradiction

variable (port)

/--
After any lines, edits and saves of which some may have failed, all addresses of the draft are in range
and the next line keeps to its frame.
-/
theorem handleLine_frame (repository : ρ) (defaults : MegaConfig) (hdefaults : defaults.validate)
    (hfail : ∀ r config, (port.save r config).1 = false →
      port.load (port.save r config).2 = port.load r)
    (lines : List (List Char))
    : (after port toInt repository defaults lines).draft.AddressesInRange
        ∧
      ∀ line, Frame port (after port toInt repository defaults lines) (kind toInt line)
        ((after port toInt repository defaults lines).handleLine port toInt line) := by
  constructor
  . apply after_addressesInRange port toInt repository hdefaults
  . intro line
    apply Handled.frame _ hfail
    apply handleLine_handled

end MegaCommissioningSession

structure FakeConfigurationRepository where
  stored : MegaConfig := {}
  failNextSave : Bool := false

namespace FakeConfigurationRepository

def save (r : FakeConfigurationRepository) (config : MegaConfig)
    : Bool × FakeConfigurationRepository :=
  if r.failNextSave then
    (false, { r with failNextSave := false })
  else
    (true, { r with stored := config })

theorem save_true {r : FakeConfigurationRepository} {config : MegaConfig}
    (h : (r.save config).1 = true)
    : (r.save config).2.stored = config := by
  unfold save at *
  split at h
  . contradiction
  . next hnext => rw [if_neg hnext]

theorem save_false {r : FakeConfigurationRepository} {config : MegaConfig}
    (h : (r.save config).1 = false)
    : (r.save config).2.stored = r.stored := by
  unfold save at *
  split at h
  . next hnext => rw [if_pos hnext]
  . contradiction

def port : ConfigurationRepository FakeConfigurationRepository where
  load := stored
  save := save
  load_save _ _ := save_true

end FakeConfigurationRepository

namespace MegaCommissioningSession

open FakeConfigurationRepository (port)

def afterFailedSave : MegaCommissioningSession FakeConfigurationRepository :=
  after port id { failNextSave := true } .buildDefaultConfig
    ["address 1 500".toList, "save".toList]

theorem handleLine_frame_failed_save
    : afterFailedSave.draft.AddressesInRange
        ∧
      ∀ line, Frame port afterFailedSave (kind id line)
        (afterFailedSave.handleLine port id line) := by
  apply handleLine_frame
  . decide +kernel
  . intro r config
    apply FakeConfigurationRepository.save_false

end MegaCommissioningSession

end Maltbee
