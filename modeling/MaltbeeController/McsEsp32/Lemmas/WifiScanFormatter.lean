import MaltbeeController.McsEsp32.Impl.WifiScanFormatter

/-!
This module contains the proof that the list of networks that is offered names each network once, with the
strongest signal seen of it.
-/

namespace Maltbee

namespace WifiScanFormatter

-- Among the networks in `raw` that have a name, none with the name `ssid` is stronger than `rssi`.
structure Strongest (raw : List ScannedNetwork) (ssid : Str) (rssi : Int) : Prop where
  named : ssid ≠ []
  seen : ⟨ssid, rssi⟩ ∈ raw
  le : ∀ network ∈ raw, network.ssid = ssid → network.rssi ≤ rssi

theorem Strongest.unique {raw : List ScannedNetwork} {ssid : Str} {rssi rssi' : Int}
    (h : Strongest raw ssid rssi) (h' : Strongest raw ssid rssi')
    : rssi = rssi' := by
  have hle := h'.le _ h.seen rfl
  have hge := h.le _ h'.seen rfl
  dsimp only at hle hge
  omega

theorem Strongest.concat {raw : List ScannedNetwork} {network : ScannedNetwork} {ssid : Str}
    {rssi : Int} (h : Strongest raw ssid rssi)
    (hle : network.ssid = ssid → network.rssi ≤ rssi)
    : Strongest (raw ++ [network]) ssid rssi := by
  refine ⟨h.named, List.mem_append_left _ h.seen, ?_⟩
  intro network' hmem hssid
  rcases List.mem_append.mp hmem with hold | hnew
  . exact h.le network' hold hssid
  . rw [List.mem_singleton.mp hnew] at hssid ⊢
    exact hle hssid

structure Records (raw : List ScannedNetwork) (m : Std.TreeMap Str Int) : Prop where
  strongest : ∀ ssid rssi, m[ssid]? = some rssi → Strongest raw ssid rssi
  complete : ∀ network ∈ raw, network.ssid ≠ [] → ∃ rssi, m[network.ssid]? = some rssi

section

variable {raw : List ScannedNetwork} {m : Std.TreeMap Str Int} {network : ScannedNetwork}

theorem recordStrongest_cases (m : Std.TreeMap Str Int) (network : ScannedNetwork)
    : (recordStrongest m network = m ∧
        (network.ssid ≠ [] → ∃ rssi, m[network.ssid]? = some rssi ∧ network.rssi ≤ rssi)) ∨
      (recordStrongest m network = m.insert network.ssid network.rssi ∧ network.ssid ≠ [] ∧
        ∀ rssi, m[network.ssid]? = some rssi → rssi < network.rssi) := by
  unfold recordStrongest
  split
  . next hempty =>
    left
    refine ⟨rfl, ?_⟩
    intro hnamed
    exact absurd (List.isEmpty_iff.mp hempty) hnamed
  . next hnamed =>
    rw [List.isEmpty_iff] at hnamed
    split
    . next hnew =>
      right
      refine ⟨rfl, hnamed, ?_⟩
      simp [hnew]
    . next rssi hknown =>
      split
      . next hstronger =>
        right
        refine ⟨rfl, hnamed, ?_⟩
        intro rssi' hrssi'
        rw [hknown, Option.some_inj] at hrssi'
        omega
      . next hweaker =>
        left
        refine ⟨rfl, ?_⟩
        intro _
        exact ⟨rssi, hknown, by omega⟩

theorem getElem?_insert (m : Std.TreeMap Str Int) (ssid ssid' : Str) (rssi : Int)
    : (m.insert ssid rssi)[ssid']? = if ssid = ssid' then some rssi else m[ssid']? := by
  rw [Std.TreeMap.getElem?_insert]
  simp only [Std.compare_eq_iff_eq]

theorem Records.insert (h : Records raw m) (hnamed : network.ssid ≠ [])
    (hstronger : ∀ rssi, m[network.ssid]? = some rssi → rssi < network.rssi)
    : Records (raw ++ [network]) (m.insert network.ssid network.rssi) := by
  constructor
  . intro ssid rssi hrssi
    rw [getElem?_insert] at hrssi
    split at hrssi
    . next heq =>
      rw [Option.some_inj] at hrssi
      subst heq hrssi
      refine ⟨hnamed, by simp, ?_⟩
      intro network' hmem hssid
      rcases List.mem_append.mp hmem with hold | hnew
      . rcases h.complete network' hold (by rw [hssid]; exact hnamed) with ⟨rssi, hrssi⟩
        have hle := (h.strongest _ _ hrssi).le network' hold rfl
        rw [hssid] at hrssi
        have := hstronger rssi hrssi
        omega
      . rw [List.mem_singleton.mp hnew]
    . next hne => exact (h.strongest ssid rssi hrssi).concat fun heq => absurd heq hne
  . intro network' hmem hnamed'
    rw [getElem?_insert]
    split
    . exact ⟨_, rfl⟩
    . next hne =>
      rcases List.mem_append.mp hmem with hold | hnew
      . exact h.complete network' hold hnamed'
      . rw [List.mem_singleton.mp hnew] at hne
        contradiction

theorem Records.record (h : Records raw m) (network : ScannedNetwork)
    : Records (raw ++ [network]) (recordStrongest m network) := by
  rcases recordStrongest_cases m network with ⟨heq, hknown⟩ | ⟨heq, hnamed, hstronger⟩
  . rw [heq]
    constructor
    . intro ssid rssi hrssi
      have hstrongest := h.strongest ssid rssi hrssi
      apply hstrongest.concat
      intro hssid
      rcases hknown (by rw [hssid]; exact hstrongest.named) with ⟨rssi', hrssi', hle⟩
      rw [hssid, hrssi, Option.some_inj] at hrssi'
      omega
    . intro network' hmem hnamed'
      rcases List.mem_append.mp hmem with hold | hnew
      . exact h.complete network' hold hnamed'
      . rw [List.mem_singleton.mp hnew] at hnamed' ⊢
        rcases hknown hnamed' with ⟨rssi, hrssi, _⟩
        exact ⟨rssi, hrssi⟩
  . rw [heq]
    apply h.insert hnamed hstronger

theorem records_foldl (raw : List ScannedNetwork) : Records raw (raw.foldl recordStrongest {}) := by
  induction raw using List.reverseRecOn with
  | nil =>
    constructor
    . intro ssid rssi hrssi
      rw [List.foldl_nil, Std.TreeMap.getElem?_emptyc] at hrssi
      contradiction
    . simp
  | append_singleton raw network ih =>
    rw [List.foldl_concat]
    apply ih.record

theorem Records.getElem?_iff (h : Records raw m) (ssid : Str) (rssi : Int)
    : m[ssid]? = some rssi ↔ Strongest raw ssid rssi := by
  constructor
  . exact h.strongest ssid rssi
  . intro hstrongest
    rcases h.complete _ hstrongest.seen hstrongest.named with ⟨rssi', hrssi'⟩
    rw [(h.strongest _ _ hrssi').unique hstrongest] at hrssi'
    exact hrssi'

end

section

variable (std std' : StdSort ScannedNetwork fun a b => a.rssi > b.rssi)
variable (raw : List ScannedNetwork)

theorem mem_dedupeAndSort (network : ScannedNetwork)
    : network ∈ dedupeAndSort std raw ↔ Strongest raw network.ssid network.rssi := by
  rw [← (records_foldl raw).getElem?_iff]
  rw [← Std.TreeMap.mem_toList_iff_getElem?_eq_some]
  unfold dedupeAndSort
  rw [StdSort.mem_sort, List.mem_map]
  constructor
  . intro ⟨entry, hmem, heq⟩
    rw [← heq]
    exact hmem
  . intro hmem
    exact ⟨_, hmem, rfl⟩

theorem nodup_dedupeAndSort : ((dedupeAndSort std raw).map (·.ssid)).Nodup := by
  unfold dedupeAndSort
  rw [((std.perm _).map _).nodup_iff]
  rw [List.map_map]
  apply List.Pairwise.map _ _ Std.TreeMap.distinct_keys_toList
  intro a b hne heq
  apply hne
  rw [Std.compare_eq_iff_eq]
  exact heq

structure Dedupes (raw out : List ScannedNetwork) : Prop where
  nodup : (out.map (·.ssid)).Nodup
  ssids : ∀ ssid, ssid ∈ out.map (·.ssid) ↔ ssid ≠ [] ∧ ssid ∈ raw.map (·.ssid)
  strongest : ∀ network ∈ out, network ∈ raw ∧
    ∀ other ∈ raw, other.ssid = network.ssid → other.rssi ≤ network.rssi
  sorted : out.Pairwise fun a b => a.rssi ≥ b.rssi

theorem Dedupes.dedupeAndSort : Dedupes raw (dedupeAndSort std raw) := by
  constructor
  . apply nodup_dedupeAndSort
  . intro ssid
    constructor
    . intro h
      rcases List.mem_map.mp h with ⟨network, hmem, heq⟩
      have hstrongest := (mem_dedupeAndSort std raw network).mp hmem
      rw [← heq]
      exact ⟨hstrongest.named, List.mem_map_of_mem hstrongest.seen⟩
    . intro ⟨hnamed, h⟩
      rcases List.mem_map.mp h with ⟨network, hmem, heq⟩
      have hrecords := records_foldl raw
      rcases hrecords.complete network hmem (by rw [heq]; exact hnamed) with ⟨rssi, hrssi⟩
      rw [heq] at hrssi
      have hstrongest := hrecords.strongest ssid rssi hrssi
      exact List.mem_map.mpr ⟨⟨ssid, rssi⟩, (mem_dedupeAndSort std raw _).mpr hstrongest, rfl⟩
  . intro network hmem
    have hstrongest := (mem_dedupeAndSort std raw network).mp hmem
    exact ⟨hstrongest.seen, hstrongest.le⟩
  . apply StdSort.pairwise_sort

variable {raw} in
theorem dedupeAndSort_perm {raw' : List ScannedNetwork}
    (h : ∀ network, network ∈ dedupeAndSort std' raw' ↔ network ∈ dedupeAndSort std raw)
    : (dedupeAndSort std' raw').Perm (dedupeAndSort std raw) := by
  rw [List.perm_ext_iff_of_nodup]
  . exact h
  . exact (nodup_dedupeAndSort std' raw').of_map _
  . exact (nodup_dedupeAndSort std raw).of_map _

theorem strongest_congr {raw raw' : List ScannedNetwork}
    (h : ∀ network, network ∈ raw' ↔ network ∈ raw) {ssid : Str} {rssi : Int}
    (hstrongest : Strongest raw ssid rssi)
    : Strongest raw' ssid rssi := by
  refine ⟨hstrongest.named, (h _).mpr hstrongest.seen, ?_⟩
  intro network hmem
  exact hstrongest.le network ((h network).mp hmem)

theorem strongest_dedupeAndSort (ssid : Str) (rssi : Int)
    : Strongest (dedupeAndSort std raw) ssid rssi ↔ Strongest raw ssid rssi := by
  constructor
  . intro h
    exact (mem_dedupeAndSort std raw ⟨ssid, rssi⟩).mp h.seen
  . intro h
    refine ⟨h.named, (mem_dedupeAndSort std raw ⟨ssid, rssi⟩).mpr h, ?_⟩
    intro network hmem hssid
    have hstrongest := (mem_dedupeAndSort std raw network).mp hmem
    rw [hssid] at hstrongest
    rw [hstrongest.unique h]

/--
Each name comes out once, with its strongest signal, strongest first; the order of the input, repeated
entries and another implementation of `std::sort` make a difference among equally strong networks only.
-/
theorem dedupes
    : Dedupes raw (dedupeAndSort std raw) ∧
        (∀ raw', (∀ network, network ∈ raw' ↔ network ∈ raw) →
          (dedupeAndSort std' raw').Perm (dedupeAndSort std raw) ∧
            (dedupeAndSort std' raw').map (·.rssi) = (dedupeAndSort std raw).map (·.rssi)) ∧
        (dedupeAndSort std' (dedupeAndSort std raw)).Perm (dedupeAndSort std raw) := by
  refine ⟨.dedupeAndSort std raw, ?_, ?_⟩
  . intro raw' h
    have hperm : (dedupeAndSort std' raw').Perm (dedupeAndSort std raw) := by
      apply dedupeAndSort_perm
      intro network
      rw [mem_dedupeAndSort, mem_dedupeAndSort]
      exact ⟨strongest_congr fun network => (h network).symm, strongest_congr h⟩
    refine ⟨hperm, ?_⟩
    apply StdSort.map_key_eq hperm
    . apply StdSort.pairwise_sort
    . apply StdSort.pairwise_sort
  . apply dedupeAndSort_perm
    intro network
    rw [mem_dedupeAndSort, mem_dedupeAndSort, strongest_dedupeAndSort]

example
    : dedupeAndSort (StdSort.insertionSort ScannedNetwork.rssi)
          [⟨['b'], -70⟩, ⟨['a'], -80⟩, ⟨[], -20⟩, ⟨['b'], -40⟩]
        =
      [⟨['b'], -40⟩, ⟨['a'], -80⟩] := by
  decide

end

end WifiScanFormatter

end Maltbee
