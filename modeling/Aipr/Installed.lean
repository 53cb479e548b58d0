import Aipr.Reconcile

namespace Aipr.Syncer
open NodeportTc LastWriter

-- What the tables hold under the key of one entry: its SNAT address and count,
-- its backends slot by slot in order, and no slot after the last one.
structure EntryInstalled (m : Maps) (e : NodePortEntry) (key : NodeportKey) : Prop where
  service : ∃ count ip, parseIPv4 e.snatIP = some ip ∧ count.toNat = e.backends.length ∧
    m.service.lookup key = some ⟨count,0,ip⟩
  filled : ∀ (slot : UInt32) (low : slot.toNat < e.backends.length), ∃ value,
    marshalBackendValue e.backends[slot.toNat] = .ok value ∧ m.backend.lookup ⟨key,slot⟩ = some value.toC
  spare : ∀ slot : UInt32, e.backends.length ≤ slot.toNat → m.backend.lookup ⟨key,slot⟩ = none

structure Installed (m : Maps) (d : DesiredSet) : Prop where
  entry : ∀ id e, d.lookup id = some e → ∃ key, e.frontend = some key ∧ EntryInstalled m e key
  apart : ∀ id other e e', d.lookup id = some e → d.lookup other = some e' → e.frontend = e'.frontend → id = other
  services : ∀ key, m.service.lookup key ≠ none → ∃ id e, d.lookup id = some e ∧ e.frontend = some key
  backends : ∀ key slot, m.backend.lookup ⟨key,slot⟩ ≠ none → ∃ id e, d.lookup id = some e ∧ e.frontend = some key

section Cells
variable {m : Maps} {e : NodePortEntry} {key : NodeportKey}

theorem cells_service {value : NodeportValue} :
    cells m (.service key) = some (.service value) ↔ m.service.lookup key = some value := by
  simp [cells]

theorem cells_backend {k : NodeportBackendKey} {value : NodeportBackendValue} :
    cells m (.backend k) = some (.backend value) ↔ m.backend.lookup k = some value := by
  simp [cells]

theorem cells_absent : cells m (.service key) = none ↔ m.service.lookup key = none := by
  simp [cells]

theorem cells_spare {k : NodeportBackendKey} : cells m (.backend k) = none ↔ m.backend.lookup k = none := by
  simp [cells]

theorem entry_filled (valid : e.Marshals) (found : e.frontend = some key) {i : Nat} (low : i < e.backends.length) :
    entryCells e (.backend ⟨key,UInt32.ofNat i⟩) ≠ none := by
  obtain ⟨goKey,_,marshalled,_,_,slots⟩ := upsert_all valid
  cases Option.some.inj ((frontend_of_key marshalled).symm.trans found)
  obtain ⟨slot,_,member⟩ := slots i low
  rcases replay_cell (upsertEntry false e).writes (.backend ⟨goKey.toC,UInt32.ofNat i⟩) with ⟨apart,_⟩ | ⟨content,other,fixed⟩
  · exact absurd rfl (apart _ member)
  · rw [entryCells,fixed]
    obtain ⟨_,_,⟨_,_,same⟩ | ⟨_,_,_,_,_,same⟩⟩ := upsert_source other
    · cases same
    · cases congrArg Prod.snd same
      exact Option.some_ne_none _

theorem slots_fit {k : Nat} (word : k ≤ 2^32) (filled : ∀ i < k, m.backend.lookup ⟨key,UInt32.ofNat i⟩ ≠ none) : k ≤ 4096 := by
  let slots : List NodeportBackendKey := (List.range k).map fun i => ⟨key,UInt32.ofNat i⟩
  have nodup : slots.Nodup := by
    refine List.Nodup.map_on (fun i low j low' same => ?_) List.nodup_range
    rw [List.mem_range] at low low'
    have numbers := congrArg (fun k => k.slot.toNat) same
    simp only [UInt32.toNat_ofNat'] at numbers
    omega
  have present : ∀ k ∈ slots, m.backend.lookup k ≠ none := by
    intro k member
    obtain ⟨i,listed,rfl⟩ := List.mem_map.mp member
    exact filled i (List.mem_range.mp listed)
  have fits := BoundedMap.le_size_of_keys nodup present
  rw [List.length_map,List.length_range] at fits
  exact Nat.le_trans fits m.backend.size_le

-- A slot for every backend fits into the backend table, so no count overflows.
theorem installed_length (valid : e.Marshals) (found : e.frontend = some key)
    (shown : ∀ cell, cell.frontend = key → cells m cell = entryCells e cell) : e.backends.length ≤ 4096 := by
  have fits := slots_fit (m := m) (Nat.min_le_right e.backends.length (2^32)) fun i low absent => by
    have filled := entry_filled valid found (Nat.lt_of_lt_of_le low (Nat.min_le_left _ _))
    rw [← shown (.backend ⟨key,UInt32.ofNat i⟩) rfl] at filled
    exact filled (cells_spare.mpr absent)
  omega

theorem entry_installed (valid : e.Marshals) (found : e.frontend = some key)
    (shown : ∀ cell, cell.frontend = key → cells m cell = entryCells e cell) : EntryInstalled m e key := by
  have short := installed_length valid found shown
  have word : e.backends.length ≤ 2^32 := by omega
  refine ⟨?_,?_,?_⟩
  · obtain ⟨ip,parsed,here⟩ := entry_service valid found
    refine ⟨UInt32.ofNat e.backends.length,ip,parsed,?_,cells_service.mp ((shown _ rfl).trans here)⟩
    rw [UInt32.toNat_ofNat']
    omega
  · intro slot low
    obtain ⟨value,marshalled,here⟩ := (entry_slot valid found word slot).1 low
    exact ⟨value,marshalled,cells_backend.mp ((shown _ rfl).trans here)⟩
  · intro slot high
    exact cells_spare.mp ((shown _ rfl).trans ((entry_slot valid found word slot).2 high))

end Cells

theorem installed_of_encodes {m : Maps} {d : DesiredSet} (encoded : Encodes (cells m) d.lookup)
    (valid : ∀ id e, d.lookup id = some e → e.Marshals) : Installed m d := by
  have claimed : ∀ cell, cells m cell ≠ none → ∃ id e, d.lookup id = some e ∧ e.frontend = some cell.frontend := by
    intro cell shown
    by_contra unclaimed
    push Not at unclaimed
    exact shown (encoded.absent cell unclaimed)
  refine ⟨?_,?_,?_,?_⟩
  · intro id e found
    obtain ⟨goKey,_,marshalled,_,_,_⟩ := upsert_all (valid id e found)
    have here := frontend_of_key marshalled
    refine ⟨_,here,entry_installed (valid id e found) here fun cell same => ?_⟩
    exact encoded.present id e cell found (same ▸ here)
  · intro id other e e' found found' shared
    obtain ⟨goKey,_,marshalled,_,_,_⟩ := upsert_all (valid id e found)
    have here := frontend_of_key marshalled
    by_contra differ
    exact d.placed.apart found found' (fun same => differ same.symm) (shared.symm.trans here) here
  · exact fun key present => claimed (.service key) fun absent => present (cells_absent.mp absent)
  · exact fun key slot present => claimed (.backend ⟨key,slot⟩) fun absent => present (cells_spare.mp absent)

end Aipr.Syncer
