import Mathlib.Data.List.AList

namespace Aipr

-- A finite map that refuses to grow past `cap`: an absent key needs a free slot.
structure BoundedMap (κ : Type u) (ν : Type v) (cap : Nat) where
  table : AList (fun _ : κ => ν)
  bounded : table.keys.length ≤ cap

namespace BoundedMap

variable {κ : Type u} {ν : Type v} {cap : Nat}

def empty : BoundedMap κ ν cap := ⟨∅,Nat.zero_le _⟩

instance : Inhabited (BoundedMap κ ν cap) := ⟨empty⟩

def keys (m : BoundedMap κ ν cap) : List κ := m.table.keys

def size (m : BoundedMap κ ν cap) : Nat := m.keys.length

def entries (m : BoundedMap κ ν cap) : List (κ × ν) := m.table.entries.map fun e => (e.1,e.2)

@[simp] theorem size_empty : (empty : BoundedMap κ ν cap).size = 0 := rfl

theorem keys_nodup (m : BoundedMap κ ν cap) : m.keys.Nodup := m.table.keys_nodup

theorem size_le (m : BoundedMap κ ν cap) : m.size ≤ cap := m.bounded

theorem count_entries (m : BoundedMap κ ν cap) {entry : κ × ν → Bool} {key : κ → Bool}
    (same : ∀ e ∈ m.entries, entry e = key e.1) : (m.entries.filter entry).length = (m.keys.filter key).length := by
  have keys : m.keys = m.entries.map Prod.fst := by
    rw [entries,List.map_map]
    rfl
  rw [keys,List.filter_map,List.length_map]
  exact congrArg List.length (List.filter_congr same)

def count (m : BoundedMap κ ν cap) (p : ν → Bool) : Nat := (m.entries.filter fun e => p e.2).length

theorem count_all (m : BoundedMap κ ν cap) {p : ν → Bool} (all : ∀ e ∈ m.entries, p e.2 = true) : m.count p = m.size := by
  rw [count,List.filter_eq_self.mpr all,entries,List.length_map]
  exact (List.length_map Sigma.fst).symm

theorem owners_nodup (m : BoundedMap κ ν cap) (p : ν → Bool) : ((m.entries.filter fun e => p e.2).map Prod.fst).Nodup := by
  have keys : m.entries.map Prod.fst = m.keys := by
    rw [entries,List.map_map]
    rfl
  exact (keys ▸ m.keys_nodup).sublist (List.filter_sublist.map _)

variable [DecidableEq κ]

def lookup (m : BoundedMap κ ν cap) (k : κ) : Option ν := m.table.lookup k

theorem mem_keys (m : BoundedMap κ ν cap) (k : κ) : k ∈ m.keys ↔ m.lookup k ≠ none := by
  rw [lookup,ne_eq,AList.lookup_eq_none,not_not]
  rfl

theorem mem_entries (m : BoundedMap κ ν cap) (k : κ) (v : ν) :
    (k,v) ∈ m.entries ↔ m.lookup k = some v := by
  rw [lookup,← Option.mem_def,AList.mem_lookup_iff]
  simp [entries]

theorem size_le_of_keys {m : BoundedMap κ ν cap} {listed : List κ}
    (covered : ∀ k, m.lookup k ≠ none → k ∈ listed) : m.size ≤ listed.length := by
  have within : m.keys ⊆ listed := fun k present => covered k ((mem_keys m k).mp present)
  exact (List.subperm_of_subset m.keys_nodup within).length_le

theorem le_size_of_keys {m : BoundedMap κ ν cap} {listed : List κ} (nodup : listed.Nodup)
    (present : ∀ k ∈ listed, m.lookup k ≠ none) : listed.length ≤ m.size := by
  have within : listed ⊆ m.keys := fun k member => (mem_keys m k).mpr (present k member)
  exact (List.subperm_of_subset nodup within).length_le

def Accepts (m : BoundedMap κ ν cap) (k : κ) : Prop := k ∈ m.keys ∨ m.size < cap

instance (m : BoundedMap κ ν cap) (k : κ) : Decidable (m.Accepts k) :=
  inferInstanceAs (Decidable (_ ∨ _))

theorem insert_fits (m : BoundedMap κ ν cap) (k : κ) (v : ν) (accepted : m.Accepts k) :
    (m.table.insert k v).keys.length ≤ cap := by
  have bound := m.bounded
  rw [AList.keys_insert,List.length_cons,List.length_erase]
  rcases accepted with present | room
  · have positive : 0 < m.table.keys.length := List.length_pos_of_mem present
    have found : k ∈ m.table.keys := present
    rw [if_pos found]
    omega
  · have room : m.table.keys.length < cap := room
    split <;> omega

def update (m : BoundedMap κ ν cap) (k : κ) (v : ν) : Option (BoundedMap κ ν cap) :=
  if accepted : m.Accepts k then some ⟨m.table.insert k v,m.insert_fits k v accepted⟩ else none

def delete (m : BoundedMap κ ν cap) (k : κ) : BoundedMap κ ν cap :=
  ⟨m.table.erase k,by
    rw [AList.keys_erase]
    exact Nat.le_trans List.length_erase_le m.bounded⟩

@[simp] theorem lookup_empty (k : κ) : (empty : BoundedMap κ ν cap).lookup k = none := rfl

theorem update_isSome (m : BoundedMap κ ν cap) (k : κ) (v : ν) :
    (m.update k v).isSome ↔ m.Accepts k := by
  unfold update
  split <;> simp_all

theorem update_eq_none (m : BoundedMap κ ν cap) (k : κ) (v : ν) :
    m.update k v = none ↔ m.lookup k = none ∧ m.size = cap := by
  have bound := m.size_le
  rw [← Option.not_isSome_iff_eq_none,update_isSome,Accepts,mem_keys]
  constructor
  · intro refused
    push Not at refused
    exact ⟨refused.1,by omega⟩
  · rintro ⟨absent,full⟩
    simp [absent,full]

theorem update_of_present (m : BoundedMap κ ν cap) (k : κ) (v : ν) (present : m.lookup k ≠ none) :
    ∃ next, m.update k v = some next := by
  cases done : m.update k v with
  | some next => exact ⟨next,rfl⟩
  | none => exact absurd ((update_eq_none m k v).mp done).1 present

theorem lookup_update {m next : BoundedMap κ ν cap} {k : κ} {v : ν} (done : m.update k v = some next)
    (other : κ) : next.lookup other = if other = k then some v else m.lookup other := by
  unfold update at done
  split at done
  · cases Option.some.inj done
    by_cases same : other = k
    · subst other
      simp [lookup]
    · simp [lookup,same]
  · cases done

theorem size_update {m next : BoundedMap κ ν cap} {k : κ} {v : ν} (done : m.update k v = some next) :
    next.size = if m.lookup k = none then m.size + 1 else m.size := by
  have listed := mem_keys m k
  unfold update at done
  split at done
  · cases Option.some.inj done
    simp only [size,keys,AList.keys_insert,List.length_cons,List.length_erase]
    split
    · rename_i found
      have positive : 0 < m.table.keys.length := List.length_pos_of_mem found
      rw [if_neg (listed.mp found)]
      omega
    · rename_i missing
      rw [if_pos (not_not.mp (fun present => missing (listed.mpr present)))]
  · cases done

theorem lookup_attempt (m : BoundedMap κ ν cap) {k other : κ} (v : ν) (apart : other ≠ k) :
    ((m.update k v).getD m).lookup other = m.lookup other := by
  cases done : m.update k v with
  | none => rfl
  | some next => exact (lookup_update done other).trans (if_neg apart)

theorem lookup_attempt_self {m : BoundedMap κ ν cap} {k : κ} (v : ν) (accepted : m.Accepts k) :
    ((m.update k v).getD m).lookup k = some v := by
  obtain ⟨next,done⟩ := Option.isSome_iff_exists.mp ((m.update_isSome k v).mpr accepted)
  rw [done,Option.getD_some,lookup_update done,if_pos rfl]

theorem size_attempt {m : BoundedMap κ ν cap} (full : m.size = cap) (k : κ) (v : ν) :
    ((m.update k v).getD m).size = cap := by
  cases done : m.update k v with
  | none => exact full
  | some next =>
    have grown := size_update done
    have bound := next.size_le
    rw [Option.getD_some]
    split at grown <;> omega

theorem lookup_delete (m : BoundedMap κ ν cap) (k other : κ) :
    (m.delete k).lookup other = if other = k then none else m.lookup other := by
  by_cases same : other = k
  · subst other
    simp [lookup,delete]
  · simp [lookup,delete,same]

def deleteAll (m : BoundedMap κ ν cap) (keys : List κ) : BoundedMap κ ν cap := keys.foldl delete m

theorem lookup_deleteAll (m : BoundedMap κ ν cap) (keys : List κ) (other : κ) :
    (m.deleteAll keys).lookup other = if other ∈ keys then none else m.lookup other := by
  induction keys generalizing m with
  | nil => simp [deleteAll]
  | cons k rest ih =>
    have tail := ih (m.delete k)
    rw [lookup_delete] at tail
    rw [deleteAll,List.foldl_cons,← deleteAll,tail]
    by_cases same : other = k
    · simp [same]
    · simp [same]

theorem keys_deleteAll (m : BoundedMap κ ν cap) (listed : List κ) :
    (m.deleteAll listed).keys = m.keys.filter fun k => k ∉ listed := by
  induction listed generalizing m with
  | nil => simp [deleteAll]
  | cons k rest ih =>
    have erased : (m.delete k).keys = m.keys.filter fun other => other != k := by
      rw [← List.Nodup.erase_eq_filter m.keys_nodup]
      exact AList.keys_erase k m.table
    rw [deleteAll,List.foldl_cons,← deleteAll,ih,erased,List.filter_filter]
    refine List.filter_congr fun other _ => ?_
    by_cases same : other = k
    · simp [same]
    · simp [same]

def gone (before after : BoundedMap κ ν cap) : Nat := (before.keys.filter fun k => after.lookup k = none).length

theorem gone_deleteAll (m : BoundedMap κ ν cap) (listed : List κ) :
    m.gone (m.deleteAll listed) = (m.keys.filter fun k => k ∈ listed).length := by
  rw [gone]
  congr 1
  refine List.filter_congr fun k present => ?_
  rw [lookup_deleteAll]
  have held := (mem_keys m k).mp present
  by_cases doomed : k ∈ listed
  · simp [doomed]
  · simp [doomed,held]

theorem mem_owners (m : BoundedMap κ ν cap) (p : ν → Bool) (k : κ) :
    k ∈ (m.entries.filter fun e => p e.2).map Prod.fst ↔ ∃ v, m.lookup k = some v ∧ p v = true := by
  simp [mem_entries]

theorem count_within {m next : BoundedMap κ ν cap} {p : ν → Bool} (listed : List κ)
    (within : ∀ k v, next.lookup k = some v → p v = true → (∃ old, m.lookup k = some old ∧ p old = true) ∨ k ∈ listed) :
    next.count p ≤ m.count p + listed.length := by
  have covered : (next.entries.filter fun e => p e.2).map Prod.fst ⊆ (m.entries.filter fun e => p e.2).map Prod.fst ++ listed := by
    intro k member
    obtain ⟨v,found,good⟩ := (mem_owners next p k).mp member
    rw [List.mem_append,mem_owners]
    exact within k v found good
  have short := (List.subperm_of_subset (owners_nodup next p) covered).length_le
  rwa [List.length_map,List.length_append,List.length_map] at short

theorem count_delete (m : BoundedMap κ ν cap) (k : κ) (p : ν → Bool) : (m.delete k).count p ≤ m.count p := by
  refine count_within [] fun x v found good => .inl ⟨v,?_,good⟩
  rw [lookup_delete] at found
  split at found
  · cases found
  · exact found

def spared (m : BoundedMap κ ν cap) (doomed : List κ) : Nat := (m.keys.filter (· ∉ doomed)).length

theorem spared_all (m : BoundedMap κ ν cap) : m.spared [] = m.size := by
  simp [spared,size]

theorem spared_short {m : BoundedMap κ ν cap} {doomed : List κ} (listed : List κ)
    (within : ∀ k, m.lookup k ≠ none → k ∉ doomed → k ∈ listed) : m.spared doomed ≤ listed.length := by
  refine (List.subperm_of_subset (m.keys_nodup.filter _) fun k member => ?_).length_le
  obtain ⟨present,spare⟩ := List.mem_filter.mp member
  exact within k ((mem_keys m k).mp present) (of_decide_eq_true spare)

theorem spared_within {m next : BoundedMap κ ν cap} {doomed left : List κ} (listed : List κ)
    (within : ∀ k, next.lookup k ≠ none → k ∉ left → (m.lookup k ≠ none ∧ k ∉ doomed) ∨ k ∈ listed) :
    next.spared left ≤ m.spared doomed + listed.length := by
  rw [spared.eq_def m,← List.length_append]
  refine spared_short _ fun k present spare => ?_
  rw [List.mem_append,List.mem_filter,mem_keys,decide_eq_true_eq]
  exact within k present spare

end BoundedMap
end Aipr
