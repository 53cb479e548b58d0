import Aipr.EntryScript
import Mathlib.Data.List.Sort

namespace Aipr.Syncer
open NodeportTc LastWriter

abbrev Entries := AList (fun _ : ServiceID => NodePortEntry)

theorem mem_keys (entries : Entries) (id : ServiceID) : id ∈ entries.keys ↔ entries.lookup id ≠ none := by
  rw [ne_eq,AList.lookup_eq_none,not_not]
  rfl

-- desiredEntries files each entry under its own ID, and Kubernetes gives a NodePort to
-- one service port only; a value of this type cannot say otherwise.
structure DesiredSet where
  table : Entries
  keyed : ∀ id e, table.lookup id = some e → e.id = id
  distinct : ∀ id other, table.lookup id ≠ none → table.lookup other ≠ none → id.nodePort = other.nodePort → id = other

namespace DesiredSet

def empty : DesiredSet := ⟨∅,(fun _ _ found => by cases found),fun _ _ found => absurd rfl found⟩

instance : Coe DesiredSet Entries := ⟨table⟩

def lookup (d : DesiredSet) (id : ServiceID) : Option NodePortEntry := d.table.lookup id

def ids (d : DesiredSet) : List ServiceID := d.table.keys

-- Indexing a Go map: the zero entry when the key is absent.
def get (d : DesiredSet) (id : ServiceID) : NodePortEntry := (d.lookup id).getD default

def single (e : NodePortEntry) : DesiredSet where
  table := AList.singleton e.id e
  keyed := by
    intro id other found
    have listed := AList.mem_lookup_iff.mp found
    rw [AList.singleton_entries,List.mem_singleton] at listed
    cases listed
    rfl
  distinct := by
    intro id other here there _
    rw [ne_eq,AList.lookup_eq_none,not_not,AList.mem_keys,AList.keys_singleton,List.mem_singleton] at here there
    rw [here,there]

theorem single_source {e other : NodePortEntry} {id : ServiceID} (found : (single e).lookup id = some other) : other = e := by
  have listed := AList.mem_lookup_iff.mp found
  rw [single,AList.singleton_entries,List.mem_singleton] at listed
  cases listed
  rfl

theorem mem_ids (d : DesiredSet) (id : ServiceID) : id ∈ d.ids ↔ d.lookup id ≠ none := mem_keys d.table id

theorem get_of_lookup {d : DesiredSet} {id : ServiceID} {e : NodePortEntry} (found : d.lookup id = some e) :
    d.get id = e := by
  rw [get,found]
  rfl

end DesiredSet

def serviceIDLess (a b : ServiceID) : Bool :=
  if a.nameSpace ≠ b.nameSpace then a.nameSpace < b.nameSpace
  else if a.name ≠ b.name then a.name < b.name
  else a.nodePort < b.nodePort

def sortServiceIDs (ids : List ServiceID) : List ServiceID := ids.insertionSort fun a b => serviceIDLess b a = false

def sortedRemovedIDs (oldEntries newEntries : Entries) : List ServiceID :=
  sortServiceIDs (oldEntries.keys.filter fun id => newEntries.lookup id = none)

def changed (oldEntries newEntries : Entries) (id : ServiceID) : Bool :=
  match oldEntries.lookup id with
  | none => true
  | some oldEntry => !oldEntry.equal ((newEntries.lookup id).getD default)

def sortedChangedIDs (oldEntries newEntries : Entries) : List ServiceID :=
  sortServiceIDs (newEntries.keys.filter fun id => changed oldEntries newEntries id)

def replaceEntry (dryRun : Bool) (old : Option NodePortEntry) (new : NodePortEntry) : Script :=
  match old with
  | some old => (deleteEntry dryRun old).andThen (upsertEntry dryRun new)
  | none => upsertEntry dryRun new

-- The part of reconcile that follows the reading of the desired entries.
def reconcileEntries (dryRun : Bool) (applied desired : Entries) : Script :=
  Script.all ((sortedRemovedIDs applied desired).map (fun id => deleteEntry dryRun ((applied.lookup id).getD default)) ++
    (sortedChangedIDs applied desired).map fun id =>
      replaceEntry dryRun (applied.lookup id) ((desired.lookup id).getD default))

theorem reconcileEntries_sets (dryRun : Bool) (applied desired : DesiredSet) : reconcileEntries dryRun applied desired =
    Script.all ((sortedRemovedIDs applied desired).map (fun id => deleteEntry dryRun (applied.get id)) ++
      (sortedChangedIDs applied desired).map fun id => replaceEntry dryRun (applied.lookup id) (desired.get id)) := rfl

section Ids

theorem mem_sorted (ids : List ServiceID) (id : ServiceID) : id ∈ sortServiceIDs ids ↔ id ∈ ids :=
  (List.perm_insertionSort _ ids).mem_iff

theorem nodup_sorted {ids : List ServiceID} (nodup : ids.Nodup) : (sortServiceIDs ids).Nodup :=
  (List.perm_insertionSort _ ids).nodup_iff.mpr nodup

theorem mem_removed (applied desired : Entries) (id : ServiceID) :
    id ∈ sortedRemovedIDs applied desired ↔ applied.lookup id ≠ none ∧ desired.lookup id = none := by
  rw [sortedRemovedIDs,mem_sorted,List.mem_filter,decide_eq_true_eq,mem_keys]

theorem mem_changed (applied desired : Entries) (id : ServiceID) :
    id ∈ sortedChangedIDs applied desired ↔ desired.lookup id ≠ none ∧ applied.lookup id ≠ desired.lookup id := by
  rw [sortedChangedIDs,mem_sorted,List.mem_filter,mem_keys]
  refine and_congr_right fun present => ?_
  obtain ⟨e,found⟩ := Option.ne_none_iff_exists'.mp present
  unfold changed
  cases old : applied.lookup id with
  | none => simp [found]
  | some oldEntry =>
    simp only [found,Option.getD_some,ne_eq,Option.some.injEq,← equal_iff,Bool.not_eq_true',Bool.not_eq_true]

end Ids

section Placement

structure Encodes (view : View Cell Word) (placed : ServiceID → Option NodePortEntry) : Prop where
  present : ∀ id e cell, placed id = some e → e.frontend = some cell.frontend → view cell = entryCells e cell
  absent : ∀ cell, (∀ id e, placed id = some e → e.frontend ≠ some cell.frontend) → view cell = none

structure Placed (placed : ServiceID → Option NodePortEntry) : Prop where
  keyed : ∀ id e, placed id = some e → e.id = id
  distinct : ∀ id other, placed id ≠ none → placed other ≠ none → id.nodePort = other.nodePort → id = other

def without (placed : ServiceID → Option NodePortEntry) (id : ServiceID) : ServiceID → Option NodePortEntry :=
  fun other => if other = id then none else placed other

def withEntry (placed : ServiceID → Option NodePortEntry) (id : ServiceID) (e : NodePortEntry) :
    ServiceID → Option NodePortEntry :=
  fun other => if other = id then some e else placed other

theorem DesiredSet.placed (d : DesiredSet) : Placed d.lookup := ⟨d.keyed,d.distinct⟩

variable {view : View Cell Word} {placed : ServiceID → Option NodePortEntry} {id : ServiceID} {e : NodePortEntry}

theorem Placed.apart (valid : Placed placed) {other : ServiceID} {e' : NodePortEntry} (found : placed id = some e)
    (found' : placed other = some e') (differ : other ≠ id) {key : NodeportKey} (here : e'.frontend = some key) :
    e.frontend ≠ some key := by
  intro shared
  have ports := frontend_nodePort shared here
  rw [valid.keyed id e found,valid.keyed other e' found'] at ports
  exact differ (valid.distinct id other (by rw [found]; exact Option.some_ne_none e)
    (by rw [found']; exact Option.some_ne_none e') ports).symm

theorem encodes_without (encoded : Encodes view placed) (valid : Placed placed) (found : placed id = some e) :
    Encodes (replay view (deleteEntry false e).writes) (without placed id) := by
  constructor
  · intro other e' cell kept here
    unfold without at kept
    split at kept
    · cases kept
    · rename_i differ
      rw [delete_outside (valid.apart found kept differ here)]
      exact encoded.present other e' cell kept here
  · intro cell free
    by_cases own : e.frontend = some cell.frontend
    · exact delete_clears (encoded.present id e cell found own)
    · rw [delete_outside own]
      refine encoded.absent cell fun other e' there here => ?_
      by_cases same : other = id
      · rw [same,found] at there
        cases Option.some.inj there
        exact own here
      · exact free other e' ((if_neg same).trans there) here

theorem encodes_with (encoded : Encodes view placed) (valid : Placed (withEntry placed id e)) (free : placed id = none) :
    Encodes (replay view (upsertEntry false e).writes) (withEntry placed id e) := by
  have mine : withEntry placed id e id = some e := if_pos rfl
  constructor
  · intro other e' cell there here
    by_cases same : other = id
    · rw [same,mine] at there
      cases Option.some.inj there
      -- the key is free, so the upsert starts from blank cells
      refine replay_pointwise _ (encoded.absent cell fun third e'' elsewhere taken => ?_)
      have differ : third ≠ id := fun same => by
        rw [same,free] at elsewhere
        cases elsewhere
      exact valid.apart mine ((if_neg differ).trans elsewhere) differ taken here
    · have elsewhere : placed other = some e' := (if_neg same).symm.trans there
      rw [upsert_outside (valid.apart mine there same here)]
      exact encoded.present other e' cell elsewhere here
  · intro cell unclaimed
    rw [upsert_outside (unclaimed id e mine)]
    refine encoded.absent cell fun other e' there => unclaimed other e' ?_
    refine (if_neg fun same => ?_).trans there
    rw [same,free] at there
    cases there

end Placement

section Sequence

theorem calls_all {scripts : List Script} (succeeded : (Script.all scripts).error = none) :
    (Script.all scripts).calls = scripts.flatMap Script.calls ∧ ∀ s ∈ scripts, s.error = none := by
  induction scripts with
  | nil => exact ⟨rfl,fun _ member => (List.not_mem_nil member).elim⟩
  | cons first rest ih =>
    obtain ⟨head,tail⟩ := (error_andThen _ _).mp succeeded
    obtain ⟨calls,errors⟩ := ih tail
    refine ⟨?_,?_⟩
    · rw [Script.all,calls_andThen,if_pos head,calls,List.flatMap_cons]
    · intro s member
      rcases List.mem_cons.mp member with rfl | later
      · exact head
      · exact errors s later

theorem writes_all {scripts : List Script} (succeeded : (Script.all scripts).error = none) :
    (Script.all scripts).writes = scripts.flatMap Script.writes := by
  rw [Script.writes,(calls_all succeeded).1,List.filterMap_flatMap]
  rfl

theorem error_all {scripts : List Script} (succeed : ∀ s ∈ scripts, s.error = none) : (Script.all scripts).error = none := by
  induction scripts with
  | nil => rfl
  | cons first rest ih =>
    refine (error_andThen _ _).mpr ⟨succeed first List.mem_cons_self,ih fun s member => ?_⟩
    exact succeed s (List.mem_cons_of_mem _ member)

theorem mem_calls_all {scripts : List Script} {c : Call} (member : c ∈ (Script.all scripts).calls) : ∃ s ∈ scripts, c ∈ s.calls := by
  induction scripts with
  | nil => cases member
  | cons first rest ih =>
    rw [Script.all,calls_andThen] at member
    rcases List.mem_append.mp member with here | later
    · exact ⟨first,List.mem_cons_self,here⟩
    · split at later
      · obtain ⟨s,listed,found⟩ := ih later
        exact ⟨s,List.mem_cons_of_mem _ listed,found⟩
      · cases later

theorem mem_writes_all {scripts : List Script} {write : Write Cell Word} (member : write ∈ (Script.all scripts).writes) :
    ∃ s ∈ scripts, write ∈ s.writes := by
  obtain ⟨c,called,wrote⟩ := List.mem_filterMap.mp member
  obtain ⟨s,listed,found⟩ := mem_calls_all called
  exact ⟨s,listed,List.mem_filterMap.mpr ⟨c,found,wrote⟩⟩

variable {applied desired : DesiredSet}

theorem encodes_removals (ids : List ServiceID) (nodup : ids.Nodup) {view : View Cell Word}
    {placed : ServiceID → Option NodePortEntry} (encoded : Encodes view placed) (valid : Placed placed)
    (filed : ∀ id ∈ ids, placed id = some (applied.get id)) :
    Encodes (replay view (ids.flatMap fun id => (deleteEntry false (applied.get id)).writes))
      fun id => if id ∈ ids then none else placed id := by
  induction ids generalizing view placed with
  | nil => simpa [replay] using encoded
  | cons id rest ih =>
    obtain ⟨fresh,restNodup⟩ := List.nodup_cons.mp nodup
    have fewer : Placed (without placed id) := by
      refine ⟨fun other e there => ?_,fun one two first second => ?_⟩
      · unfold without at there
        split at there
        · cases there
        · exact valid.keyed other e there
      · unfold without at first second
        split at first
        · exact absurd rfl first
        · split at second
          · exact absurd rfl second
          · exact valid.distinct one two first second
    have later : ∀ other ∈ rest, without placed id other = some (applied.get other) := by
      intro other member
      refine (if_neg fun same => ?_).trans (filed other (List.mem_cons_of_mem _ member))
      exact fresh (same ▸ member)
    have step := ih restNodup (encodes_without encoded valid (filed id List.mem_cons_self)) fewer later
    rw [List.flatMap_cons,replay_append]
    convert step using 2 with other
    unfold without
    by_cases same : other = id
    · simp [same]
    · simp [same]

theorem replace_ok {old : Option NodePortEntry} {new : NodePortEntry} (succeeded : (replaceEntry false old new).error = none) :
    new.Marshals ∧ (replaceEntry false old new).writes =
      (old.elim [] fun old => (deleteEntry false old).writes) ++ (upsertEntry false new).writes := by
  cases old with
  | none => exact ⟨succeeded,rfl⟩
  | some old =>
    obtain ⟨deleted,upserted⟩ := (error_andThen _ _).mp succeeded
    refine ⟨upserted,?_⟩
    rw [replaceEntry,writes_andThen,if_pos deleted]
    rfl

theorem encodes_cleared {view : View Cell Word} {placed : ServiceID → Option NodePortEntry} {id : ServiceID}
    {old : Option NodePortEntry} (encoded : Encodes view placed) (valid : Placed placed) (here : placed id = old) :
    Encodes (replay view (old.elim [] fun e => (deleteEntry false e).writes)) (without placed id) := by
  cases old with
  | none =>
    have same : without placed id = placed := by
      funext other
      unfold without
      split
      · rename_i equal
        rw [equal,here]
      · rfl
    rw [same]
    exact encoded
  | some e => exact encodes_without encoded valid here

theorem placed_within {placed : ServiceID → Option NodePortEntry} (keyed : ∀ id e, placed id = some e → e.id = id)
    (within : ∀ id, placed id ≠ none → desired.lookup id ≠ none) : Placed placed :=
  ⟨keyed,fun one two first second => desired.distinct one two (within one first) (within two second)⟩

-- Every listed service goes from its applied to its desired entry; what is placed lies
-- within the desired services, so no two of its entries share a NodePort.
theorem encodes_replacements (ids : List ServiceID) (nodup : ids.Nodup) {view : View Cell Word}
    {placed : ServiceID → Option NodePortEntry} (encoded : Encodes view placed)
    (keyed : ∀ id e, placed id = some e → e.id = id) (within : ∀ id, placed id ≠ none → desired.lookup id ≠ none)
    (filed : ∀ id ∈ ids, placed id = applied.lookup id) (wanted : ∀ id ∈ ids, desired.lookup id ≠ none)
    (succeed : ∀ id ∈ ids, (replaceEntry false (applied.lookup id) (desired.get id)).error = none) :
    Encodes (replay view (ids.flatMap fun id => (replaceEntry false (applied.lookup id) (desired.get id)).writes))
      fun id => if id ∈ ids then desired.lookup id else placed id := by
  induction ids generalizing view placed with
  | nil => simpa [replay] using encoded
  | cons id rest ih =>
    obtain ⟨fresh,restNodup⟩ := List.nodup_cons.mp nodup
    obtain ⟨e,found⟩ := Option.ne_none_iff_exists'.mp (wanted id List.mem_cons_self)
    have got := DesiredSet.get_of_lookup found
    obtain ⟨_,writes⟩ := replace_ok (succeed id List.mem_cons_self)
    have valid := placed_within keyed within
    have withinNext : ∀ other, withEntry (without placed id) id e other ≠ none → desired.lookup other ≠ none := by
      intro other there
      by_cases same : other = id
      · rw [same,found]
        exact Option.some_ne_none e
      · simp only [withEntry,without,if_neg same] at there
        exact within other there
    have keyedNext : ∀ other e', withEntry (without placed id) id e other = some e' → e'.id = other := by
      intro other e' there
      by_cases same : other = id
      · simp only [withEntry,if_pos same] at there
        cases Option.some.inj there
        rw [same]
        exact desired.keyed id e found
      · simp only [withEntry,without,if_neg same] at there
        exact keyed other e' there
    have validNext := placed_within keyedNext withinNext
    have cleared := encodes_cleared encoded valid (filed id List.mem_cons_self)
    have placedNext := encodes_with cleared validNext (if_pos rfl)
    have step := ih restNodup placedNext keyedNext withinNext
      (fun other member => by
        have differ : other ≠ id := fun same => fresh (same ▸ member)
        simp only [withEntry,without,if_neg differ]
        exact filed other (List.mem_cons_of_mem _ member))
      (fun other member => wanted other (List.mem_cons_of_mem _ member))
      (fun other member => succeed other (List.mem_cons_of_mem _ member))
    rw [List.flatMap_cons,writes,got,replay_append,replay_append]
    convert step using 2 with other
    by_cases same : other = id
    · simp [same,withEntry,fresh,found]
    · simp [same,withEntry,without]

-- The heart of reconcile: from a board with the applied entries to one with the desired.
theorem reconcile_settles {view : View Cell Word} (encoded : Encodes view applied.lookup)
    (valid : ∀ id e, applied.lookup id = some e → e.Marshals)
    (succeeded : (reconcileEntries false applied desired).error = none) :
    Encodes (replay view (reconcileEntries false applied desired).writes) desired.lookup ∧
      ∀ id e, desired.lookup id = some e → e.Marshals := by
  rw [reconcileEntries_sets] at succeeded ⊢
  have writes := writes_all succeeded
  obtain ⟨_,errors⟩ := calls_all succeeded
  have removedNodup : (sortedRemovedIDs applied desired).Nodup :=
    nodup_sorted (applied.table.keys_nodup.filter _)
  have changedNodup : (sortedChangedIDs applied desired).Nodup :=
    nodup_sorted (desired.table.keys_nodup.filter _)
  have replaced : ∀ id ∈ sortedChangedIDs applied desired,
      (replaceEntry false (applied.lookup id) (desired.get id)).error = none :=
    fun id member => errors _ (List.mem_append_right _ (List.mem_map_of_mem member))
  have removals := encodes_removals (sortedRemovedIDs applied desired) removedNodup encoded
    applied.placed fun id member => by
      obtain ⟨e,found⟩ := Option.ne_none_iff_exists'.mp ((mem_removed _ _ _).mp member).1
      exact found.trans (congrArg some (DesiredSet.get_of_lookup found).symm)
  have replacements := encodes_replacements
    (sortedChangedIDs applied desired) changedNodup removals
    (fun id e there => by
      split at there
      · cases there
      · exact applied.keyed id e there)
    (fun id there missing => by
      split at there
      · exact there rfl
      · rename_i kept
        exact kept ((mem_removed _ _ _).mpr ⟨there,missing⟩))
    (fun id member => if_neg fun removed =>
      ((mem_changed _ _ _).mp member).1 ((mem_removed _ _ _).mp removed).2)
    (fun id member => ((mem_changed _ _ _).mp member).1) replaced
  constructor
  · rw [writes,List.flatMap_append,List.flatMap_map,List.flatMap_map,replay_append]
    convert replacements using 1
    funext id
    split
    · rfl
    · rename_i unchanged
      split
      · rename_i removed
        exact ((mem_removed _ _ _).mp removed).2
      · rename_i kept
        cases wanted : desired.lookup id with
        | none =>
          cases old : applied.lookup id with
          | none => rfl
          | some e => exact absurd ((mem_removed _ _ _).mpr ⟨old.trans_ne (Option.some_ne_none e),wanted⟩) kept
        | some e =>
          have same : ¬ applied.lookup id ≠ desired.lookup id := fun differ =>
            unchanged ((mem_changed _ _ _).mpr ⟨wanted.trans_ne (Option.some_ne_none e),differ⟩)
          rw [← wanted]
          exact (not_not.mp same).symm
  · intro id e found
    by_cases member : id ∈ sortedChangedIDs applied desired
    · have marshalled := (replace_ok (replaced id member)).1
      rwa [DesiredSet.get_of_lookup found] at marshalled
    · have same : ¬ applied.lookup id ≠ desired.lookup id := fun differ =>
        member ((mem_changed _ _ _).mpr ⟨found.trans_ne (Option.some_ne_none e),differ⟩)
      exact valid id e ((not_not.mp same).trans found)

theorem reconcile_error (old : ∀ id e, applied.lookup id = some e → e.Marshals)
    (new : ∀ id e, desired.lookup id = some e → e.Marshals) : (reconcileEntries false applied desired).error = none := by
  rw [reconcileEntries_sets]
  refine error_all fun s member => ?_
  rcases List.mem_append.mp member with removal | replacement
  · obtain ⟨id,listed,rfl⟩ := List.mem_map.mp removal
    obtain ⟨e,found⟩ := Option.ne_none_iff_exists'.mp ((mem_removed _ _ _).mp listed).1
    rw [DesiredSet.get_of_lookup found]
    exact delete_accepts (old id e found)
  · obtain ⟨id,listed,rfl⟩ := List.mem_map.mp replacement
    obtain ⟨e,found⟩ := Option.ne_none_iff_exists'.mp ((mem_changed _ _ _).mp listed).1
    rw [DesiredSet.get_of_lookup found]
    cases before : applied.lookup id with
    | none => exact new id e found
    | some oldEntry => exact (error_andThen _ _).mpr ⟨delete_accepts (old id oldEntry before),new id e found⟩

theorem reconcile_nothing (same : ∀ id, applied.lookup id = desired.lookup id) (dryRun : Bool) :
    reconcileEntries dryRun applied desired = .done := by
  have removed : sortedRemovedIDs applied desired = [] := by
    refine List.eq_nil_iff_forall_not_mem.mpr fun id member => ?_
    obtain ⟨present,missing⟩ := (mem_removed _ _ _).mp member
    exact present ((same id).trans missing)
  have changed : sortedChangedIDs applied desired = [] :=
    List.eq_nil_iff_forall_not_mem.mpr fun id member => ((mem_changed _ _ _).mp member).2 (same id)
  rw [reconcileEntries,removed,changed]
  rfl

-- A write is a clearing under the key of an applied entry that is not kept, or belongs to
-- the upsert of a desired entry.
theorem reconcile_source {write : Write Cell Word} (member : write ∈ (reconcileEntries false applied desired).writes) :
    (write.2 = none ∧ ∃ id e, applied.lookup id = some e ∧ desired.lookup id ≠ some e ∧
      e.frontend = some write.1.frontend) ∨ ∃ id e, desired.lookup id = some e ∧ write ∈ (upsertEntry false e).writes := by
  have cleared : ∀ {id e}, applied.lookup id = some e → desired.lookup id ≠ some e → write ∈ (deleteEntry false e).writes →
      write.2 = none ∧ ∃ id e, applied.lookup id = some e ∧ desired.lookup id ≠ some e ∧
        e.frontend = some write.1.frontend := by
    intro id e found dropped deleted
    refine ⟨?_,id,e,found,dropped,delete_local deleted⟩
    obtain ⟨_,_,⟨_,_,same⟩ | same⟩ := delete_source.mp deleted
    · rw [same]
    · rw [same]
  rw [reconcileEntries_sets] at member
  obtain ⟨s,listed,here⟩ := mem_writes_all member
  rcases List.mem_append.mp listed with removal | replacement
  · obtain ⟨id,removed,rfl⟩ := List.mem_map.mp removal
    obtain ⟨present,unwanted⟩ := (mem_removed _ _ _).mp removed
    obtain ⟨e,found⟩ := Option.ne_none_iff_exists'.mp present
    rw [DesiredSet.get_of_lookup found] at here
    exact .inl (cleared found (unwanted.trans_ne (Option.some_ne_none e).symm) here)
  · obtain ⟨id,replaced,rfl⟩ := List.mem_map.mp replacement
    obtain ⟨present,differs⟩ := (mem_changed _ _ _).mp replaced
    obtain ⟨e,found⟩ := Option.ne_none_iff_exists'.mp present
    rw [DesiredSet.get_of_lookup found] at here
    cases before : applied.lookup id with
    | none =>
      rw [before] at here
      exact .inr ⟨id,e,found,here⟩
    | some oldEntry =>
      rw [before,replaceEntry,writes_andThen] at here
      rcases List.mem_append.mp here with deleted | upserted
      · exact .inl (cleared before (fun same => differs (before.trans same.symm)) deleted)
      · split at upserted
        · exact .inr ⟨id,e,found,upserted⟩
        · cases upserted

end Sequence
end Aipr.Syncer
