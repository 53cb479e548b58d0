import Aipr.SharedPort

namespace Aipr.ClearTarget
open NodeportTc Syncer LastWriter

-- controller.clearTargetState. What it deletes are the entries that are wanted now.
def clearTargetState (clearTarget dryRun : Bool) (reason : String) (desiredEntries : DesiredSet) : Script :=
  if clearTarget = false then .done
  else if desiredEntries.ids = [] then .fail s!"{reason}: no desired target entries found"
  else Script.all ((sortServiceIDs desiredEntries.ids).map fun id => deleteEntry dryRun (desiredEntries.get id))

-- The start of a oneshot run: nothing has been applied before the first reconcile.
def startOneshot (clearTarget dryRun : Bool) (config : DeliveryConfig) (desiredEntries : DesiredSet) : Script :=
  (clearTargetState clearTarget dryRun "initial target clear" desiredEntries).andThen
    (SharedPort.reconcile dryRun none config ∅ desiredEntries.table)

-- Under the frontends of the desired entries the tables hold these entries,
-- nothing else and no index.
def ExactlyInstalled (m : Maps) (desired : DesiredSet) : Prop :=
  ∀ id e, desired.lookup id = some e → ∃ key, e.frontend = some key ∧ EntryInstalled m e key ∧ m.rrState.lookup key = none

def WithinDesired (m : Maps) (desired : DesiredSet) : Prop :=
  ∀ id e key, desired.lookup id = some e → e.frontend = some key →
    ∀ slot : UInt32, e.backends.length ≤ slot.toNat → m.backend.lookup ⟨key,slot⟩ = none

section Parts
variable {config : DeliveryConfig} {desired : DesiredSet} {m left : Maps}

theorem sorted_empty : sortedRemovedIDs ∅ desired.table = [] := by
  refine List.eq_nil_iff_forall_not_mem.mpr fun id member => ?_
  exact ((mem_removed _ _ _).mp member).1 (AList.lookup_empty id)

theorem reconcile_empty : reconcileEntries false ∅ desired.table =
    Script.all ((sortedChangedIDs ∅ desired.table).map fun id => upsertEntry false (desired.get id)) := by
  rw [reconcileEntries,sorted_empty]
  rfl

theorem mem_installed (id : ServiceID) : id ∈ sortedChangedIDs ∅ desired.table ↔ desired.lookup id ≠ none := by
  rw [mem_changed,AList.lookup_empty]
  exact ⟨And.left,fun present => ⟨present,fun absent => present absent.symm⟩⟩

theorem nodup_installed : (sortedChangedIDs ∅ desired.table).Nodup :=
  nodup_sorted (desired.table.nodupKeys.filter _)

structure Parts (config : DeliveryConfig) (desired : DesiredSet) : Prop where
  marshals : ∀ id e, desired.lookup id = some e → e.Marshals
  deletes : ∀ id e, desired.lookup id = some e → (deleteEntry false e).calls ⊆ (startOneshot true false config desired).calls
  writes : (startOneshot true false config desired).writes =
    (sortServiceIDs desired.ids).flatMap (fun id => (deleteEntry false (desired.get id)).writes) ++
      (sortedChangedIDs ∅ desired.table).flatMap fun id => (upsertEntry false (desired.get id)).writes

theorem parts_of_ok (succeeded : (startOneshot true false config desired).error = none) : Parts config desired := by
  obtain ⟨cleared,reconciled⟩ := (error_andThen _ _).mp succeeded
  obtain ⟨configured,installed⟩ := (error_andThen _ _).mp reconciled
  have wanted : desired.ids ≠ [] := by
    intro none
    rw [clearTargetState,if_neg Bool.true_eq_false.mp,if_pos none] at cleared
    cases cleared
  rw [reconcile_empty] at installed
  have clearing : clearTargetState true false "initial target clear" desired =
      Script.all ((sortServiceIDs desired.ids).map fun id => deleteEntry false (desired.get id)) := by
    rw [clearTargetState,if_neg Bool.true_eq_false.mp,if_neg wanted]
  obtain ⟨calls,_⟩ := calls_all (clearing ▸ cleared)
  obtain ⟨_,errors⟩ := calls_all installed
  refine ⟨?_,?_,?_⟩
  · intro id e found
    have listed := (mem_installed id).mpr (by rw [found]; exact Option.some_ne_none e)
    have sound := errors _ (List.mem_map_of_mem listed)
    rwa [DesiredSet.get_of_lookup found] at sound
  · intro id e found c member
    have listed := (mem_sorted _ id).mpr ((desired.mem_ids id).mpr (by rw [found]; exact Option.some_ne_none e))
    rw [startOneshot,Syncer.calls_andThen,clearing,calls,List.flatMap_map]
    refine List.mem_append_left _ (List.mem_flatMap.mpr ⟨id,listed,?_⟩)
    rwa [DesiredSet.get_of_lookup found]
  · have quiet : (SharedPort.syncConfig false none config).writes = [] := rfl
    rw [startOneshot,writes_andThen,if_pos cleared,SharedPort.reconcile,writes_andThen,if_pos configured,quiet,
      List.nil_append,reconcile_empty,writes_all installed,clearing,writes_all (clearing ▸ cleared),List.flatMap_map,
      List.flatMap_map]

end Parts
section Entry
variable {desired : DesiredSet} {e : NodePortEntry} {key : NodeportKey} {cell : Cell} {id : ServiceID}

theorem only_own (found : desired.lookup id = some e) (framed : e.frontend = some cell.frontend) {other : ServiceID}
    (listed : desired.lookup other ≠ none) (differ : other ≠ id) : (desired.get other).frontend ≠ some cell.frontend := by
  obtain ⟨e',found'⟩ := Option.ne_none_iff_exists'.mp listed
  rw [DesiredSet.get_of_lookup found']
  exact desired.placed.apart found' found differ.symm framed

theorem start_cell {config : DeliveryConfig} (parts : Parts config desired) (found : desired.lookup id = some e)
    (framed : e.frontend = some cell.frontend) (view : View Cell Word) :
    replay view (startOneshot true false config desired).writes cell =
      replay view ((deleteEntry false e).writes ++ (upsertEntry false e).writes) cell := by
  have present : desired.lookup id ≠ none := by rw [found]; exact Option.some_ne_none e
  have deletes := replay_flatMap (fun id => (deleteEntry false (desired.get id)).writes) (k := cell)
    ((mem_sorted _ id).mpr ((desired.mem_ids id).mpr present)) (nodup_sorted desired.table.nodupKeys)
    (fun other listed differ write member same => only_own found framed
      ((desired.mem_ids other).mp ((mem_sorted _ other).mp listed)) differ (same ▸ delete_local member))
  have upserts := replay_flatMap (fun id => (upsertEntry false (desired.get id)).writes) (k := cell)
    ((mem_installed id).mpr present) nodup_installed
    (fun other listed differ write member same => only_own found framed ((mem_installed other).mp listed) differ
      (same ▸ upsert_local member))
  rw [DesiredSet.get_of_lookup found] at deletes upserts
  rw [parts.writes,replay_append,replay_append,upserts]
  exact replay_pointwise _ (deletes view)

theorem upsert_shows {write : Write Cell Word} (member : write ∈ (upsertEntry false e).writes) (view : View Cell Word) :
    replay view (upsertEntry false e).writes write.1 = entryCells e write.1 := by
  rcases replay_cell (upsertEntry false e).writes write.1 with ⟨apart,_⟩ | ⟨content,_,fixed⟩
  · exact absurd rfl (apart _ member)
  · rw [entryCells,fixed view,fixed blank]

theorem spare_stays (short : e.backends.length ≤ 2^32) {slot : UInt32} (high : e.backends.length ≤ slot.toNat)
    (view : View Cell Word) :
    replay view ((deleteEntry false e).writes ++ (upsertEntry false e).writes) (.backend ⟨key,slot⟩) =
      view (.backend ⟨key,slot⟩) := by
  have differ : ∀ i < e.backends.length, UInt32.ofNat i ≠ slot := by
    intro i low same
    have number := congrArg UInt32.toNat same
    rw [UInt32.toNat_ofNat'] at number
    omega
  refine replay_outside (fun write member same => ?_) view
  rcases List.mem_append.mp member with deleted | upserted
  · obtain ⟨_,_,⟨i,low,rfl⟩ | rfl⟩ := delete_source.mp deleted
    · simp only [Cell.backend.injEq,NodeportBackendKey.mk.injEq] at same
      exact differ i low same.2
    · cases same
  · obtain ⟨_,_,⟨_,_,rfl⟩ | ⟨i,_,_,listed,_,rfl⟩⟩ := upsert_source upserted
    · cases same
    · simp only [Cell.backend.injEq,NodeportBackendKey.mk.injEq] at same
      exact differ i (List.getElem?_eq_some_iff.mp listed).1 same.2

end Entry

-- A finished oneshot run shows the desired entry in the cells of its frontend,
-- apart from the slots after the last one, which are as they were.
theorem finished_cells {config : DeliveryConfig} {desired : DesiredSet} {k : Kernel} {m left : Maps} {id : ServiceID}
    {e : NodePortEntry} {key : NodeportKey} (done : (startOneshot true false config desired).execute k m = (left,none))
    (found : desired.lookup id = some e) (framed : e.frontend = some key) :
    e.backends.length ≤ 2^32 ∧
    (∀ cell, cell.frontend = key → (∀ slot, cell = .backend ⟨key,slot⟩ → slot.toNat < e.backends.length) →
      cells left cell = entryCells e cell) ∧
    (∀ slot : UInt32, e.backends.length ≤ slot.toNat → left.backend.lookup ⟨key,slot⟩ = m.backend.lookup ⟨key,slot⟩) ∧
    left.rrState.lookup key = none := by
  obtain ⟨succeeded,applied⟩ := execute_ok done
  have parts := parts_of_ok succeeded
  have valid := parts.marshals id e found
  obtain ⟨goKey,value,marshalled,_,serviced,slots⟩ := upsert_all valid
  cases Option.some.inj ((frontend_of_key marshalled).symm.trans framed)
  have local_cells : ∀ cell, cell.frontend = goKey.toC → cells left cell =
      replay (cells m) ((deleteEntry false e).writes ++ (upsertEntry false e).writes) cell := by
    intro cell here
    rw [applyAll_cells applied]
    exact start_cell parts found (framed.trans (congrArg some here.symm)) (cells m)
  have shown : ∀ write ∈ (upsertEntry false e).writes, cells left write.1 = entryCells e write.1 := by
    intro write member
    have here := Option.some.inj ((upsert_local member).symm.trans framed)
    rw [local_cells _ here,replay_append,upsert_shows member]
  have filled : ∀ (i : Nat) (low : i < e.backends.length),
      cells left (.backend ⟨goKey.toC,UInt32.ofNat i⟩) = entryCells e (.backend ⟨goKey.toC,UInt32.ofNat i⟩) := by
    intro i low
    obtain ⟨slot,_,member⟩ := slots i low
    exact shown _ member
  have fits := slots_fit (m := left) (Nat.min_le_right e.backends.length (2^32)) fun i low absent => by
    have own : i < e.backends.length := Nat.lt_of_lt_of_le low (Nat.min_le_left _ _)
    refine entry_filled valid framed own ?_
    rw [← filled i own]
    exact cells_spare.mpr absent
  have short : e.backends.length ≤ 2^32 := by omega
  refine ⟨short,?_,?_,?_⟩
  · rintro (service | backend) here within
    · cases here
      exact shown _ serviced
    · obtain ⟨own,slot⟩ := backend
      cases here
      have low := within slot rfl
      have numbered := filled slot.toNat low
      rwa [UInt32.ofNat_toNat] at numbered
  · intro slot high
    have stays := local_cells (.backend ⟨goKey.toC,slot⟩) rfl
    rw [spare_stays short high] at stays
    exact Option.map_injective (fun _ _ same => Word.backend.inj same) stays
  · obtain ⟨key',same,c,member,op⟩ := SharedPort.delete_index framed
    exact SharedPort.index_gone same applied ⟨c,parts.deletes id e found member,op⟩

-- The clear removes what the desired list would write, so it makes the tables
-- right exactly when nothing was stored behind the last desired slot.
theorem exactly_installed_iff {config : DeliveryConfig} {desired : DesiredSet} {k : Kernel} {m left : Maps}
    (done : (startOneshot true false config desired).execute k m = (left,none)) :
    ExactlyInstalled left desired ↔ WithinDesired m desired := by
  constructor
  · intro exact id e key found framed slot high
    obtain ⟨key',framed',installed,_⟩ := exact id e found
    cases Option.some.inj (framed.symm.trans framed')
    obtain ⟨_,_,stays,_⟩ := finished_cells done found framed
    rw [← stays slot high]
    exact installed.spare slot high
  · intro within id e found
    have valid := (parts_of_ok (execute_ok done).1).marshals id e found
    obtain ⟨goKey,_,marshalled,_⟩ := upsert_all valid
    have framed := frontend_of_key marshalled
    obtain ⟨short,shown,stays,gone⟩ := finished_cells done found framed
    refine ⟨goKey.toC,framed,entry_installed valid framed fun cell here => ?_,gone⟩
    by_cases spare : ∃ slot : UInt32, cell = .backend ⟨goKey.toC,slot⟩ ∧ e.backends.length ≤ slot.toNat
    · obtain ⟨slot,rfl,high⟩ := spare
      rw [(entry_slot valid framed short slot).2 high,cells_spare,stays slot high]
      exact within id e goKey.toC found framed slot high
    · push Not at spare
      exact shown cell here spare

section Examples

def shop : NodePortEntry :=
  ⟨⟨"default","shop",30080⟩,"192.168.56.10","192.168.56.10",[⟨"10.244.1.5",8080,"192.168.56.11"⟩]⟩

def shopBefore : NodePortEntry := {shop with backends := shop.backends ++ [⟨"10.244.2.6",8080,"192.168.56.12"⟩]}

def flannel : DeliveryConfig := ⟨2,4,5,0⟩

def installed (e : NodePortEntry) : Maps := ((upsertEntry false e).execute willing .empty).1

def cleared (m : Maps) : Maps := ((startOneshot true false flannel (.single shop)).execute willing m).1

theorem shop_exactly_installed : ExactlyInstalled (cleared (installed shop)) (.single shop) := by
  have done : ((startOneshot true false flannel (.single shop)).execute willing (installed shop)).2 = none := by decide
  have stored : (upsertEntry false shop).execute willing .empty = (installed shop,none) := Prod.ext rfl (by decide)
  have blankBefore : cells .empty = blank := funext fun cell => by cases cell <;> rfl
  refine (exactly_installed_iff (Prod.ext rfl done)).mpr fun id e key found framed slot high => ?_
  cases DesiredSet.single_source found
  rw [← cells_spare,applyAll_cells (execute_ok stored).2,blankBefore]
  exact (entry_slot (by decide) framed (by decide) slot).2 high

theorem second_backend_left : ¬ ∀ (config : DeliveryConfig) (desired : DesiredSet) (k : Kernel) (m left : Maps),
    (startOneshot true false config desired).execute k m = (left,none) → ExactlyInstalled left desired := by
  intro always
  have done : ((startOneshot true false flannel (.single shop)).execute willing (installed shopBefore)).2 = none := by decide
  obtain ⟨key,framed,entry,_⟩ := always flannel (.single shop) willing (installed shopBefore) _ (Prod.ext rfl done) shop.id shop (by decide)
  have here : shop.frontend = some ⟨⟨192,168,56,10⟩,htons 30080,6,0⟩ := by decide
  cases Option.some.inj (framed.symm.trans here)
  have spare := entry.spare 1 (by decide)
  revert spare
  decide

end Examples
end Aipr.ClearTarget
