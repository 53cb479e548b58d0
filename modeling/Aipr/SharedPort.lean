import Aipr.DesiredEntries
import Aipr.ScriptRun

namespace Aipr.SharedPort
open NodeportTc Syncer LastWriter

-- The config is synced first, when it has changed.
def syncConfig (dryRun : Bool) (appliedConfig : Option DeliveryConfig) (config : DeliveryConfig) : Script :=
  if appliedConfig = some config then .done else updateConfig dryRun config

def reconcile (dryRun : Bool) (appliedConfig : Option DeliveryConfig) (config : DeliveryConfig) (applied desired : Entries) :
    Script :=
  (syncConfig dryRun appliedConfig config).andThen (reconcileEntries dryRun applied desired)

def target : MapOp → Option NodeportKey
  | .updateService key _ => some key.toC
  | .updateBackend key _ => some key.service.toC
  | .updateConfig _ => none
  | .deleteBackend key => some key.service.toC
  | .deleteService key => some key.toC
  | .deleteRRState key => some key.toC

structure Untouched (key : NodeportKey) (m left : Maps) : Prop where
  service : left.service.lookup key = m.service.lookup key
  backend : ∀ slot, left.backend.lookup ⟨key,slot⟩ = m.backend.lookup ⟨key,slot⟩
  rrState : left.rrState.lookup key = m.rrState.lookup key

section Calls
variable {key : NodeportKey} {m next left : Maps} {calls : List Syncer.Call}

theorem takes_untouched {op : MapOp} (apart : target op ≠ some key) (taken : Takes m op next) : Untouched key m next := by
  cases taken with
  | updateService updated =>
    exact ⟨(BoundedMap.lookup_update updated key).trans (if_neg fun same => apart (congrArg some same.symm)),fun _ => rfl,rfl⟩
  | updateBackend updated =>
    refine ⟨rfl,fun slot => (BoundedMap.lookup_update updated _).trans (if_neg fun same => ?_),rfl⟩
    exact apart (congrArg (fun k : NodeportBackendKey => some k.service) same.symm)
  | updateConfig => exact ⟨rfl,fun _ => rfl,rfl⟩
  | deleteBackend =>
    refine ⟨rfl,fun slot => (BoundedMap.lookup_delete _ _ _).trans (if_neg fun same => ?_),rfl⟩
    exact apart (congrArg (fun k : NodeportBackendKey => some k.service) same.symm)
  | deleteService =>
    exact ⟨(BoundedMap.lookup_delete _ _ _).trans (if_neg fun same => apart (congrArg some same.symm)),fun _ => rfl,rfl⟩
  | deleteRRState =>
    exact ⟨rfl,fun _ => rfl,(BoundedMap.lookup_delete _ _ _).trans (if_neg fun same => apart (congrArg some same.symm))⟩

theorem Untouched.trans {middle : Maps} (first : Untouched key m middle) (second : Untouched key middle left) :
    Untouched key m left :=
  ⟨second.service.trans first.service,fun slot => (second.backend slot).trans (first.backend slot),
    second.rrState.trans first.rrState⟩

theorem apart_untouched (apart : ∀ c ∈ calls, target c.op ≠ some key) (applied : applyAll calls m = some left) :
    Untouched key m left :=
  applyAll_keeps (Untouched key m)
    (fun _ _ c member kept taken => kept.trans (takes_untouched (apart c member) taken)) ⟨rfl,fun _ => rfl,rfl⟩ applied

theorem index_gone {key' : NodePortKey} (here : key'.toC = key) (applied : applyAll calls m = some left)
    (deleted : ∃ c ∈ calls, c.op = .deleteRRState key') : left.rrState.lookup key = none := by
  obtain ⟨⟨op,context⟩,member,rfl⟩ := deleted
  obtain ⟨earlier,later,rfl⟩ := List.append_of_mem member
  obtain ⟨middle,_,rest⟩ := applyAll_append.mp applied
  obtain ⟨next,taken,rest⟩ := applyAll_cons.mp rest
  cases taken
  refine applyAll_keeps (fun m => m.rrState.lookup key = none) (fun m next c _ gone taken => ?_) ?_ rest
  · obtain ⟨op,context⟩ := c
    cases taken with
    | deleteRRState =>
      rw [BoundedMap.lookup_delete]
      split
      · rfl
      · exact gone
    | _ => exact gone
  · rw [BoundedMap.lookup_delete,if_pos here.symm]

end Calls
section Twin

structure Twin (m other : Maps) : Prop where
  backend : other.backend = m.backend
  service : ∀ k, other.service.lookup k = none ↔ m.service.lookup k = none

variable {m other next left : Maps} {calls : List Syncer.Call}

theorem Twin.size (twin : Twin m other) : other.service.size = m.service.size := by
  refine Nat.le_antisymm ?_ ?_
  · exact BoundedMap.size_le_of_keys fun k present => (BoundedMap.mem_keys _ k).mpr ((not_congr (twin.service k)).mp present)
  · exact BoundedMap.size_le_of_keys fun k present => (BoundedMap.mem_keys _ k).mpr ((not_congr (twin.service k)).mpr present)

theorem twin_step {op : MapOp} (twin : Twin m other) (taken : Takes m op next) : ∃ next', Takes other op next' ∧ Twin next next' := by
  cases taken with
  | updateService updated =>
    rename_i key value
    cases done : other.service.update key.toC value.toC with
    | none =>
      obtain ⟨absent,full⟩ := (BoundedMap.update_eq_none _ _ _).mp done
      rw [(BoundedMap.update_eq_none _ _ _).mpr ⟨(twin.service _).mp absent,twin.size.symm.trans full⟩] at updated
      cases updated
    | some table =>
      refine ⟨_,.updateService done,⟨twin.backend,fun k => ?_⟩⟩
      rw [BoundedMap.lookup_update done,BoundedMap.lookup_update updated]
      split
      · exact Iff.rfl
      · exact twin.service k
  | updateBackend updated => exact ⟨_,.updateBackend (twin.backend ▸ updated),⟨rfl,twin.service⟩⟩
  | updateConfig => exact ⟨_,.updateConfig,⟨twin.backend,twin.service⟩⟩
  | deleteBackend => exact ⟨_,.deleteBackend,⟨by rw [twin.backend],twin.service⟩⟩
  | deleteService =>
    refine ⟨_,.deleteService,⟨twin.backend,fun k => ?_⟩⟩
    rw [BoundedMap.lookup_delete,BoundedMap.lookup_delete]
    split
    · exact Iff.rfl
    · exact twin.service k
  | deleteRRState => exact ⟨_,.deleteRRState,⟨twin.backend,twin.service⟩⟩

theorem twin_run (twin : Twin m other) (applied : applyAll calls m = some left) : ∃ left', applyAll calls other = some left' := by
  induction calls generalizing m other with
  | nil => exact ⟨other,rfl⟩
  | cons c rest ih =>
    obtain ⟨next,taken,later⟩ := applyAll_cons.mp applied
    obtain ⟨next',taken',twin'⟩ := twin_step twin taken
    obtain ⟨left',later'⟩ := ih twin' later
    exact ⟨left',applyAll_cons.mpr ⟨next',taken',later'⟩⟩

end Twin

section Parts
variable {c : Syncer.Call} {e : NodePortEntry}

theorem delete_target (member : c ∈ (deleteEntry false e).calls) : target c.op = e.frontend := by
  unfold deleteEntry at member
  split at member
  · cases member
  · rename_i key found
    rw [frontend_of_key found]
    simp only [Bool.false_eq_true,if_false,List.mem_append,List.mem_map,List.mem_cons,List.not_mem_nil,or_false] at member
    rcases member with ⟨index,_,rfl⟩ | rfl | rfl <;> rfl

theorem backends_target {key : NodePortKey} {index : Nat} {backends : List Backend}
    (member : c ∈ (upsertBackends false e key index backends).calls) : target c.op = some key.toC := by
  induction backends generalizing index with
  | nil => cases member
  | cons b rest ih =>
    unfold upsertBackends at member
    split at member
    · cases member
    · rw [emit_andThen] at member
      rcases List.mem_cons.mp member with rfl | later
      · rfl
      · exact ih later

theorem upsert_target (member : c ∈ (upsertEntry false e).calls) : target c.op = e.frontend := by
  unfold upsertEntry at member
  split at member
  · cases member
  · rename_i key found
    rw [frontend_of_key found]
    split at member
    · cases member
    · rw [emit_andThen] at member
      rcases List.mem_cons.mp member with rfl | later
      · rfl
      · exact backends_target later

end Parts
section Reconcile
variable {appliedConfig : Option DeliveryConfig} {config : DeliveryConfig} {applied desired : Entries} {c : Syncer.Call} {other : ServiceID}
  {e : NodePortEntry}

theorem syncConfig_error (dryRun : Bool) : (syncConfig dryRun appliedConfig config).error = none := by
  unfold syncConfig updateConfig
  split
  · rfl
  · split <;> rfl

theorem syncConfig_target (member : c ∈ (syncConfig false appliedConfig config).calls) : target c.op = none := by
  unfold syncConfig updateConfig at member
  split at member
  · cases member
  · cases List.mem_singleton.mp member
    rfl

theorem reconcile_calls : (reconcile false appliedConfig config applied desired).calls =
    (syncConfig false appliedConfig config).calls ++ (reconcileEntries false applied desired).calls := by
  rw [reconcile,calls_andThen,if_pos (syncConfig_error false)]

-- Every call for a key is made for a service that is not the same in both sets.
theorem call_source {key : NodeportKey} (member : c ∈ (reconcile false appliedConfig config applied desired).calls)
    (aimed : target c.op = some key) :
    (∃ other e, applied.lookup other = some e ∧ applied.lookup other ≠ desired.lookup other ∧ e.frontend = some key ∧
      c ∈ (deleteEntry false e).calls) ∨
    ∃ other e, desired.lookup other = some e ∧ applied.lookup other ≠ desired.lookup other ∧ e.frontend = some key ∧
      c ∈ (upsertEntry false e).calls := by
  rw [reconcile_calls] at member
  rcases List.mem_append.mp member with configured | member
  · rw [syncConfig_target configured] at aimed
    cases aimed
  obtain ⟨s,listed,here⟩ := mem_calls_all member
  rcases List.mem_append.mp listed with removal | replacement
  · obtain ⟨id,removed,rfl⟩ := List.mem_map.mp removal
    obtain ⟨present,unwanted⟩ := (mem_removed _ _ _).mp removed
    obtain ⟨e,found⟩ := Option.ne_none_iff_exists'.mp present
    rw [found] at here
    exact .inl ⟨id,e,found,by rwa [unwanted],(delete_target here).symm.trans aimed,here⟩
  · obtain ⟨id,replaced,rfl⟩ := List.mem_map.mp replacement
    obtain ⟨present,differs⟩ := (mem_changed _ _ _).mp replaced
    obtain ⟨e,found⟩ := Option.ne_none_iff_exists'.mp present
    rw [found,Option.getD_some] at here
    cases before : applied.lookup id with
    | none =>
      rw [before] at here
      exact .inr ⟨id,e,found,differs,(upsert_target here).symm.trans aimed,here⟩
    | some old =>
      rw [before,replaceEntry,calls_andThen] at here
      rcases List.mem_append.mp here with deleted | later
      · exact .inl ⟨id,old,before,differs,(delete_target deleted).symm.trans aimed,deleted⟩
      · split at later
        · exact .inr ⟨id,e,found,differs,(upsert_target later).symm.trans aimed,later⟩
        · cases later

theorem parts_called (succeeded : (reconcile false appliedConfig config applied desired).error = none)
    (differs : applied.lookup other ≠ desired.lookup other) :
    (∀ e, applied.lookup other = some e → (deleteEntry false e).calls ⊆ (reconcile false appliedConfig config applied desired).calls) ∧
    ∀ e, desired.lookup other = some e → (upsertEntry false e).error = none ∧
      (upsertEntry false e).calls ⊆ (reconcile false appliedConfig config applied desired).calls := by
  have whole := ((error_andThen _ _).mp succeeded).2
  obtain ⟨calls,errors⟩ := calls_all whole
  have part : ∀ s ∈ (sortedRemovedIDs applied desired).map (fun id => deleteEntry false ((applied.lookup id).getD default)) ++
      (sortedChangedIDs applied desired).map (fun id =>
        replaceEntry false (applied.lookup id) ((desired.lookup id).getD default)),
      s.calls ⊆ (reconcile false appliedConfig config applied desired).calls := by
    intro s member c called
    rw [reconcile_calls,reconcileEntries,calls]
    exact List.mem_append_right _ (List.mem_flatMap.mpr ⟨s,member,called⟩)
  cases wanted : desired.lookup other with
  | none =>
    refine ⟨fun e found => ?_,fun e found => by cases found⟩
    have removed := (mem_removed applied desired other).mpr ⟨by rw [found]; exact Option.some_ne_none e,wanted⟩
    have called := part _ (List.mem_append_left _ (List.mem_map_of_mem removed))
    rwa [found] at called
  | some new =>
    have replaced := (mem_changed applied desired other).mpr ⟨by rw [wanted]; exact Option.some_ne_none new,differs⟩
    have listed := List.mem_append_right ((sortedRemovedIDs applied desired).map fun id =>
      deleteEntry false ((applied.lookup id).getD default)) (List.mem_map_of_mem (f := fun id =>
        replaceEntry false (applied.lookup id) ((desired.lookup id).getD default)) replaced)
    have called := part _ listed
    have sound := errors _ listed
    rw [wanted,Option.getD_some] at called sound
    cases before : applied.lookup other with
    | none =>
      rw [before] at called sound
      refine ⟨fun e found => (by cases found),fun e found => ?_⟩
      cases Option.some.inj found
      exact ⟨sound,called⟩
    | some old =>
      rw [before,replaceEntry] at called sound
      obtain ⟨cleared,upserted⟩ := (error_andThen _ _).mp sound
      rw [calls_andThen,if_pos cleared] at called
      refine ⟨fun e found => ?_,fun e found => ?_⟩
      · cases Option.some.inj found
        exact fun c member => called (List.mem_append_left _ member)
      · cases Option.some.inj found
        exact ⟨upserted,fun c member => called (List.mem_append_right _ member)⟩

end Reconcile
section Touched
variable {key : NodeportKey} {m left : Maps} {e : NodePortEntry}

theorem delete_index (framed : e.frontend = some key) :
    ∃ key', key'.toC = key ∧ ∃ c ∈ (deleteEntry false e).calls, c.op = .deleteRRState key' := by
  obtain ⟨key',found,same⟩ := key_of_frontend framed
  refine ⟨key',same,⟨.deleteRRState key',some s!"delete rr-state map for {e.title}"⟩,?_,rfl⟩
  simp [deleteEntry,found]

theorem upsert_record (framed : e.frontend = some key) (valid : (upsertEntry false e).error = none) :
    ∃ value, (.service key,some (.service value)) ∈ (upsertEntry false e).writes := by
  obtain ⟨key',value,found,_,member,_⟩ := upsert_all valid
  cases Option.some.inj ((frontend_of_key found).symm.trans framed)
  exact ⟨value.toC,member⟩

theorem upsert_keeps {c : Syncer.Call} (member : c ∈ (upsertEntry false e).calls) : c.op.write ≠ some (.service key,none) := by
  intro cleared
  obtain ⟨_,_,⟨_,_,same⟩ | ⟨_,_,_,_,_,same⟩⟩ := upsert_source (List.mem_filterMap.mpr ⟨c,member,cleared⟩)
  · cases same
  · cases same

theorem write_target {op : MapOp} {content : Option Word} (wrote : op.write = some (.service key,content)) : target op = some key := by
  cases op with
  | updateService =>
    cases wrote
    rfl
  | deleteService =>
    cases wrote
    rfl
  | _ => cases wrote

theorem index_touched {key' : NodePortKey} {calls : List Syncer.Call} (here : key'.toC = key)
    (deleted : ∃ c ∈ calls, c.op = .deleteRRState key') (applied : applyAll calls m = some left) :
    ∃ m left, applyAll calls m = some left ∧ ¬ Untouched key m left := by
  have room : (BoundedMap.empty : RrStateMap).Accepts key := .inr (by decide)
  obtain ⟨rrState,held⟩ := Option.isSome_iff_exists.mp ((BoundedMap.update_isSome (.empty : RrStateMap) key 0).mpr room)
  have twin : Twin m {m with rrState := rrState} := ⟨rfl,fun _ => Iff.rfl⟩
  obtain ⟨left',applied'⟩ := twin_run twin applied
  refine ⟨_,left',applied',fun untouched => ?_⟩
  have kept := untouched.rrState
  rw [index_gone here applied' deleted,BoundedMap.lookup_update held,if_pos rfl] at kept
  cases kept

theorem record_touched {calls : List Syncer.Call} (written : ∃ value, (.service key,some (.service value)) ∈ calls.filterMap fun c => c.op.write)
    (never : ∀ c ∈ calls, c.op.write ≠ some (.service key,none)) (applied : applyAll calls m = some left) :
    ∃ m left, applyAll calls m = some left ∧ ¬ Untouched key m left := by
  obtain ⟨value,member⟩ := written
  rcases replay_cell (calls.filterMap fun c => c.op.write) (.service key) with ⟨apart,_⟩ | ⟨content,last,fixed⟩
  · exact absurd rfl (apart _ member)
  have settled : ∀ {m left}, applyAll calls m = some left → Untouched key m left → cells m (.service key) = content := by
    intro m left applied untouched
    have shown := congrFun (applyAll_cells applied) (.service key)
    rw [fixed] at shown
    rw [← shown]
    exact congrArg (Option.map Word.service) untouched.service.symm
  by_cases same : cells m (.service key) = content
  · obtain ⟨c,called,wrote⟩ := List.mem_filterMap.mp last
    cases before : m.service.lookup key with
    | none =>
      rw [cells_absent.mpr before] at same
      exact absurd (same ▸ wrote) (never c called)
    | some record =>
      have present : m.service.lookup key ≠ none := by rw [before]; exact Option.some_ne_none record
      obtain ⟨service,updated⟩ := m.service.update_of_present key {record with flags := record.flags + 1} present
      have looked := BoundedMap.lookup_update updated
      have twin : Twin m {m with service := service} := by
        refine ⟨rfl,fun k => ?_⟩
        dsimp only
        rw [looked]
        by_cases here : k = key
        · rw [if_pos here,here]
          exact iff_of_false (Option.some_ne_none _) present
        · rw [if_neg here]
      obtain ⟨left',applied'⟩ := twin_run twin applied
      refine ⟨_,left',applied',fun untouched => ?_⟩
      have changed := (settled applied' untouched).trans same.symm
      rw [cells_service.mpr before,cells_service,looked,if_pos rfl] at changed
      have flags := congrArg NodeportValue.flags (Option.some.inj changed)
      simp at flags
  · exact ⟨m,left,applied,fun untouched => same (settled applied untouched)⟩

end Touched

-- A service whose entry has not changed is left alone exactly when every other
-- service that shares its key has not changed either.
theorem left_alone_iff {applied desired : Entries} {id : ServiceID} {e : NodePortEntry} {key : NodeportKey}
    (same : applied.lookup id = some e) (kept : desired.lookup id = some e) (framed : e.frontend = some key)
    (appliedConfig : Option DeliveryConfig) (config : DeliveryConfig) :
    ((∀ other, other ≠ id → ∀ e', applied.lookup other = some e' ∨ desired.lookup other = some e' →
        e'.frontend = e.frontend → applied.lookup other = desired.lookup other) →
      ∀ k m left, (reconcile false appliedConfig config applied desired).execute k m = (left,none) → Untouched key m left) ∧
    ((∃ k m left, (reconcile false appliedConfig config applied desired).execute k m = (left,none)) →
      (∀ k m left, (reconcile false appliedConfig config applied desired).execute k m = (left,none) → Untouched key m left) →
      ∀ other, other ≠ id → ∀ e', applied.lookup other = some e' ∨ desired.lookup other = some e' →
        e'.frontend = e.frontend → applied.lookup other = desired.lookup other) := by
  rw [framed]
  constructor
  · intro alone k m left done
    have unchanged : ∀ other e', applied.lookup other = some e' ∨ desired.lookup other = some e' → e'.frontend = some key →
        applied.lookup other = desired.lookup other := by
      intro other e' listed here
      by_cases mine : other = id
      · rw [mine,same,kept]
      · exact alone other mine e' listed here
    refine apart_untouched (fun c member aimed => ?_) (execute_ok done).2
    rcases call_source member aimed with ⟨other,e',found,differs,here,_⟩ | ⟨other,e',found,differs,here,_⟩
    · exact differs (unchanged other e' (.inl found) here)
    · exact differs (unchanged other e' (.inr found) here)
  · rintro ⟨k,m,left,done⟩ always other _ e' listed here
    by_contra differs
    obtain ⟨whole,ran⟩ := execute_ok done
    suffices touched : ∃ m left, applyAll (reconcile false appliedConfig config applied desired).calls m = some left ∧
        ¬ Untouched key m left by
      obtain ⟨m,left,ran,touched⟩ := touched
      exact touched (always willing m left (execute_willing whole ran))
    by_cases cleared : ∃ other e', applied.lookup other = some e' ∧ applied.lookup other ≠ desired.lookup other ∧
        e'.frontend = some key
    · obtain ⟨other,e',found,differs,here⟩ := cleared
      obtain ⟨key',toC,c,member,op⟩ := delete_index here
      exact index_touched toC ⟨c,(parts_called whole differs).1 e' found member,op⟩ ran
    · push Not at cleared
      have found : desired.lookup other = some e' := listed.resolve_left fun found => cleared other e' found differs here
      obtain ⟨sound,called⟩ := (parts_called whole differs).2 e' found
      obtain ⟨value,member⟩ := upsert_record here sound
      refine record_touched ⟨value,List.filterMap_subset _ called member⟩ (fun c member wrote => ?_) ran
      rcases call_source member (write_target wrote) with ⟨other,e',found,differs,here,_⟩ | ⟨_,_,_,_,_,upserted⟩
      · exact cleared other e' found differs here
      · exact upsert_keeps upserted wrote

section Examples

def shop : NodePortEntry :=
  ⟨⟨"default","shop",30080⟩,"192.168.56.10","192.168.56.10",[⟨"10.244.1.5",8080,"192.168.56.11"⟩]⟩

-- The service that had the port before it, still in the lister's cache.
def retired : NodePortEntry :=
  ⟨⟨"default","retired",30080⟩,"192.168.56.10","192.168.56.10",[⟨"10.244.1.4",8080,"192.168.56.11"⟩]⟩

def elsewhere : NodePortEntry := {retired with id := ⟨"default","retired",30081⟩}

def flannel : DeliveryConfig := ⟨2,4,5,0⟩

def filed (entries : List NodePortEntry) : Entries := entries.foldl (fun table e => table.insert e.id e) ∅

def shopOnly : Maps := ((upsertEntry false shop).execute willing .empty).1

def elsewhereGone : Maps := ((reconcile false none flannel (filed [shop,elsewhere]) (filed [shop])).execute willing shopOnly).1

theorem elsewhere_untouched : Untouched ⟨⟨192,168,56,10⟩,htons 30080,6,0⟩ shopOnly elsewhereGone := by
  have same : (filed [shop,elsewhere]).lookup shop.id = some shop := by decide
  have kept : (filed [shop]).lookup shop.id = some shop := by decide
  have done : ((reconcile false none flannel (filed [shop,elsewhere]) (filed [shop])).execute willing shopOnly).2 = none := by decide
  refine (left_alone_iff same kept (by decide) none flannel).1 (fun other apart e' listed here => ?_) willing shopOnly elsewhereGone
    (Prod.ext rfl done)
  have onlyShop : (filed [shop]).lookup other = none := by
    rw [filed,List.foldl_cons,List.foldl_nil,AList.lookup_insert_ne apart,AList.lookup_empty]
  by_cases mine : other = elsewhere.id
  · have found : (filed [shop,elsewhere]).lookup elsewhere.id = some elsewhere := by decide
    rw [onlyShop,mine,found,Option.some.injEq] at listed
    rcases listed with rfl | missing
    · exact absurd here (by decide)
    · cases missing
  · rw [onlyShop,filed,List.foldl_cons,List.foldl_cons,List.foldl_nil,AList.lookup_insert_ne mine,
      AList.lookup_insert_ne apart,AList.lookup_empty]

theorem retired_deletes : ¬ ∀ (applied desired : Entries) (id : ServiceID) (e : NodePortEntry) (key : NodeportKey)
    (appliedConfig : Option DeliveryConfig) (config : DeliveryConfig), applied.lookup id = some e → desired.lookup id = some e →
    e.frontend = some key → ∀ k m left, (reconcile false appliedConfig config applied desired).execute k m = (left,none) →
      Untouched key m left := by
  intro always
  have done : ((reconcile false none flannel (filed [shop,retired]) (filed [shop])).execute willing shopOnly).2 = none := by decide
  have kept := (always (filed [shop,retired]) (filed [shop]) shop.id shop ⟨⟨192,168,56,10⟩,htons 30080,6,0⟩ none flannel
    (by decide) (by decide) (by decide) willing shopOnly _ (Prod.ext rfl done)).service
  revert kept
  decide

end Examples
end Aipr.SharedPort
