import Aipr.EgressCache
import Aipr.Knowledge
import Aipr.NewConnections
import Aipr.NodeportCalls
import Aipr.SharedPort
import Aipr.SnatRange

namespace Aipr.Provenance
open NodeportTc NodeportCalls Syncer LastWriter Transition SyncSystem Refinement Interaction Knowledge SnatRange SharedPort EgressCache
  Convergence BackendUpdate

inductive Fact where
  | contacted (t : Tuple)
  | wanted (e : NodePortEntry)
  | delivery (config : DeliveryConfig)
  | stands (cell : Cell) (word : Word)
  | configured (config : NodeportConfig)
  | pinned (k : NodeportFwdCtKey) (v : NodeportFwdCtValue)
  | recorded (r : NodeportCtKey) (clientIp frontendIp : Be32) (clientPort frontendPort : Be16)

-- A connection is routed when its client came to a frontend that the service table
-- has, to a backend that the backend table has under it.
inductive Follows (origin : Option NodeportConfig) (known : Set Fact) : Fact → Prop where
  | known : fact ∈ known → Follows origin known fact
  | stands : Follows origin known (.wanted e) → (cell,some word) ∈ (upsertEntry false e).writes →
      Follows origin known (.stands cell word)
  | initial : origin = some config → Follows origin known (.configured config)
  | configured : Follows origin known (.delivery config) → Follows origin known (.configured config.toC)
  | pinned : Follows origin known (.contacted t) →
      Follows origin known (.stands (.service (serviceKey t)) (.service serviceState)) →
      Follows origin known (.stands (.backend ⟨serviceKey t,slot⟩) (.backend backend)) →
      (∀ c, config = some c → Follows origin known (.configured c)) → InRange port →
      Follows origin known (.pinned (forwardKey t)
        ⟨backend.address,serviceState.snatIp,backend.port,port,egressIfindex config (serviceKey t) backend⟩)
  | recorded : Follows origin known (.pinned (forwardKey t) v) →
      Follows origin known (.recorded (reverseKey v) t.saddr t.daddr t.sport t.dport)

section Follows
variable {origin : Option NodeportConfig} {known more : Set Fact} {fact : Fact}

theorem follows_within (within : ∀ fact ∈ known, Follows origin more fact) (here : Follows origin known fact) :
    Follows origin more fact := by
  induction here with
  | known member => exact within _ member
  | stands _ member ih => exact .stands ih member
  | initial same => exact .initial same
  | configured _ ih => exact .configured ih
  | pinned _ _ _ _ range client service backend config => exact .pinned client service backend config range
  | recorded _ ih => exact .recorded ih

def follows (origin : Option NodeportConfig) : ClosureOperator (Set Fact) :=
  .mk₂ (fun known => {fact | Follows origin known fact}) (fun _ _ member => .known member)
    fun _ _ within _ here => follows_within (fun _ member => within member) here

end Follows

section Tables
variable {κ : Type}

def Phase.pending : SyncSystem.Phase → List Syncer.Call
  | .starting _ calls => calls
  | .running _ _ calls _ => calls
  | _ => []

def Pending (s : SyncSystem.State κ) (op : MapOp) : Prop := ∃ who, ∃ c ∈ Phase.pending (s.procs who).phase, c.op = op

-- What the maps hold, and what the syncers are about to put there.
def shows (s : SyncSystem.State κ) : Set Fact :=
  {fact | match fact with
    | .stands cell word => cells s.maps cell = some word ∨ ∃ op, Pending s op ∧ op.write = some (cell,some word)
    | .configured c => s.maps.config = some c ∨ ∃ config, Pending s (.updateConfig config) ∧ c = config.toC
    | .pinned k v => s.maps.fwdCt.lookup k = some v
    | .recorded r clientIp frontendIp clientPort frontendPort =>
      ∃ now, s.maps.ct.lookup r = some ⟨clientIp,frontendIp,clientPort,frontendPort,now⟩
    | _ => False}

def handle (s : SyncSystem.State κ) (c : MapCall) : c.Answer × SyncSystem.State κ :=
  ((c.handle s.maps).1,{s with maps := (c.handle s.maps).2})

def rests : MapCall → Set Fact
  | .updateCt key value => {.recorded key value.clientIp value.frontendIp value.clientPort value.frontendPort}
  | .updateFwdCt key value => {.pinned key value}
  | _ => ∅

def tells : (c : MapCall) → c.Answer → Set Fact
  | .lookupCt key,some w => {.recorded key w.clientIp w.frontendIp w.clientPort w.frontendPort}
  | .lookupService key,some value => {.stands (.service key) (.service value)}
  | .lookupConfig,some config => {.configured config}
  | .lookupFwdCt key,some v => {.pinned key v}
  | .lookupBackend key,some backend => {.stands (.backend key) (.backend backend)}
  | _,_ => ∅

theorem shows_kept {s : SyncSystem.State κ} {maps : Maps} (control : SameControl s.maps maps)
    (ct : ∀ r w, maps.ct.lookup r = some w → s.maps.ct.lookup r = some w)
    (fwdCt : ∀ k v, maps.fwdCt.lookup k = some v → s.maps.fwdCt.lookup k = some v) :
    shows {s with maps := maps} ⊆ shows s := by
  intro fact shown
  cases fact with
  | contacted t => exact shown
  | wanted e => exact shown
  | delivery config => exact shown
  | stands cell word => exact shown.imp_left fun here => (cells_control control) ▸ here
  | configured config => exact shown.imp_left fun here => control.config ▸ here
  | pinned k v => exact fwdCt k v shown
  | recorded r clientIp frontendIp clientPort frontendPort => exact shown.imp fun now here => ct r _ here

theorem call_kept (s : SyncSystem.State κ) (c : MapCall) : shows (handle s c).2 ⊆ shows s ∪ rests c := by
  have quiet : (c.handle s.maps).2.ct = s.maps.ct → (c.handle s.maps).2.fwdCt = s.maps.fwdCt →
      SameControl s.maps (c.handle s.maps).2 → shows (handle s c).2 ⊆ shows s ∪ rests c := by
    intro ct fwdCt control
    refine subset_trans (shows_kept control ?_ ?_) Set.subset_union_left
    · exact fun r w found => ct ▸ found
    · exact fun k v found => fwdCt ▸ found
  cases c with
  | updateCt key value =>
    intro fact shown
    cases fact with
    | recorded r clientIp frontendIp clientPort frontendPort =>
      obtain ⟨now,found⟩ := shown
      by_cases same : r = key
      · subst same
        by_cases accepted : s.maps.ct.Accepts r
        · have stored : value = _ := Option.some.inj ((BoundedMap.lookup_attempt_self value accepted).symm.trans found)
          rw [stored]
          exact .inr rfl
        · have refused := mt (BoundedMap.update_isSome _ _ value).mp accepted
          rw [Bool.not_eq_true,Option.isSome_eq_false_iff,Option.isNone_iff_eq_none] at refused
          simp only [handle,MapCall.handle,refused,Option.getD_none] at found
          exact .inl ⟨now,found⟩
      · exact .inl ⟨now,(BoundedMap.lookup_attempt _ value same).symm.trans found⟩
    | _ => exact .inl shown
  | updateFwdCt key value =>
    intro fact shown
    cases fact with
    | pinned k v =>
      by_cases same : k = key
      · subst same
        by_cases accepted : s.maps.fwdCt.Accepts k
        · have stored : value = v := Option.some.inj ((BoundedMap.lookup_attempt_self value accepted).symm.trans shown)
          rw [stored]
          exact .inr rfl
        · have refused := mt (BoundedMap.update_isSome _ _ value).mp accepted
          rw [Bool.not_eq_true,Option.isSome_eq_false_iff,Option.isNone_iff_eq_none] at refused
          refine .inl ?_
          simpa only [shows,handle,MapCall.handle,refused,Option.getD_none] using shown
      · exact .inl ((BoundedMap.lookup_attempt _ value same).symm.trans shown)
    | _ => exact .inl shown
  | deleteCt key =>
    refine subset_trans (shows_kept ⟨rfl,rfl,rfl⟩ ?_ fun _ _ => id) Set.subset_union_left
    intro r w found
    simp only [MapCall.handle,BoundedMap.lookup_delete] at found
    split at found
    · cases found
    · exact found
  | lookupCt _ | lookupService _ | lookupConfig | lookupFwdCt _ | lookupRrState _ | updateRrState _ _ | lookupBackend _
    | lookupSnatPort | updateSnatPort _ | bumpStat _ => exact quiet rfl rfl ⟨rfl,rfl,rfl⟩

theorem call_told (s : SyncSystem.State κ) (c : MapCall) : tells c (handle s c).1 ⊆ shows s := by
  intro fact told
  cases c with
  | lookupCt key =>
    simp only [handle,MapCall.handle] at told
    cases found : s.maps.ct.lookup key with
    | none => simp [tells,found] at told
    | some w =>
      simp only [tells,found,Set.mem_singleton_iff] at told
      subst told
      exact ⟨w.lastSeenNs,found⟩
  | lookupService key =>
    simp only [handle,MapCall.handle] at told
    cases found : s.maps.service.lookup key with
    | none => simp [tells,found] at told
    | some value =>
      simp only [tells,found,Set.mem_singleton_iff] at told
      subst told
      exact .inl (cells_service.mpr found)
  | lookupConfig =>
    simp only [handle,MapCall.handle] at told
    cases found : s.maps.config with
    | none => simp [tells,found] at told
    | some config =>
      simp only [tells,found,Set.mem_singleton_iff] at told
      subst told
      exact .inl found
  | lookupFwdCt key =>
    simp only [handle,MapCall.handle] at told
    cases found : s.maps.fwdCt.lookup key with
    | none => simp [tells,found] at told
    | some v =>
      simp only [tells,found,Set.mem_singleton_iff] at told
      subst told
      exact found
  | lookupBackend key =>
    simp only [handle,MapCall.handle] at told
    cases found : s.maps.backend.lookup key with
    | none => simp [tells,found] at told
    | some backend =>
      simp only [tells,found,Set.mem_singleton_iff] at told
      subst told
      exact .inl (cells_backend.mpr found)
  | updateCt _ _ | deleteCt _ | updateFwdCt _ _ | lookupRrState _ | updateRrState _ _ | lookupSnatPort | updateSnatPort _
    | bumpStat _ => exact absurd told (Set.notMem_empty _)

end Tables

inductive Ambient (κ : Type) where
  | deleteCT (r : NodeportCtKey)
  | deleteFwd (k : NodeportFwdCtKey)
  | sync (who : κ) (action : Action)

section Ambient
variable {κ : Type} [DecidableEq κ]

def Ambient.label : Ambient κ → Label κ
  | .deleteCT r => .deleteCT r
  | .deleteFwd k => .deleteFwd k
  | .sync who action => .sync who action

def ambient (s : SyncSystem.State κ) (event : Ambient κ) : Option (SyncSystem.State κ) := SyncSystem.advance s event.label

def brings : Ambient κ → Set Fact
  | .sync _ (.read desired) => {fact | ∃ id e, desired.lookup id = some e ∧ fact = .wanted e}
  | .sync _ (.configure config) => {.delivery config}
  | _ => ∅

variable {origin : Option NodeportConfig} {known : Set Fact} {s : SyncSystem.State κ}

def Backed (origin : Option NodeportConfig) (known : Set Fact) (op : MapOp) : Prop :=
  (∀ cell word, op.write = some (cell,some word) → Follows origin known (.stands cell word)) ∧
    ∀ config, op = .updateConfig config → Follows origin known (.configured config.toC)

theorem entry_call {e : NodePortEntry} {c : Syncer.Call} (member : c ∈ (deleteEntry false e).calls ∨ c ∈ (upsertEntry false e).calls) :
    target c.op ≠ none := by
  have framed : e.frontend ≠ none := by
    rw [NodePortEntry.frontend]
    unfold deleteEntry upsertEntry at member
    cases marshalled : marshalFrontendKey e.nodeIP e.id.nodePort with
    | error err => simp [marshalled,Script.fail] at member
    | ok key => exact Option.some_ne_none _
  rcases member with deleted | upserted
  · rwa [delete_target deleted]
  · rwa [upsert_target upserted]

theorem reconcile_aimed {applied desired : DesiredSet} {c : Syncer.Call} (member : c ∈ (reconcileEntries false applied desired).calls) :
    target c.op ≠ none := by
  obtain ⟨script,listed,called⟩ := mem_calls_all member
  rcases List.mem_append.mp listed with removal | replacement
  · obtain ⟨id,_,rfl⟩ := List.mem_map.mp removal
    exact entry_call (.inl called)
  · obtain ⟨id,_,rfl⟩ := List.mem_map.mp replacement
    unfold replaceEntry at called
    split at called
    · rw [calls_andThen] at called
      rcases List.mem_append.mp called with deleted | later
      · exact entry_call (.inl deleted)
      · split at later
        · exact entry_call (.inr later)
        · cases later
    · exact entry_call (.inr called)

theorem reconcile_backed {applied desired : DesiredSet}
    (wanted : ∀ id e, desired.lookup id = some e → Follows origin known (.wanted e)) :
    ∀ c ∈ (reconcileEntries false applied desired).calls, Backed origin known c.op := by
  intro c member
  constructor
  · intro cell word here
    have written : (cell,some word) ∈ (reconcileEntries false applied desired).writes := List.mem_filterMap.mpr ⟨c,member,here⟩
    rcases reconcile_source written with ⟨cleared,_⟩ | ⟨id,e,found,upserted⟩
    · cases cleared
    · exact .stands (wanted id e found) upserted
  · intro config here
    have aimed := reconcile_aimed member
    rw [here] at aimed
    exact absurd rfl aimed

theorem pending_setProc {maps : Maps} {who : κ} {p : Proc} {op : MapOp}
    (pending : Pending (⟨maps,setProc s.procs who p⟩ : SyncSystem.State κ) op) :
    Pending s op ∨ ∃ c ∈ Phase.pending p.phase, c.op = op := by
  obtain ⟨other,c,member,here⟩ := pending
  dsimp only at member
  by_cases same : other = who
  · subst same
    rw [setProc_here] at member
    exact .inr ⟨c,member,here⟩
  · rw [setProc_apart _ _ same] at member
    exact .inl ⟨other,c,member,here⟩

theorem shows_planned {who : κ} {p : Proc} (planned : ∀ c ∈ Phase.pending p.phase, Pending s c.op ∨ Backed origin known c.op)
    (within : shows s ⊆ follows origin known) :
    shows (⟨s.maps,setProc s.procs who p⟩ : SyncSystem.State κ) ⊆ follows origin known := by
  intro fact shown
  cases fact with
  | contacted t => exact shown.elim
  | wanted e => exact shown.elim
  | delivery config => exact shown.elim
  | pinned k v => exact within shown
  | recorded r clientIp frontendIp clientPort frontendPort => exact within shown
  | stands cell word =>
    rcases shown with here | ⟨op,pending,written⟩
    · exact within (.inl here)
    · rcases pending_setProc pending with old | ⟨c,member,rfl⟩
      · exact within (.inr ⟨op,old,written⟩)
      · rcases planned c member with old | backed
        · exact within (.inr ⟨_,old,written⟩)
        · exact backed.1 cell word written
  | configured c =>
    rcases shown with here | ⟨config,pending,rfl⟩
    · exact within (.inl here)
    · rcases pending_setProc pending with old | ⟨call,member,here⟩
      · exact within (.inr ⟨config,old,rfl⟩)
      · rcases planned call member with old | backed
        · exact within (.inr ⟨config,here ▸ old,rfl⟩)
        · exact backed.2 config here

omit [DecidableEq κ] in
theorem shows_called {c : Syncer.Call} {maps : Maps} (pending : Pending s c.op) (done : c.op.apply s.maps = some maps) :
    shows {s with maps := maps} ⊆ shows s := by
  have board := apply_cells done
  intro fact shown
  cases fact with
  | contacted t => exact shown
  | wanted e => exact shown
  | delivery config => exact shown
  | stands cell word =>
    rcases shown with here | later
    · dsimp only at here
      rw [board] at here
      cases written : c.op.write with
      | none =>
        rw [written] at here
        exact .inl here
      | some write =>
        rw [written] at here
        by_cases same : cell = write.1
        · subst same
          refine .inr ⟨c.op,pending,?_⟩
          rw [written,← here]
          simp [put]
        · refine .inl ?_
          rw [← here]
          simp [put,same]
    · exact .inr later
  | configured config =>
    rcases shown with here | later
    · cases planned : c.op with
      | updateConfig wanted =>
        rw [planned] at done pending
        cases takes_iff.mp done
        exact .inr ⟨wanted,pending,(Option.some.inj here).symm⟩
      | _ =>
        rw [planned] at done
        cases takes_iff.mp done
        exact .inl here
    · exact .inr later
  | pinned k v =>
    have same := (apply_conntrack done).2
    exact Eq.trans (by rw [same]) shown
  | recorded r clientIp frontendIp clientPort frontendPort => exact shown.imp fun now here => (apply_conntrack done).1 ▸ here

theorem shows_act {who : κ} {action : Action} {maps : Maps} {p : Proc} (taken : act s.maps (s.procs who) action = some (maps,p)) :
    shows (⟨maps,setProc s.procs who p⟩ : SyncSystem.State κ) ⊆ follows origin (shows s ∪ brings (.sync who action)) := by
  have before : shows s ⊆ follows origin (shows s ∪ brings (.sync who action)) :=
    subset_trans Set.subset_union_left (ClosureOperator.le_closure _ _)
  have waiting : ∀ {calls : List Syncer.Call}, Phase.pending (s.procs who).phase = calls → ∀ c ∈ calls, Pending s c.op :=
    fun same c member => ⟨who,c,same ▸ member,rfl⟩
  have emptied : ∀ {q : Proc}, Phase.pending q.phase = [] →
      shows (⟨s.maps,setProc s.procs who q⟩ : SyncSystem.State κ) ⊆ follows origin (shows s ∪ brings (.sync who action)) := by
    intro q none
    refine shows_planned (fun c member => ?_) before
    rw [none] at member
    cases member
  cases act_cases taken with
  | @configure calls config idle planned =>
    refine shows_planned (fun c member => .inr ?_) before
    have update : c = ⟨.updateConfig config,none⟩ := by
      rw [Phase.pending,planned] at member
      split at member
      · cases member
      · exact List.mem_singleton.mp member
    subst update
    refine ⟨fun cell word impossible => (by cases impossible),fun other same => ?_⟩
    cases same
    exact .configured (.known (.inr rfl))
  | @read config desired here =>
    refine shows_planned (fun c member => .inr ?_) before
    refine reconcile_backed (fun id e found => ?_) c member
    exact .known (.inr ⟨id,e,found,rfl⟩)
  | @configCall config c rest after here done =>
    have pending : Phase.pending (s.procs who).phase = c :: rest := by rw [here]; rfl
    have called := shows_called (waiting pending c List.mem_cons_self) done
    refine shows_planned (s := {s with maps := maps}) (fun d member => .inl ?_) (called.trans before)
    exact waiting pending d (List.mem_cons_of_mem _ member)
  | @entryCall desired executed c rest error after here done =>
    have pending : Phase.pending (s.procs who).phase = c :: rest := by rw [here]; rfl
    have called := shows_called (waiting pending c List.mem_cons_self) done
    refine shows_planned (s := {s with maps := maps}) (fun d member => .inl ?_) (called.trans before)
    exact waiting pending d (List.mem_cons_of_mem _ member)
  | configError here => exact emptied rfl
  | entryError here => exact emptied rfl
  | configAbort here => exact emptied rfl
  | readAbort here => exact emptied rfl
  | finish here => exact emptied rfl
  | fail here => exact emptied rfl

theorem moved {event : Ambient κ} {next : SyncSystem.State κ} (step : ambient s event = some next) :
    shows next ⊆ follows origin (shows s ∪ brings event) := by
  have before : shows s ⊆ follows origin (shows s ∪ brings event) :=
    subset_trans Set.subset_union_left (ClosureOperator.le_closure _ _)
  cases event with
  | deleteCT r =>
    cases step
    refine subset_trans (shows_kept ⟨rfl,rfl,rfl⟩ ?_ fun _ _ => id) before
    intro other w found
    rw [BoundedMap.lookup_delete] at found
    split at found
    · cases found
    · exact found
  | deleteFwd k =>
    cases step
    refine subset_trans (shows_kept ⟨rfl,rfl,rfl⟩ (fun _ _ => id) ?_) before
    intro other v found
    rw [BoundedMap.lookup_delete] at found
    split at found
    · cases found
    · exact found
  | sync who action =>
    obtain ⟨⟨maps,p⟩,taken,rfl⟩ := Option.map_eq_some_iff.mp step
    exact shows_act taken

end Ambient

inductive Output (h : Helpers) (skb : Frame) (known : Set Fact) (result : Result) : Prop where
  | untouched : result.skb = skb → result.redirect = none → Output h skb known result
  | request : parseTcpPacket skb = some hdr → .pinned (forwardKey (loadTuple skb hdr)) v ∈ known →
      result.skb = (rewriteTuple h skb hdr (forwardTarget v)).2 →
      (∀ i, result.redirect = some i → i = v.egressIfindex ∧ (rewriteTuple h skb hdr (forwardTarget v)).1 = 0) →
      Output h skb known result
  | reply : parseTcpPacket skb = some hdr →
      .recorded (responseKey (loadTuple skb hdr)) w.clientIp w.frontendIp w.clientPort w.frontendPort ∈ known →
      result.skb = (rewriteTuple h skb hdr (replyTarget w)).2 →
      (∀ i, result.redirect = some i → (rewriteTuple h skb hdr (replyTarget w)).1 = 0) → Output h skb known result

section Program
variable {κ : Type} {origin : Option NodeportConfig}

def evidence (origin : Option NodeportConfig) : Evidence (SyncSystem.State κ) MapCall MapCall.Answer Fact where
  handle := handle
  follows := follows origin
  shows := shows
  rests := rests
  tells := tells
  kept s c := (call_kept s c).trans (ClosureOperator.le_closure _ _)
  told s c := (call_told s c).trans (ClosureOperator.le_closure _ _)

def begins (task : Helpers × Frame) : Set Fact :=
  {fact | ∃ hdr, parseTcpPacket task.2 = some hdr ∧ fact = .contacted (loadTuple task.2 hdr)}

def Accounts (origin : Option NodeportConfig) (h : Helpers) (skb : Frame) (g : Set Fact) (p : Calls Result) : Prop :=
  (evidence (κ := κ) origin).monitor.Safe (fun g result => Output h skb (follows origin g) result) g p

variable {h : Helpers} {hdr : Headers} {skb : Frame} {g : Set Fact} {t : Tuple} {c : MapCall}

theorem ask_free {done : Set Fact → α → Prop} {f : c.Answer → Calls α} (free : rests c = ∅)
    (rest : ∀ reply, (evidence (κ := κ) origin).monitor.Safe done (g ∪ tells c reply) (f reply)) :
    (evidence (κ := κ) origin).monitor.Safe done g (ask c >>= f) :=
  Evidence.call_safe ((subset_of_eq free).trans (Set.empty_subset _)) rest

theorem ask_backed {done : Set Fact → α → Prop} {f : c.Answer → Calls α} {fact : Fact} (one : rests c = {fact})
    (backed : Follows origin g fact)
    (rest : ∀ reply, (evidence (κ := κ) origin).monitor.Safe done (g ∪ tells c reply) (f reply)) :
    (evidence (κ := κ) origin).monitor.Safe done g (ask c >>= f) :=
  Evidence.call_safe ((subset_of_eq one).trans (Set.singleton_subset_iff.mpr backed)) rest

theorem follows_more {fact : Fact} {more : Set Fact} (here : Follows origin g fact) : Follows origin (g ∪ more) fact :=
  follows_within (fun _ member => .known (.inl member)) here

theorem untouched_accounts (action : Int) : Accounts (κ := κ) origin h skb g (pure ⟨action,skb,none⟩) := .untouched rfl rfl

theorem tail_accounts {new : Tuple} {counter : StatsIndex} {ifindex : UInt32}
    (output : ∀ (more : Set Fact) (result : Result), result.skb = (rewriteTuple h skb hdr new).2 →
      (∀ i, result.redirect = some i → i = ifindex ∧ (rewriteTuple h skb hdr new).1 = 0) →
      Output h skb (follows origin (g ∪ more)) result) :
    Accounts (κ := κ) origin h skb g (rewriteAndRedirect h hdr new counter ifindex skb) := by
  have kept : ∀ {action : Int} {more : Set Fact}, Output h skb (follows origin (g ∪ more)) ⟨action,(rewriteTuple h skb hdr new).2,none⟩ :=
    output _ _ rfl fun i impossible => by cases impossible
  unfold NodeportCalls.rewriteAndRedirect
  split
  · rename_i went
    refine ask_free rfl fun _ => ?_
    unfold NodeportCalls.redirectOrFallback
    split
    · refine ask_free rfl fun _ => ?_
      refine Monitor.safe_ret.mpr ?_
      rw [Set.union_assoc]
      refine output _ _ rfl fun i same => ?_
      exact ⟨(Option.some.inj same).symm,went⟩
    · refine ask_free rfl fun _ => ask_free rfl fun _ => Monitor.safe_ret.mpr ?_
      rw [Set.union_assoc,Set.union_assoc]
      exact kept
  · refine ask_free rfl fun _ => ask_free rfl fun _ => Monitor.safe_ret.mpr ?_
    rw [Set.union_assoc]
    exact kept

theorem request_output {v : NodeportFwdCtValue} (parsed : parseTcpPacket skb = some hdr)
    (owned : Follows origin g (.pinned (forwardKey (loadTuple skb hdr)) v)) (more : Set Fact) (result : Result)
    (packet : result.skb = (rewriteTuple h skb hdr (forwardTarget v)).2)
    (redirect : ∀ i, result.redirect = some i → i = v.egressIfindex ∧ (rewriteTuple h skb hdr (forwardTarget v)).1 = 0) :
    Output h skb (follows origin (g ∪ more)) result :=
  .request parsed (follows_more owned) packet redirect

theorem established_accounts {v : NodeportFwdCtValue} (parsed : parseTcpPacket skb = some hdr)
    (owned : Follows origin g (.pinned (forwardKey (loadTuple skb hdr)) v)) :
    Accounts (κ := κ) origin h skb g (requestEstablished h hdr (loadTuple skb hdr) v skb) := by
  refine ask_free rfl fun _ => ask_backed rfl (.recorded (follows_more owned)) fun _ => ?_
  exact tail_accounts (request_output parsed (follows_more (follows_more owned)))

theorem select_knows (service : NodeportKey) (serviceMeta : NodeportValue) :
    (evidence (κ := κ) origin).monitor.Safe (fun g picked => ∀ backend, picked = some backend →
      ∃ slot, Follows origin g (.stands (.backend ⟨service,slot⟩) (.backend backend))) g (selectBackend service serviceMeta) := by
  unfold NodeportCalls.selectBackend
  split
  · exact fun backend impossible => by cases impossible
  · refine ask_free rfl fun rrSlot => ask_free rfl fun found => ?_
    cases found with
    | none => exact fun backend impossible => by cases impossible
    | some backend =>
      refine ask_free rfl fun _ => ask_free rfl fun _ => ?_
      intro _ same
      cases same
      exact ⟨_,follows_more (follows_more (.known (.inr rfl)))⟩

theorem install_accounts {serviceState : NodeportValue} {backend : NodeportBackendValue} {config : Option NodeportConfig}
    {slot : UInt32} (parsed : parseTcpPacket skb = some hdr) (client : Follows origin g (.contacted (loadTuple skb hdr)))
    (service : Follows origin g (.stands (.service (serviceKey (loadTuple skb hdr))) (.service serviceState)))
    (filled : Follows origin g (.stands (.backend ⟨serviceKey (loadTuple skb hdr),slot⟩) (.backend backend)))
    (configured : ∀ c, config = some c → Follows origin g (.configured c)) :
    Accounts (κ := κ) origin h skb g (install h hdr (loadTuple skb hdr) serviceState backend config skb) := by
  unfold install NodeportCalls.allocateSnatPort
  refine ask_free rfl fun next => ask_free rfl fun _ => ?_
  let v : NodeportFwdCtValue := ⟨backend.address,serviceState.snatIp,backend.port,(NodeportTc.allocateSnatPort next).1,
    egressIfindex config (serviceKey (loadTuple skb hdr)) backend⟩
  have pinned : Follows origin g (.pinned (forwardKey (loadTuple skb hdr)) v) :=
    .pinned client service filled configured (allocated_range next)
  refine ask_backed rfl (.recorded (follows_more (follows_more pinned))) fun recorded => ?_
  cases recorded with
  | false => exact ask_free rfl fun _ => ask_free rfl fun _ => untouched_accounts _
  | true =>
    refine ask_free rfl fun _ => ask_backed rfl (follows_more (follows_more (follows_more (follows_more pinned)))) fun stored => ?_
    cases stored with
    | false => exact ask_free rfl fun _ => ask_free rfl fun _ => ask_free rfl fun _ => untouched_accounts _
    | true =>
      refine ask_free rfl fun _ => tail_accounts (request_output (v := v) parsed ?_)
      exact follows_more (follows_more (follows_more (follows_more (follows_more (follows_more pinned)))))

theorem new_accounts {serviceState : NodeportValue} {config : Option NodeportConfig} (parsed : parseTcpPacket skb = some hdr)
    (client : Follows origin g (.contacted (loadTuple skb hdr)))
    (service : Follows origin g (.stands (.service (serviceKey (loadTuple skb hdr))) (.service serviceState)))
    (configured : ∀ c, config = some c → Follows origin g (.configured c)) :
    Accounts (κ := κ) origin h skb g (NodeportCalls.requestNew h hdr (loadTuple skb hdr) serviceState config skb) := by
  unfold NodeportCalls.requestNew Accounts
  rw [Monitor.safe_bind]
  refine Monitor.safe_mono ?_ (Evidence.safe_grows (select_knows _ _))
  rintro final picked ⟨grown,chosen⟩
  have later : ∀ {fact}, Follows origin g fact → Follows origin final fact :=
    fun here => follows_within (fun _ member => .known (grown member)) here
  cases picked with
  | none => exact ask_free rfl fun _ => ask_free rfl fun _ => ask_free rfl fun _ => untouched_accounts _
  | some backend =>
    obtain ⟨slot,filled⟩ := chosen backend rfl
    refine ask_free rfl fun _ => install_accounts parsed (follows_more (later client)) (follows_more (later service))
      (follows_more filled) fun c same => follows_more (later (configured c same))

theorem request_accounts (parsed : parseTcpPacket skb = some hdr) (client : Follows origin g (.contacted (loadTuple skb hdr))) :
    Accounts (κ := κ) origin h skb g (NodeportCalls.handleRequest h hdr skb) := by
  unfold NodeportCalls.handleRequest
  refine ask_free rfl fun served => ?_
  cases served with
  | none => exact untouched_accounts _
  | some serviceState =>
    refine ask_free rfl fun _ => ask_free rfl fun config => ask_free rfl fun owned => ?_
    cases owned with
    | some v => exact established_accounts parsed (.known (.inr rfl))
    | none =>
      refine new_accounts parsed (follows_more (follows_more (follows_more (follows_more client)))) ?_ ?_
      · exact follows_more (follows_more (follows_more (.known (.inr rfl))))
      · rintro c rfl
        exact follows_more (.known (.inr rfl))

theorem response_accounts (parsed : parseTcpPacket skb = some hdr) :
    Accounts (κ := κ) origin h skb g (NodeportCalls.handleResponse h hdr skb) := by
  unfold NodeportCalls.handleResponse
  refine ask_free rfl fun found => ?_
  cases found with
  | none =>
    dsimp only
    split
    · exact ask_free rfl fun _ => ask_free rfl fun _ => ask_free rfl fun _ => untouched_accounts _
    · exact untouched_accounts _
  | some w =>
    have recorded : Follows origin (g ∪ tells (.lookupCt (responseKey (loadTuple skb hdr))) (some w))
        (.recorded (responseKey (loadTuple skb hdr)) w.clientIp w.frontendIp w.clientPort w.frontendPort) := .known (.inr rfl)
    refine ask_backed rfl recorded fun _ => ask_free rfl fun config => ask_free rfl fun _ => tail_accounts ?_
    intro more result packet redirect
    exact .reply parsed (follows_more (follows_more (follows_more (follows_more recorded)))) packet fun i out => (redirect i out).2

theorem packet_accounts (task : Helpers × Frame) :
    Accounts (κ := κ) origin task.1 task.2 (begins task) (NodeportCalls.nodeportTc task.1 task.2) := by
  obtain ⟨h,skb⟩ := task
  unfold NodeportCalls.nodeportTc
  cases parsed : parseTcpPacket skb with
  | none => exact untouched_accounts _
  | some hdr =>
    dsimp only
    refine ask_free rfl fun _ => ?_
    rw [Monitor.safe_bind]
    refine Monitor.safe_mono ?_ (Evidence.safe_grows (response_accounts parsed))
    rintro g response ⟨grown,output⟩
    unfold unlessTaken
    split
    · exact output
    · rw [Monitor.safe_bind]
      have client : Follows origin g (.contacted (loadTuple skb hdr)) := .known (grown (.inl ⟨hdr,parsed,rfl⟩))
      refine Monitor.safe_mono ?_ (request_accounts parsed client)
      intro final request output
      split
      · exact output
      · cases output with
        | untouched packet redirect => exact .untouched packet redirect
        | request parsed owned packet redirect => exact .request parsed owned packet redirect
        | reply parsed recorded packet redirect => exact .reply parsed recorded packet redirect

end Program

section System
variable {κ ω : Type} [DecidableEq κ]

def setting (origin : Option NodeportConfig) :
    Setting (SyncSystem.State κ) MapCall MapCall.Answer Fact (Helpers × Frame) (Ambient κ) Result where
  toEvidence := evidence origin
  program task := NodeportCalls.nodeportTc task.1 task.2
  begins := begins
  done task known result := Output task.1 task.2 known result
  done_mono := by
    rintro task known more result within output
    cases output with
    | untouched packet redirect => exact .untouched packet redirect
    | request parsed owned packet redirect => exact .request parsed (within owned) packet redirect
    | reply parsed recorded packet redirect => exact .reply parsed (within recorded) packet redirect
  safe := packet_accounts
  ambient := ambient
  brings := brings
  moved _ _ _ step := moved step

def boot (m : Maps) : SyncSystem.State κ :=
  ⟨{m with service := .empty, backend := .empty, ct := .empty, fwdCt := .empty},fun _ => .start⟩

abbrev Past (κ ω : Type) := List (Knowledge.Input ω (Helpers × Frame) (Ambient κ))

def Contacted (past : Past κ ω) (t : Tuple) : Prop :=
  ∃ cpu h skb hdr, .arrive cpu (h,skb) ∈ past ∧ parseTcpPacket skb = some hdr ∧ loadTuple skb hdr = t

def Wanted (past : Past κ ω) (e : NodePortEntry) : Prop :=
  ∃ who desired id, .ambient (.sync who (.read desired)) ∈ past ∧ desired.lookup id = some e

def Configured (m : Maps) (past : Past κ ω) (c : NodeportConfig) : Prop :=
  m.config = some c ∨ ∃ who config, .ambient (.sync who (.configure config)) ∈ past ∧ c = config.toC

theorem reply_mirrored {t : Tuple} {v : NodeportFwdCtValue} (same : responseKey t = reverseKey v) : t = (forwardTarget v).mirror := by
  obtain ⟨saddr,daddr,sport,dport⟩ := t
  cases same
  rfl

structure Routed (m : Maps) (past : Past κ ω) (t : Tuple) (v : NodeportFwdCtValue) : Prop where
  contacted : Contacted past t
  served : ∃ e, Wanted past e ∧ At e.nodeIP e.id.nodePort t.daddr t.dport ∧ parseIPv4 e.snatIP = some v.snatIp
  backed : ∃ e b nodeIp, Wanted past e ∧ At e.nodeIP e.id.nodePort t.daddr t.dport ∧ b ∈ e.backends ∧
    At b.address b.port v.backendIp v.backendPort ∧ parseIPv4 b.nodeIP = some nodeIp ∧
    ∃ config : Option NodeportConfig, (∀ c, config = some c → Configured m past c) ∧
      v.egressIfindex = config.elim 0 fun c => if nodeIp = t.daddr then c.localDeliveryIfindex else c.remoteDeliveryIfindex
  port : InRange v.snatPort

section Reading
variable {m : Maps} {past : Past κ ω} {t : Tuple} {v : NodeportFwdCtValue}

theorem blank_boot : (setting m.config).shows (boot m : SyncSystem.State κ) ⊆ (setting (κ := κ) m.config).follows ∅ := by
  intro fact shown
  cases fact with
  | contacted t => exact shown.elim
  | wanted e => exact shown.elim
  | delivery config => exact shown.elim
  | stands cell word =>
    rcases shown with here | ⟨_,⟨_,_,impossible,_⟩,_⟩
    · cases cell <;> cases here
    · cases impossible
  | configured c =>
    rcases shown with here | ⟨_,⟨_,_,impossible,_⟩,_⟩
    · exact .initial here
    · cases impossible
  | pinned k v => cases shown
  | recorded r clientIp frontendIp clientPort frontendPort =>
    obtain ⟨_,impossible⟩ := shown
    cases impossible

variable {origin : Option NodeportConfig}

theorem read_happened {fact : Fact} (member : fact ∈ (setting origin).happened past) :
    (∃ t, fact = .contacted t ∧ Contacted past t) ∨ (∃ e, fact = .wanted e ∧ Wanted past e) ∨
      ∃ who config, fact = .delivery config ∧ .ambient (.sync who (.configure config)) ∈ past := by
  obtain ⟨input,listed,brought⟩ := member
  match input,listed,brought with
  | .arrive cpu task,listed,⟨hdr,parsed,same⟩ => exact .inl ⟨_,same,cpu,task.1,task.2,hdr,listed,parsed,rfl⟩
  | .ambient (.sync who (.read desired)),listed,⟨id,e,found,same⟩ => exact .inr (.inl ⟨e,same,who,desired,id,listed,found⟩)
  | .ambient (.sync who (.configure config)),listed,same => exact .inr (.inr ⟨who,config,same,listed⟩)

theorem read_contacted (here : Follows origin ((setting origin).happened past) (.contacted t)) : Contacted past t := by
  cases here with
  | known member =>
    rcases read_happened member with ⟨_,same,contacted⟩ | ⟨_,impossible,_⟩ | ⟨_,_,impossible,_⟩
    · cases same
      exact contacted
    · cases impossible
    · cases impossible

theorem read_wanted {e : NodePortEntry} (here : Follows origin ((setting origin).happened past) (.wanted e)) : Wanted past e := by
  cases here with
  | known member =>
    rcases read_happened member with ⟨_,impossible,_⟩ | ⟨_,same,wanted⟩ | ⟨_,_,impossible,_⟩
    · cases impossible
    · cases same
      exact wanted
    · cases impossible

theorem read_configured {c : NodeportConfig} (here : Follows m.config ((setting m.config).happened past) (.configured c)) :
    Configured m past c := by
  cases here with
  | known member => rcases read_happened member with ⟨_,impossible,_⟩ | ⟨_,impossible,_⟩ | ⟨_,_,impossible,_⟩ <;> cases impossible
  | initial same => exact .inl same
  | configured delivered =>
    cases delivered with
    | known member =>
      rcases read_happened member with ⟨_,impossible,_⟩ | ⟨_,impossible,_⟩ | ⟨who,_,same,listed⟩
      · cases impossible
      · cases impossible
      · cases same
        exact .inr ⟨who,_,listed,rfl⟩

theorem read_stands {cell : Cell} {word : Word} (here : Follows origin ((setting origin).happened past) (.stands cell word)) :
    ∃ e, Wanted past e ∧ (cell,some word) ∈ (upsertEntry false e).writes := by
  cases here with
  | known member => rcases read_happened member with ⟨_,impossible,_⟩ | ⟨_,impossible,_⟩ | ⟨_,_,impossible,_⟩ <;> cases impossible
  | stands wanted upserted => exact ⟨_,read_wanted wanted,upserted⟩

theorem read_pinned {k : NodeportFwdCtKey} (here : Follows m.config ((setting m.config).happened past) (.pinned k v)) :
    ∃ t, k = forwardKey t ∧ Routed m past t v := by
  cases here with
  | known member => rcases read_happened member with ⟨_,impossible,_⟩ | ⟨_,impossible,_⟩ | ⟨_,_,impossible,_⟩ <;> cases impossible
  | @pinned t serviceState slot backend config port client service filled configured range =>
    obtain ⟨e,wanted,upserted⟩ := read_stands service
    obtain ⟨e',wanted',upserted'⟩ := read_stands filled
    refine ⟨t,rfl,read_contacted client,⟨e,wanted,?_,?_⟩,?_,range⟩
    · exact (frontend_at (upsert_local upserted ▸ Option.some_ne_none _)).mp (upsert_local upserted)
    · obtain ⟨_,_,⟨value,counted,same⟩ | ⟨_,_,_,_,_,same⟩⟩ := upsert_source upserted
      · obtain ⟨ip,parsed,rfl⟩ := marshalServiceValue_ok.mp counted
        simp only [Prod.mk.injEq,Option.some.injEq,Word.service.injEq] at same
        rw [same.2]
        exact parsed
      · cases same
    · have framed := (frontend_at (upsert_local upserted' ▸ Option.some_ne_none _)).mp (upsert_local upserted')
      obtain ⟨_,_,⟨_,_,same⟩ | ⟨_,b,value,listed,marshalled,same⟩⟩ := upsert_source upserted'
      · cases same
      · simp only [Prod.mk.injEq,Option.some.injEq,Word.backend.injEq] at same
        obtain ⟨_,nodeIP,_,_,parsed,_,whole⟩ := marshalBackendValue_ok.mp marshalled
        refine ⟨e',b,nodeIP,wanted',framed,List.mem_of_getElem? listed,?_,parsed,config,?_,?_⟩
        · rw [same.2]
          exact marshalled_at marshalled
        · exact fun c here => read_configured (configured c here)
        · rw [same.2,whole]
          cases config <;> rfl

theorem read_recorded {r : NodeportCtKey} {clientIp frontendIp : Be32} {clientPort frontendPort : Be16}
    (here : Follows m.config ((setting m.config).happened past) (.recorded r clientIp frontendIp clientPort frontendPort)) :
    ∃ v, r = reverseKey v ∧ Routed m past ⟨clientIp,frontendIp,clientPort,frontendPort⟩ v := by
  cases here with
  | known member => rcases read_happened member with ⟨_,impossible,_⟩ | ⟨_,impossible,_⟩ | ⟨_,_,impossible,_⟩ <;> cases impossible
  | recorded pinned =>
    obtain ⟨t,same,routed⟩ := read_pinned pinned
    exact ⟨_,rfl,forwardKey_injective same ▸ routed⟩

end Reading

variable [DecidableEq ω] {m : Maps} {inputs : Past κ ω}
  {s : Knowledge.State (SyncSystem.State κ) ω (Helpers × Frame) MapCall MapCall.Answer Result}

-- In whatever order the calls are made: every entry of the NAT tables belongs to a client
-- that has come to the frontend, and leads to a backend that frontend was given.
theorem entries_accounted (run : Runs (setting m.config).advance (Setting.start (boot m)) inputs s) :
    (∀ k v, s.shared.maps.fwdCt.lookup k = some v → ∃ t, k = forwardKey t ∧ Routed m inputs t v) ∧
      ∀ r w, s.shared.maps.ct.lookup r = some w → ∃ v, r = reverseKey v ∧
        Routed m inputs ⟨w.clientIp,w.frontendIp,w.clientPort,w.frontendPort⟩ v := by
  have valid := Setting.grounded_runs blank_boot run
  constructor
  · intro k v found
    exact read_pinned (valid.shown (show Fact.pinned k v ∈ shows s.shared from found))
  · intro r w found
    refine read_recorded (valid.shown (show Fact.recorded r _ _ _ _ ∈ shows s.shared from ?_))
    exact ⟨w.lastSeenNs,found⟩

-- Nothing, a request to a backend of the frontend it was sent to, or a reply to a client
-- that had called the frontend the answering backend serves.
inductive Delivered (m : Maps) (past : Past κ ω) (h : Helpers) (skb : Frame) (result : Result) : Prop where
  | untouched : result.skb = skb → result.redirect = none → Delivered m past h skb result
  | request : parseTcpPacket skb = some hdr → Routed m past (loadTuple skb hdr) v →
      result.skb = (rewriteTuple h skb hdr (forwardTarget v)).2 →
      (∀ i, result.redirect = some i → i = v.egressIfindex ∧ loadTuple result.skb hdr = forwardTarget v) →
      Delivered m past h skb result
  | reply : parseTcpPacket skb = some hdr → Routed m past client v → loadTuple skb hdr = (forwardTarget v).mirror →
      result.skb = (rewriteTuple h skb hdr client.mirror).2 →
      (∀ i, result.redirect = some i → loadTuple result.skb hdr = client.mirror) → Delivered m past h skb result

theorem packets_accounted (run : Runs (setting m.config).advance (Setting.start (boot m)) inputs s) {cpu : ω} {h : Helpers}
    {skb : Frame} {result : Result} (ready : s.running cpu = some ((h,skb),.ret result)) : Delivered m inputs h skb result := by
  have valid := Setting.grounded_runs blank_boot run
  cases Setting.grounded_result valid ready with
  | untouched packet redirect => exact .untouched packet redirect
  | request parsed owned packet redirect =>
    obtain ⟨t,same,routed⟩ := read_pinned owned
    cases forwardKey_injective same
    refine .request parsed routed packet fun i out => ⟨(redirect i out).1,?_⟩
    rw [packet]
    exact rewrite_loaded (parse_sound parsed) (redirect i out).2
  | reply parsed recorded packet redirect =>
    obtain ⟨v,same,routed⟩ := read_recorded recorded
    refine .reply parsed routed (reply_mirrored same) packet fun i out => ?_
    rw [packet]
    exact rewrite_loaded (parse_sound parsed) (redirect i out)

end System

-- A request is on its way through one processor while the syncer takes a pod away,
-- and the backend answers on the other.
def syncs (actions : List Action) : Past Unit Bool := actions.map fun action => .ambient (.sync () action)

def calls (cpu : Bool) (number : Nat) : Past Unit Bool := List.replicate number (.run cpu)

def crossing : Past Unit Bool :=
  syncs [.configure ⟨2,3,4,1⟩,.call,.read (.single Convergence.shop),.call,.call,.call,.finish] ++
    [.arrive false (plainHelpers 5,tcpFrame caller)] ++ calls false 9 ++ syncs [.configure ⟨2,3,4,1⟩,.read (.single smallShop),.call] ++
    calls false 10 ++ [.arrive true (plainHelpers 6,tcpFrame (forwardTarget callerPin).mirror)] ++ calls true 7

theorem crossing_entries : ∃ s : Knowledge.State (SyncSystem.State Unit) Bool (Helpers × Frame) MapCall MapCall.Answer Result,
    Runs (setting Maps.empty.config).advance (Setting.start (boot .empty)) crossing s ∧
    s.shared.maps.fwdCt.lookup (forwardKey caller) = some callerPin ∧
    ∃ t, forwardKey caller = forwardKey t ∧ Routed .empty crossing t callerPin := by
  have tables : (crossing.foldlM (setting Maps.empty.config).advance (Setting.start (boot .empty))).map
      (fun s => s.shared.maps.fwdCt.lookup (forwardKey caller)) = some (some callerPin) := by decide +kernel
  obtain ⟨s,done,found⟩ := Option.map_eq_some_iff.mp tables
  exact ⟨s,Runs.of_fold done,found,(entries_accounted (Runs.of_fold done)).1 _ _ found⟩

def sentOn (s : Knowledge.State (SyncSystem.State Unit) Bool (Helpers × Frame) MapCall MapCall.Answer Result) (cpu : Bool) :
    Option (Tuple × UInt32) :=
  match s.running cpu with
  | some (_,.ret result) => result.redirect.map fun i => (loadTuple result.skb ⟨14,34⟩,i)
  | _ => none

theorem crossing_reply : ∃ s : Knowledge.State (SyncSystem.State Unit) Bool (Helpers × Frame) MapCall MapCall.Answer Result,
    Runs (setting Maps.empty.config).advance (Setting.start (boot .empty)) crossing s ∧ sentOn s true = some (caller.mirror,2) ∧
    ∃ h skb result, s.running true = some ((h,skb),.ret result) ∧ Delivered .empty crossing h skb result := by
  have sent : (crossing.foldlM (setting Maps.empty.config).advance (Setting.start (boot .empty))).map (sentOn · true) =
      some (some (caller.mirror,2)) := by decide +kernel
  obtain ⟨s,done,found⟩ := Option.map_eq_some_iff.mp sent
  have left := found
  unfold sentOn at left
  split at left
  · rename_i task result ready
    exact ⟨s,Runs.of_fold done,found,task.1,task.2,result,ready,packets_accounted (Runs.of_fold done) ready⟩
  · cases left

end Aipr.Provenance
