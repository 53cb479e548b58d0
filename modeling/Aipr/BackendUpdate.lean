import Aipr.Convergence

namespace Aipr.BackendUpdate
open NodeportTc Syncer LastWriter Transition SyncSystem Convergence

-- A request of a connection the forward table knows, and that can be rewritten.
structure Established (m : Maps) (h : Helpers) (skb : Frame) (hdr : Headers) (v : NodeportFwdCtValue) : Prop where
  parsed : parseTcpPacket skb = some hdr
  missed : m.ct.lookup (responseKey (loadTuple skb hdr)) = none
  owned : m.fwdCt.lookup (forwardKey (loadTuple skb hdr)) = some v
  rewritable : (rewriteTuple h skb hdr (forwardTarget v)).1 = 0

def Withdrawn (executed : List Syncer.Call) (key : NodeportKey) : Prop := Cleared (callWrites executed) (.service key)

section Established
variable {m : Maps} {h : Helpers} {skb : Frame} {hdr : Headers} {v : NodeportFwdCtValue}

theorem established_rewritten (established : Established m h skb hdr v)
    (served : m.service.lookup (serviceKey (loadTuple skb hdr)) ≠ none) :
    loadTuple (outSkb h skb m) hdr = forwardTarget v := by
  obtain ⟨serviceState,found⟩ := Option.ne_none_iff_exists'.mp served
  obtain ⟨_,_,_,out⟩ := refreshes (h := h) established.parsed established.missed found established.owned
  exact sent_tuple established.parsed out established.rewritable

theorem established_passed (established : Established m h skb hdr v)
    (unserved : m.service.lookup (serviceKey (loadTuple skb hdr)) = none) :
    outSkb h skb m = skb ∧ (outMaps h skb m).ct = m.ct ∧ (outMaps h skb m).fwdCt = m.fwdCt :=
  passes established.parsed established.missed (.inl unserved) (by simp [chosen,unserved])

end Established

section Reconcile
variable {s : State Unit} {past : List (Label Unit)} {desired : DesiredSet} {executed calls : List Syncer.Call}
  {error : Option String} {id : ServiceID} {old new : NodePortEntry} {key : NodeportKey}

theorem unserved_iff (valid : Valid past s) (running : (s.procs ()).phase = .running desired executed calls error)
    (applied : (s.procs ()).applied.lookup id = some old) (before : old.frontend = some key) :
    s.maps.service.lookup key = none ↔ Withdrawn executed key := by
  obtain ⟨base,encoded,board,_,_⟩ := running_board valid running
  obtain ⟨ip,_,here⟩ := entry_service (applied_marshals valid id old applied) before
  have shown : base (.service key) ≠ none := by
    rw [encoded.present id old (.service key) applied before,here]
    exact Option.some_ne_none _
  rw [← cells_absent,board]
  exact replay_cleared base shown

theorem withdrawn_changed (valid : Valid past s) (running : (s.procs ()).phase = .running desired executed calls error)
    (applied : (s.procs ()).applied.lookup id = some old) (wanted : desired.lookup id = some new)
    (before : old.frontend = some key) (withdrawn : Withdrawn executed key) : old ≠ new := by
  rintro rfl
  obtain ⟨_,_,_,planned,_⟩ := running_board valid running
  have member : (Cell.service key,(none : Option Word)) ∈ (reconcileEntries false (s.procs ()).applied desired).writes := by
    rw [script_writes,planned,callWrites_append]
    exact List.mem_append_left _ (cleared_written withdrawn)
  rcases reconcile_source member with ⟨_,other,e,found,dropped,here⟩ | ⟨_,_,_,upserted⟩
  · by_cases same : other = id
    · subst same
      cases Option.some.inj (applied.symm.trans found)
      exact dropped wanted
    · exact (s.procs ()).applied.placed.apart applied found same here before
  · obtain ⟨_,_,⟨_,_,same⟩ | ⟨_,_,_,_,_,same⟩⟩ := upsert_source upserted
    · cases congrArg Prod.snd same
    · cases congrArg Prod.snd same

theorem withdrawn_ends (valid : Valid past s) (running : (s.procs ()).phase = .running desired executed [] none)
    (applied : (s.procs ()).applied.lookup id = some old) (wanted : desired.lookup id = some new)
    (before : old.frontend = some key) (after : new.frontend = some key) : ¬ Withdrawn executed key := by
  obtain ⟨base,encoded,board,planned,ends⟩ := running_board valid running
  obtain ⟨settled,marshalled⟩ := reconcile_settles encoded (applied_marshals valid) ends
  obtain ⟨ip,_,here⟩ := entry_service (marshalled id new wanted) after
  rw [List.append_nil] at planned
  rw [← unserved_iff valid running applied before,← cells_absent,board,← planned,← script_writes,
    settled.present id new (.service key) wanted after,here]
  exact Option.some_ne_none _

end Reconcile

theorem established_survives {m : Maps} {inputs : List (Label Unit)} {s : State Unit} {desired : DesiredSet}
    {executed calls : List Syncer.Call} {error : Option String} {id : ServiceID} {old new : NodePortEntry}
    {h : Helpers} {skb : Frame} {hdr : Headers} {v : NodeportFwdCtValue} (run : Runs advance (start m) inputs s)
    (running : (s.procs ()).phase = .running desired executed calls error)
    (applied : (s.procs ()).applied.lookup id = some old) (wanted : desired.lookup id = some new)
    (before : old.frontend = some (serviceKey (loadTuple skb hdr)))
    (after : new.frontend = some (serviceKey (loadTuple skb hdr))) (established : Established s.maps h skb hdr v) :
    (¬ Withdrawn executed (serviceKey (loadTuple skb hdr)) → loadTuple (outSkb h skb s.maps) hdr = forwardTarget v) ∧
      (Withdrawn executed (serviceKey (loadTuple skb hdr)) → old ≠ new ∧ ¬ (calls = [] ∧ error = none) ∧
        outSkb h skb s.maps = skb ∧ (outMaps h skb s.maps).ct = s.maps.ct ∧ (outMaps h skb s.maps).fwdCt = s.maps.fwdCt) := by
  have valid := valid_runs run
  have unserved := unserved_iff valid running applied before
  constructor
  · intro kept
    exact established_rewritten established fun absent => kept (unserved.mp absent)
  · intro withdrawn
    refine ⟨withdrawn_changed valid running applied wanted before withdrawn,?_,
      established_passed established (unserved.mpr withdrawn)⟩
    rintro ⟨rfl,rfl⟩
    exact withdrawn_ends valid running applied wanted before after withdrawn

def smallShop : NodePortEntry := {shop with backends := [⟨"10.244.1.5",8080,"192.168.56.11"⟩]}
def callerPin : NodeportFwdCtValue := ⟨⟨10,244,1,5⟩,⟨192,168,56,10⟩,⟨31,144⟩,⟨156,64⟩,4⟩

def smallShopComes (calls : Nat) : List (Label Unit) :=
  ([.configure ⟨2,3,4,1⟩,.read (.single smallShop)] ++ List.replicate calls .call : List Action).map (.sync ())

def podGoes (calls : Nat) : List (Label Unit) :=
  shopComes ++ [.packet (plainHelpers 5) (tcpFrame caller)] ++ smallShopComes calls

-- The slot of the client's own pod is deleted first; the client does not notice.
theorem podGoes_survives : ∃ s : State Unit, Runs advance (start .empty) (podGoes 1) s ∧
    loadTuple (outSkb (plainHelpers 9) (tcpFrame caller) s.maps) ⟨14,34⟩ = forwardTarget callerPin := by
  have phase : ((podGoes 1).foldlM advance (start .empty)).map (fun s => (s.procs ()).phase) = some (.running (.single smallShop)
      ((reconcileEntries false (DesiredSet.single shop) (DesiredSet.single smallShop)).calls.take 1)
      ((reconcileEntries false (DesiredSet.single shop) (DesiredSet.single smallShop)).calls.drop 1) none) := rfl
  have applied : ((podGoes 1).foldlM advance (start .empty)).map (fun s => (s.procs ()).applied) = some (.single shop) := rfl
  have tables : ((podGoes 1).foldlM advance (start .empty)).map (fun s => (s.maps.ct.lookup (responseKey caller),
      s.maps.fwdCt.lookup (forwardKey caller))) = some (none,some callerPin) := by decide
  cases done : (podGoes 1).foldlM advance (start .empty) with
  | none =>
    rw [done] at phase
    cases phase
  | some s =>
    rw [done] at phase applied tables
    simp only [Option.map_some,Option.some.injEq,Prod.mk.injEq] at phase applied tables
    have established : Established s.maps (plainHelpers 9) (tcpFrame caller) ⟨14,34⟩ callerPin :=
      ⟨tcpFrame_parse _,tables.1,tables.2,rewrite_succeeds (plainHelpers_succeed 9) _ _ _⟩
    have old : (s.procs ()).applied.lookup shop.id = some shop := by rw [applied]; decide
    have new : (DesiredSet.single smallShop).lookup shop.id = some smallShop := by decide
    have before : shop.frontend = some (serviceKey (loadTuple (tcpFrame caller) ⟨14,34⟩)) := by decide
    have after : smallShop.frontend = some (serviceKey (loadTuple (tcpFrame caller) ⟨14,34⟩)) := by decide
    have both := established_survives (Runs.of_fold done) phase old new before after established
    refine ⟨s,Runs.of_fold done,both.1 fun withdrawn => ?_⟩
    exact absurd (cleared_written withdrawn) (by decide)

def Survives (s : State Unit) : Prop :=
  ∀ desired executed calls error id old new h skb hdr v, (s.procs ()).phase = .running desired executed calls error →
    (s.procs ()).applied.lookup id = some old → desired.lookup id = some new →
    old.frontend = some (serviceKey (loadTuple skb hdr)) → new.frontend = some (serviceKey (loadTuple skb hdr)) →
    Established s.maps h skb hdr v → loadTuple (outSkb h skb s.maps) hdr = forwardTarget v

theorem podGoes_interrupts : ∃ s : State Unit, Runs advance (start .empty) (podGoes 3) s ∧ ¬ Survives s := by
  have phase : ((podGoes 3).foldlM advance (start .empty)).map (fun s => (s.procs ()).phase) = some (.running (.single smallShop)
      ((reconcileEntries false (DesiredSet.single shop) (DesiredSet.single smallShop)).calls.take 3)
      ((reconcileEntries false (DesiredSet.single shop) (DesiredSet.single smallShop)).calls.drop 3) none) := rfl
  have applied : ((podGoes 3).foldlM advance (start .empty)).map (fun s => (s.procs ()).applied) = some (.single shop) := rfl
  have tables : ((podGoes 3).foldlM advance (start .empty)).map (fun s => (s.maps.ct.lookup (responseKey caller),
      s.maps.fwdCt.lookup (forwardKey caller),s.maps.service.lookup (serviceKey caller))) =
      some (none,some callerPin,none) := by decide
  cases done : (podGoes 3).foldlM advance (start .empty) with
  | none =>
    rw [done] at phase
    cases phase
  | some s =>
    rw [done] at phase applied tables
    simp only [Option.map_some,Option.some.injEq,Prod.mk.injEq] at phase applied tables
    have established : Established s.maps (plainHelpers 9) (tcpFrame caller) ⟨14,34⟩ callerPin :=
      ⟨tcpFrame_parse _,tables.1,tables.2.1,rewrite_succeeds (plainHelpers_succeed 9) _ _ _⟩
    refine ⟨s,Runs.of_fold done,fun survives => ?_⟩
    have old : (s.procs ()).applied.lookup shop.id = some shop := by rw [applied]; decide
    have new : (DesiredSet.single smallShop).lookup shop.id = some smallShop := by decide
    have before : shop.frontend = some (serviceKey (loadTuple (tcpFrame caller) ⟨14,34⟩)) := by decide
    have after : smallShop.frontend = some (serviceKey (loadTuple (tcpFrame caller) ⟨14,34⟩)) := by decide
    have rewritten := survives _ _ _ _ _ _ _ _ _ _ _ phase old new before after established
    rw [(established_passed established tables.2.2).1] at rewritten
    revert rewritten
    decide

end Aipr.BackendUpdate
