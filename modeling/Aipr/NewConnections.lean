import Aipr.BackendUpdate
import Aipr.Refinement

namespace Aipr.NewConnections
open NodeportTc Syncer LastWriter Transition SyncSystem Convergence BackendUpdate Refinement

def Current (p : Proc) (id : ServiceID) (e : NodePortEntry) : Prop :=
  p.applied.lookup id = some e ∨ ∃ desired, p.phase.desired = some desired ∧ desired.lookup id = some e

def Offered (p : Proc) (t : Tuple) (v : NodeportFwdCtValue) : Prop :=
  ∃ id e b, Current p id e ∧ At e.nodeIP e.id.nodePort t.daddr t.dport ∧ b ∈ e.backends ∧
    At b.address b.port v.backendIp v.backendPort

structure Assigned (h : Helpers) (skb : Frame) (hdr : Headers) (m : Maps) (v : NodeportFwdCtValue) : Prop where
  pinned : (outMaps h skb m).fwdCt.lookup (forwardKey (loadTuple skb hdr)) = some v
  packet : outSkb h skb m = (rewriteTuple h skb hdr (forwardTarget v)).2

structure FellBack (h : Helpers) (skb : Frame) (m : Maps) : Prop where
  packet : outSkb h skb m = skb
  fwdCt : (outMaps h skb m).fwdCt = m.fwdCt
  ct : ∀ r w, (outMaps h skb m).ct.lookup r = some w → m.ct.lookup r = some w

section Source
variable {past : List (Label Unit)} {s : State Unit} {cell : Cell} {word : Word}

theorem encoded_source {base : View Cell Word} {placed : ServiceID → Option NodePortEntry} (encoded : Encodes base placed)
    (shown : base cell = some word) : ∃ id e, placed id = some e ∧ (cell,some word) ∈ (upsertEntry false e).writes := by
  have claimed : ∃ id e, placed id = some e ∧ e.frontend = some cell.frontend := by
    by_contra unclaimed
    push Not at unclaimed
    rw [encoded.absent cell unclaimed] at shown
    cases shown
  obtain ⟨id,e,found,here⟩ := claimed
  rw [encoded.present id e cell found here] at shown
  rcases replay_source shown with impossible | member
  · cases impossible
  · exact ⟨id,e,found,member⟩

-- At every point of every run, what stands in the tables was put there for a
-- current entry: a reconcile writes desired entries over a board of applied ones.
theorem board_source (valid : Valid past s) (shown : cells s.maps cell = some word) :
    ∃ id e, Current (s.procs ()) id e ∧ (cell,some word) ∈ (upsertEntry false e).writes := by
  obtain ⟨belief,held,believed⟩ := valid.board
  obtain ⟨_,base,encoded,phase⟩ := believed ()
  rw [held_alone held] at shown
  have settled : base cell = some word → ∃ id e, Current (s.procs ()) id e ∧ (cell,some word) ∈ (upsertEntry false e).writes := by
    intro here
    obtain ⟨id,e,found,member⟩ := encoded_source encoded here
    exact ⟨id,e,.inl found,member⟩
  have written : ∀ desired executed, (s.procs ()).phase.desired = some desired →
      executed ⊆ (reconcileEntries false (s.procs ()).applied desired).calls → belief () = replay base (callWrites executed) →
      ∃ id e, Current (s.procs ()) id e ∧ (cell,some word) ∈ (upsertEntry false e).writes := by
    intro desired executed here within replayed
    rw [replayed] at shown
    rcases replay_source shown with before | member
    · exact settled before
    · rcases reconcile_source (List.filterMap_subset _ within member) with ⟨cleared,_⟩ | ⟨id,e,found,upserted⟩
      · cases cleared
      · exact ⟨id,e,.inr ⟨desired,here,found⟩,upserted⟩
  cases here : (s.procs ()).phase with
  | idle =>
    rw [here] at phase
    exact settled (phase ▸ shown)
  | starting config calls =>
    rw [here] at phase
    exact settled (phase.1 ▸ shown)
  | running desired executed calls error =>
    rw [here] at phase
    refine written desired executed (congrArg Phase.desired here) ?_ phase.1
    rw [phase.2.1]
    exact List.subset_append_left _ _
  | exited error desired =>
    rw [here] at phase
    obtain ⟨executed,replayed,within⟩ := phase
    exact written desired executed (congrArg Phase.desired here) within replayed

theorem chosen_offered {t : Tuple} {v : NodeportFwdCtValue} (valid : Valid past s) (picked : chosen s.maps t = some v) :
    Offered (s.procs ()) t v := by
  obtain ⟨serviceState,backend,maps,_,_,selected,rfl⟩ := chosen_some picked
  obtain ⟨slot,_,here⟩ := selectBackend_slot selected
  obtain ⟨id,e,current,member⟩ := board_source valid (cells_backend.mpr here)
  have framed : e.frontend = some (serviceKey t) := upsert_local member
  obtain ⟨_,_,⟨_,_,same⟩ | ⟨i,b,value,at_i,marshalled,same⟩⟩ := upsert_source member
  · cases same
  · have word := congrArg Prod.snd same
    simp only [Option.some.injEq,Word.backend.injEq] at word
    refine ⟨id,e,b,current,(frontend_at (by rw [framed]; exact Option.some_ne_none _)).mp framed,
      List.mem_of_getElem? at_i,?_⟩
    rw [word]
    exact marshalled_at marshalled

end Source

theorem new_connection_backend {m : Maps} {inputs : List (Label Unit)} {s : State Unit} {h : Helpers} {skb : Frame}
    {hdr : Headers} (run : Runs advance (start m) inputs s) (parsed : parseTcpPacket skb = some hdr)
    (missed : s.maps.ct.lookup (responseKey (loadTuple skb hdr)) = none)
    (unowned : s.maps.fwdCt.lookup (forwardKey (loadTuple skb hdr)) = none) :
    (∃ v, Assigned h skb hdr s.maps v ∧ Offered (s.procs ()) (loadTuple skb hdr) v) ∨ FellBack h skb s.maps := by
  have valid := valid_runs run
  obtain ⟨target,out⟩ := nodeportTc_outcome (h := h) (m := s.maps) parsed
  have step := out.handled
  have packet := out.packet
  have ctEq : (nodeportTc h skb s.maps).2.maps.ct = (outMaps h skb s.maps).ct := rfl
  have fwdEq : (nodeportTc h skb s.maps).2.maps.fwdCt = (outMaps h skb s.maps).fwdCt := rfl
  generalize (nodeportTc h skb s.maps).2.maps.ct = ct,(nodeportTc h skb s.maps).2.maps.fwdCt = fwdCt,
    (nodeportTc h skb s.maps).2.maps.snatPort = snatPort at step ctEq fwdEq
  cases step with
  | response found _ => cases missed.symm.trans found
  | passed _ _ _ => exact .inr ⟨packet,fwdEq.symm,fun r w present => by rwa [← ctEq] at present⟩
  | established _ _ owned _ => cases unowned.symm.trans owned
  | unrefreshed _ _ owned _ => cases unowned.symm.trans owned
  | refused _ _ _ => exact .inr ⟨packet,fwdEq.symm,fun r w present => by rwa [← ctEq] at present⟩
  | rolledBack _ picked recorded _ =>
    refine .inr ⟨packet,fwdEq.symm,fun r w present => ?_⟩
    rw [← ctEq,BoundedMap.lookup_delete] at present
    split at present
    · cases present
    · rename_i apart
      rwa [BoundedMap.lookup_update recorded,if_neg apart] at present
  | installed _ picked _ pinned =>
    refine .inl ⟨_,⟨?_,packet⟩,chosen_offered valid picked⟩
    rw [← fwdEq,BoundedMap.lookup_update pinned,if_pos rfl]

-- A second client comes while the slots of the first list are being deleted.
def visitor : Tuple := {caller with saddr := ⟨192,168,56,101⟩}

theorem podGoes_offers : ∃ s : State Unit, Runs advance (start .empty) (podGoes 1) s ∧
    ((∃ v, Assigned (plainHelpers 9) (tcpFrame visitor) ⟨14,34⟩ s.maps v ∧ Offered (s.procs ()) visitor v) ∨
      FellBack (plainHelpers 9) (tcpFrame visitor) s.maps) := by
  have tables : ((podGoes 1).foldlM advance (start .empty)).map (fun s => (s.maps.ct.lookup (responseKey visitor),
      s.maps.fwdCt.lookup (forwardKey visitor))) = some (none,none) := by decide
  cases done : (podGoes 1).foldlM advance (start .empty) with
  | none =>
    rw [done] at tables
    cases tables
  | some s =>
    rw [done] at tables
    simp only [Option.map_some,Option.some.injEq,Prod.mk.injEq] at tables
    exact ⟨s,Runs.of_fold done,new_connection_backend (Runs.of_fold done) (tcpFrame_parse visitor) tables.1 tables.2⟩

end Aipr.NewConnections
