import Aipr.Convergence

namespace Aipr.Refinement
open NodeportTc Syncer Transition SyncSystem Convergence

structure At (address : String) (port : Int32) (ip : Be32) (header : Be16) : Prop where
  address : parseIPv4 address = some ip
  port : port.toInt = ntohs header

structure Unhindered (h : Helpers) (skb : Frame) (hdr : Headers) (m : Maps) : Prop where
  recorded : ∀ v, chosen m (loadTuple skb hdr) = some v → m.ct.Accepts (reverseKey v)
  pinned : ∀ v, chosen m (loadTuple skb hdr) = some v → m.fwdCt.Accepts (forwardKey (loadTuple skb hdr))
  rewritten : ∀ v, chosen m (loadTuple skb hdr) = some v → (rewriteTuple h skb hdr (forwardTarget v)).1 = 0

structure Serves (h : Helpers) (skb : Frame) (hdr : Headers) (m : Maps) (d : DesiredSet) : Prop where
  translated : ∀ id e, d.lookup id = some e →
    At e.nodeIP e.id.nodePort (loadTuple skb hdr).daddr (loadTuple skb hdr).dport → ∃ b ∈ e.backends,
      At b.address b.port (loadTuple (outSkb h skb m) hdr).daddr (loadTuple (outSkb h skb m) hdr).dport ∧
      parseIPv4 e.snatIP = some (loadTuple (outSkb h skb m) hdr).saddr
  passed : (∀ id e, d.lookup id = some e →
    ¬ At e.nodeIP e.id.nodePort (loadTuple skb hdr).daddr (loadTuple skb hdr).dport) →
      outSkb h skb m = skb ∧ (outMaps h skb m).ct = m.ct ∧ (outMaps h skb m).fwdCt = m.fwdCt

theorem frontend_at {e : NodePortEntry} {t : Tuple} (valid : e.frontend ≠ none) :
    e.frontend = some (serviceKey t) ↔ At e.nodeIP e.id.nodePort t.daddr t.dport := by
  obtain ⟨key,found⟩ := Option.ne_none_iff_exists'.mp valid
  obtain ⟨goKey,marshalled,rfl⟩ := key_of_frontend found
  obtain ⟨ip,port,parsed,ranged,rfl⟩ := marshalFrontendKey_ok.mp marshalled
  have number := portBytes_ntohs ranged
  rw [found,Option.some.injEq]
  constructor
  · intro same
    obtain ⟨rfl,rfl,_,_⟩ := NodeportKey.mk.inj same
    exact ⟨parsed,number⟩
  · rintro ⟨address,header⟩
    cases Option.some.inj (parsed.symm.trans address)
    cases ntohs_injective (Int.natCast_inj.mp (number.symm.trans header))
    rfl

theorem marshalled_at {b : Backend} {value : NodePortBackendValue} (marshalled : marshalBackendValue b = .ok value) :
    At b.address b.port value.address value.port := by
  obtain ⟨address,_,port,parsed,_,ranged,rfl⟩ := marshalBackendValue_ok.mp marshalled
  exact ⟨parsed,portBytes_ntohs ranged⟩

-- Whatever the round-robin state says, the slot that is read holds a backend of
-- the entry.
theorem installed_chosen {m : Maps} {e : NodePortEntry} {t : Tuple} (installed : EntryInstalled m e (serviceKey t))
    (populated : e.backends ≠ []) (unowned : m.fwdCt.lookup (forwardKey t) = none) :
    ∃ v, chosen m t = some v ∧ parseIPv4 e.snatIP = some v.snatIp ∧
      ∃ b ∈ e.backends, At b.address b.port v.backendIp v.backendPort := by
  obtain ⟨count,ip,parsed,counted,served⟩ := installed.service
  have positive := List.length_pos_iff.mpr populated
  have some_slot : count ≠ 0 := by
    rintro rfl
    rw [UInt32.toNat_zero] at counted
    omega
  have below : ∀ {slot : UInt32}, slot < count → slot.toNat < e.backends.length := by
    intro slot low
    rw [← counted]
    exact UInt32.lt_iff_toNat_lt.mp low
  have filled : ∀ slot, slot < (⟨count,0,ip⟩ : NodeportValue).backendCount → m.backend.lookup ⟨serviceKey t,slot⟩ ≠ none := by
    intro slot low
    obtain ⟨value,_,here⟩ := installed.filled slot (below low)
    rw [here]
    exact Option.some_ne_none _
  obtain ⟨backend,maps,selected⟩ := selectBackend_found some_slot filled
  obtain ⟨slot,low,here⟩ := selectBackend_slot selected
  obtain ⟨value,marshalled,filled⟩ := installed.filled slot (below low)
  cases Option.some.inj (here.symm.trans filled)
  refine ⟨_,by simp only [chosen,served,unowned,selected]; rfl,parsed,_,List.getElem_mem (below low),?_⟩
  exact marshalled_at marshalled

theorem datapath_refines {before : Maps} {inputs : List (Label Unit)} {s : State Unit} {m : Maps} {h : Helpers} {skb : Frame}
    {hdr : Headers} (run : Runs advance (start before) inputs s) (idle : (s.procs ()).phase = .idle)
    (populated : ∀ id e, (s.procs ()).applied.lookup id = some e → e.backends ≠ [])
    (service : m.service = s.maps.service) (backend : m.backend = s.maps.backend)
    (parsed : parseTcpPacket skb = some hdr) (missed : m.ct.lookup (responseKey (loadTuple skb hdr)) = none)
    (unowned : m.fwdCt.lookup (forwardKey (loadTuple skb hdr)) = none) (unhindered : Unhindered h skb hdr m) :
    Serves h skb hdr m (s.procs ()).applied := by
  obtain ⟨entries,_,services,_⟩ := idle_installed (valid_runs run) idle
  constructor
  · intro id e found addressed
    obtain ⟨key,here,installed⟩ := entries id e found
    have framed : e.frontend = some (serviceKey (loadTuple skb hdr)) :=
      (frontend_at (by rw [here]; exact Option.some_ne_none key)).mpr addressed
    cases Option.some.inj (here.symm.trans framed)
    have shared : EntryInstalled m e (serviceKey (loadTuple skb hdr)) :=
      ⟨by rw [service]; exact installed.service,by rw [backend]; exact installed.filled,
        by rw [backend]; exact installed.spare⟩
    obtain ⟨v,picked,snat,b,listed,at_backend⟩ := installed_chosen shared (populated id e found) unowned
    obtain ⟨_,_,_,out⟩ := installs (h := h) parsed missed picked (unhindered.recorded v picked) (unhindered.pinned v picked)
    have sent := sent_tuple parsed out (unhindered.rewritten v picked)
    rw [sent]
    exact ⟨b,listed,at_backend,snat⟩
  · intro unaddressed
    have unserved : m.service.lookup (serviceKey (loadTuple skb hdr)) = none := by
      by_contra present
      rw [service] at present
      obtain ⟨id,e,found,here⟩ := services _ present
      exact unaddressed id e found ((frontend_at (by rw [here]; exact Option.some_ne_none _)).mp here)
    exact passes parsed missed (.inl unserved) (by simp [chosen,unserved])

-- A client that meets a round-robin slot from a time with more backends.
def staleSlot : RrStateMap := (BoundedMap.empty.update (serviceKey caller) 7).getD .empty

theorem shop_refines : ∃ s : State Unit, Runs advance (start .empty) shopComes s ∧
    Serves (plainHelpers 5) (tcpFrame caller) ⟨14,34⟩
      {s.maps with rrState := staleSlot, snatPort := some 41000, config := none} (.single shop) := by
  have idle : (shopComes.foldlM advance (start .empty)).map (fun s => (s.procs ()).phase) = some .idle := rfl
  have applied : (shopComes.foldlM advance (start .empty)).map (fun s => (s.procs ()).applied) = some (.single shop) := rfl
  have tables : (shopComes.foldlM advance (start .empty)).map (fun s => (s.maps.ct,s.maps.fwdCt)) = some (.empty,.empty) := rfl
  cases done : shopComes.foldlM advance (start .empty) with
  | none =>
    rw [done] at idle
    cases idle
  | some s =>
    rw [done] at idle applied tables
    obtain ⟨ct,fwdCt⟩ := Prod.mk.inj (Option.some.inj tables)
    have run := Runs.of_fold done
    refine ⟨s,run,?_⟩
    rw [← Option.some.inj applied]
    refine datapath_refines run (Option.some.inj idle) ?_ rfl rfl (tcpFrame_parse _) ?_ ?_ ⟨?_,?_,?_⟩
    · intro id e found
      have here : (s.procs ()).applied = .single shop := Option.some.inj applied
      rw [here] at found
      rw [DesiredSet.single_source found]
      exact List.cons_ne_nil _ _
    · rw [ct]
      rfl
    · rw [fwdCt]
      rfl
    · intro v _
      exact .inr (by rw [ct]; decide)
    · intro v _
      exact .inr (by rw [fwdCt]; decide)
    · intro v _
      exact rewrite_succeeds (plainHelpers_succeed 5) _ _ _

end Aipr.Refinement
