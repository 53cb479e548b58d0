import Aipr.NodeportProgram

namespace Aipr.NodeportTc

section Tail
variable (h : Helpers) (hdr : Headers) (new : Tuple) (counter : StatsIndex) (ifindex : UInt32) (c : Ctx)

theorem redirect_nonneg : (redirectOrFallback ifindex c).1 ≥ 0 := by
  unfold redirectOrFallback
  split <;> simp [tcActOk,tcActRedirect]

theorem tail_nonneg : (rewriteAndRedirect h hdr new counter ifindex c).1 ≥ 0 := by
  unfold rewriteAndRedirect
  split
  split
  · exact redirect_nonneg _ _
  · simp [tcActOk]

theorem redirect_skb : (redirectOrFallback ifindex c).2.skb = c.skb := by
  unfold redirectOrFallback
  split <;> rfl

@[simp] theorem tail_skb :
    (rewriteAndRedirect h hdr new counter ifindex c).2.skb = (rewriteTuple h c.skb hdr new).2 := by
  unfold rewriteAndRedirect
  split
  rename_i code skb written
  split
  · rw [redirect_skb,written]; rfl
  · rw [written]; rfl

theorem tail_maps : ∃ stats, (rewriteAndRedirect h hdr new counter ifindex c).2.maps = {c.maps with stats := stats} := by
  unfold rewriteAndRedirect redirectOrFallback
  split
  split
  · split <;> exact ⟨_,rfl⟩
  · exact ⟨_,rfl⟩

@[simp] theorem tail_service : (rewriteAndRedirect h hdr new counter ifindex c).2.maps.service = c.maps.service := by
  obtain ⟨stats,same⟩ := tail_maps h hdr new counter ifindex c
  rw [same]

@[simp] theorem tail_backend : (rewriteAndRedirect h hdr new counter ifindex c).2.maps.backend = c.maps.backend := by
  obtain ⟨stats,same⟩ := tail_maps h hdr new counter ifindex c
  rw [same]

@[simp] theorem tail_rrState : (rewriteAndRedirect h hdr new counter ifindex c).2.maps.rrState = c.maps.rrState := by
  obtain ⟨stats,same⟩ := tail_maps h hdr new counter ifindex c
  rw [same]

@[simp] theorem tail_ct : (rewriteAndRedirect h hdr new counter ifindex c).2.maps.ct = c.maps.ct := by
  obtain ⟨stats,same⟩ := tail_maps h hdr new counter ifindex c
  rw [same]

@[simp] theorem tail_fwdCt : (rewriteAndRedirect h hdr new counter ifindex c).2.maps.fwdCt = c.maps.fwdCt := by
  obtain ⟨stats,same⟩ := tail_maps h hdr new counter ifindex c
  rw [same]

@[simp] theorem tail_snatPort : (rewriteAndRedirect h hdr new counter ifindex c).2.maps.snatPort = c.maps.snatPort := by
  obtain ⟨stats,same⟩ := tail_maps h hdr new counter ifindex c
  rw [same]

@[simp] theorem tail_config : (rewriteAndRedirect h hdr new counter ifindex c).2.maps.config = c.maps.config := by
  obtain ⟨stats,same⟩ := tail_maps h hdr new counter ifindex c
  rw [same]

theorem tail_counts (other : StatsIndex) (watched : other = .requestRewrite ∨ other = .responseRewrite) :
    (rewriteAndRedirect h hdr new counter ifindex c).2.maps.stats other =
      c.maps.stats other + if counter = other ∧ (rewriteTuple h c.skb hdr new).1 = 0 then 1 else 0 := by
  unfold rewriteAndRedirect redirectOrFallback
  split
  rename_i code skb written
  have code_eq : (rewriteTuple h c.skb hdr new).1 = code := by rw [written]
  rw [code_eq]
  split
  · rename_i ok
    by_cases mine : counter = other
    · subst counter
      split <;> rcases watched with rfl | rfl <;> simp [Ctx.bumpStat,ok]
    · have unlike : ¬ other = counter := fun equal => mine equal.symm
      split <;> rcases watched with rfl | rfl <;> simp [Ctx.bumpStat,mine,unlike]
  · rename_i failed
    rcases watched with rfl | rfl <;> simp [Ctx.bumpStat,failed]

end Tail

theorem selectBackend_frame {m maps : Maps} {service : NodeportKey} {serviceMeta : NodeportValue}
    {backend : NodeportBackendValue} (selected : selectBackend m service serviceMeta = some (backend,maps)) :
    ∃ rrState stats, maps = {m with rrState := rrState, stats := stats} ∧
      ∀ other, other ≠ .rrUpdate → stats other = m.stats other := by
  unfold selectBackend at selected
  split at selected
  · cases selected
  · dsimp only at selected
    split at selected
    · cases selected
    · cases selected
      exact ⟨_,_,rfl,fun other unlike => by simp [unlike]⟩

theorem selectBackend_slot {m maps : Maps} {service : NodeportKey} {serviceMeta : NodeportValue}
    {backend : NodeportBackendValue} (selected : selectBackend m service serviceMeta = some (backend,maps)) :
    ∃ slot, slot < serviceMeta.backendCount ∧ m.backend.lookup ⟨service,slot⟩ = some backend := by
  unfold selectBackend at selected
  split at selected
  · cases selected
  · rename_i counted
    dsimp only at selected
    split at selected
    · cases selected
    · rename_i found
      cases selected
      refine ⟨_,?_,found⟩
      split
      · exact UInt32.pos_iff_ne_zero.mpr counted
      · rename_i low
        exact UInt32.not_le.mp low

theorem selectBackend_found {m : Maps} {service : NodeportKey} {serviceMeta : NodeportValue}
    (counted : serviceMeta.backendCount ≠ 0)
    (filled : ∀ slot, slot < serviceMeta.backendCount → m.backend.lookup ⟨service,slot⟩ ≠ none) :
    ∃ backend maps, selectBackend m service serviceMeta = some (backend,maps) := by
  unfold selectBackend
  rw [if_neg counted]
  dsimp only
  split
  · rename_i missing
    refine absurd missing (filled _ ?_)
    split
    · exact UInt32.pos_iff_ne_zero.mpr counted
    · rename_i low
      exact UInt32.not_le.mp low
  · exact ⟨_,_,rfl⟩

-- What a packet without a forward entry would install, if anything: a pure
-- reading of the maps before it.
def chosen (m : Maps) (t : Tuple) : Option NodeportFwdCtValue :=
  match m.service.lookup (serviceKey t),m.fwdCt.lookup (forwardKey t) with
  | some serviceState,none =>
    (selectBackend m (serviceKey t) serviceState).map fun selected =>
      ⟨selected.1.address,serviceState.snatIp,selected.1.port,(allocateSnatPort m.snatPort).1,
        egressIfindex m.config (serviceKey t) selected.1⟩
  | _,_ => none

def record (t : Tuple) (now : UInt64) : NodeportCtValue := ⟨t.saddr,t.daddr,t.sport,t.dport,now⟩

structure Rewrite where
  counter : StatsIndex
  new : Tuple
  ifindex : UInt32

def requestRewrite (v : NodeportFwdCtValue) : Rewrite := ⟨.requestRewrite,forwardTarget v,v.egressIfindex⟩

def responseRewrite (config : Option NodeportConfig) (w : NodeportCtValue) : Rewrite :=
  ⟨.responseRewrite,replyTarget w,config.elim 0 NodeportConfig.externalIfindex⟩

-- All the program can do to the conntrack tables and the port counter with one
-- TCP packet, and how it then translates the packet.
inductive Handled (m : Maps) (t : Tuple) (now : UInt64) :
    CtMap → FwdCtMap → Option UInt32 → Option Rewrite → Prop where
  | response (found : m.ct.lookup (responseKey t) = some w)
      (refreshed : m.ct.update (responseKey t) {w with lastSeenNs := now} = some ct) :
      Handled m t now ct m.fwdCt m.snatPort (some (responseRewrite m.config w))
  | passed (missed : m.ct.lookup (responseKey t) = none)
      (unowned : m.service.lookup (serviceKey t) = none ∨ m.fwdCt.lookup (forwardKey t) = none)
      (unchosen : chosen m t = none) : Handled m t now m.ct m.fwdCt m.snatPort none
  | established (missed : m.ct.lookup (responseKey t) = none)
      (served : m.service.lookup (serviceKey t) = some serviceState)
      (owned : m.fwdCt.lookup (forwardKey t) = some v)
      (refreshed : m.ct.update (reverseKey v) (record t now) = some ct) :
      Handled m t now ct m.fwdCt m.snatPort (some (requestRewrite v))
  | unrefreshed (missed : m.ct.lookup (responseKey t) = none)
      (served : m.service.lookup (serviceKey t) = some serviceState)
      (owned : m.fwdCt.lookup (forwardKey t) = some v)
      (refused : m.ct.update (reverseKey v) (record t now) = none) :
      Handled m t now m.ct m.fwdCt m.snatPort (some (requestRewrite v))
  | refused (missed : m.ct.lookup (responseKey t) = none) (picked : chosen m t = some v)
      (refused : m.ct.update (reverseKey v) (record t now) = none) :
      Handled m t now m.ct m.fwdCt (some (allocateSnatPort m.snatPort).2) none
  | rolledBack (missed : m.ct.lookup (responseKey t) = none) (picked : chosen m t = some v)
      (recorded : m.ct.update (reverseKey v) (record t now) = some ct)
      (refused : m.fwdCt.update (forwardKey t) v = none) :
      Handled m t now (ct.delete (reverseKey v)) m.fwdCt (some (allocateSnatPort m.snatPort).2) none
  | installed (missed : m.ct.lookup (responseKey t) = none) (picked : chosen m t = some v)
      (recorded : m.ct.update (reverseKey v) (record t now) = some ct)
      (pinned : m.fwdCt.update (forwardKey t) v = some fwdCt) :
      Handled m t now ct fwdCt (some (allocateSnatPort m.snatPort).2) (some (requestRewrite v))

def counted (h : Helpers) (skb : Frame) (hdr : Headers) (counter : StatsIndex) (target : Option Rewrite) : Nat :=
  match target with
  | none => 0
  | some rw => if rw.counter = counter ∧ (rewriteTuple h skb hdr rw.new).1 = 0 then 1 else 0

structure Outcome (h : Helpers) (skb : Frame) (hdr : Headers) (m : Maps) (target : Option Rewrite) (out : Ctx) : Prop where
  handled : Handled m (loadTuple skb hdr) h.ktimeGetNs out.maps.ct out.maps.fwdCt out.maps.snatPort target
  packet : out.skb = target.elim skb fun rw => (rewriteTuple h skb hdr rw.new).2
  counts : ∀ counter, counter = .requestRewrite ∨ counter = .responseRewrite →
    out.maps.stats counter = m.stats counter + counted h skb hdr counter target

theorem chosen_stats (m : Maps) (stats : StatsIndex → Nat) (t : Tuple) :
    chosen {m with stats := stats} t = chosen m t := by
  have same : ∀ service serviceMeta, (selectBackend {m with stats := stats} service serviceMeta).map Prod.fst =
      (selectBackend m service serviceMeta).map Prod.fst := by
    intro service serviceMeta
    unfold selectBackend
    split
    · rfl
    · dsimp only [lookupBackendSlot]
      split <;> rfl
  unfold chosen
  dsimp only
  split
  · rename_i serviceState _ _
    have pair := same (serviceKey t) serviceState
    cases left : selectBackend {m with stats := stats} (serviceKey t) serviceState <;>
      cases right : selectBackend m (serviceKey t) serviceState <;> simp_all
  · rfl

theorem out_response {h : Helpers} {skb : Frame} {hdr : Headers} {m : Maps} {w : NodeportCtValue}
    (parsed : parseTcpPacket skb = some hdr) (found : m.ct.lookup (responseKey (loadTuple skb hdr)) = some w) :
    (nodeportTc h skb m).2 = (handleResponse h hdr ⟨skb,m.bumpStat .tcpPackets,none⟩).2 := by
  have nonneg : (handleResponse h hdr ⟨skb,m.bumpStat .tcpPackets,none⟩).1 ≥ 0 := by
    simp only [handleResponse,bumpStat_ct,found]
    exact tail_nonneg _ _ _ _ _ _
  simp only [nodeportTc,parsed]
  rw [if_pos nonneg]

-- A packet that matches no reverse entry reaches handle_request; only counters
-- that no later branch looks at have moved.
theorem out_request {h : Helpers} {skb : Frame} {hdr : Headers} {m : Maps}
    (parsed : parseTcpPacket skb = some hdr) (missed : m.ct.lookup (responseKey (loadTuple skb hdr)) = none) :
    ∃ stats, (nodeportTc h skb m).2 = (handleRequest h hdr ⟨skb,{m with stats := stats},none⟩).2 ∧
      ∀ counter, counter = .requestRewrite ∨ counter = .responseRewrite → stats counter = m.stats counter := by
  have response : ∃ stats, handleResponse h hdr ⟨skb,m.bumpStat .tcpPackets,none⟩ =
      (-1,⟨skb,{m with stats := stats},none⟩) ∧
      ∀ counter, counter = .requestRewrite ∨ counter = .responseRewrite → stats counter = m.stats counter := by
    simp only [handleResponse,bumpStat_ct,missed]
    split
    · refine ⟨_,rfl,?_⟩
      rintro counter (rfl | rfl) <;> simp [Maps.bumpStat]
    · refine ⟨_,rfl,?_⟩
      rintro counter (rfl | rfl) <;> simp
  obtain ⟨stats,same,kept⟩ := response
  refine ⟨stats,?_,kept⟩
  simp only [nodeportTc,parsed,same]
  rw [if_neg (by decide)]
  split <;> rfl

theorem response_outcome {h : Helpers} {skb : Frame} {hdr : Headers} {m : Maps} {w : NodeportCtValue}
    (parsed : parseTcpPacket skb = some hdr) (found : m.ct.lookup (responseKey (loadTuple skb hdr)) = some w) :
    Outcome h skb hdr m (some (responseRewrite m.config w)) (nodeportTc h skb m).2 := by
  obtain ⟨ct,refreshed⟩ := m.ct.update_of_present (responseKey (loadTuple skb hdr))
    {w with lastSeenNs := h.ktimeGetNs} (by rw [found]; exact Option.some_ne_none w)
  rw [out_response parsed found]
  simp only [handleResponse,bumpStat_ct,found,updateConntrackEntry,refreshed,Option.getD_some]
  refine ⟨?_,?_,?_⟩
  · simpa only [tail_ct,tail_fwdCt,tail_snatPort,ctx_bumpStat_maps,bumpStat_ct,bumpStat_fwdCt,
      bumpStat_snatPort] using Handled.response found refreshed
  · simp only [tail_skb]
    rfl
  · intro counter watched
    rw [tail_counts _ _ _ _ _ _ counter watched]
    rcases watched with rfl | rfl <;> simp [counted,responseRewrite]

section Request
variable {h : Helpers} {skb : Frame} {hdr : Headers} {m : Maps} {serviceState : NodeportValue}
  {stats : StatsIndex → Nat}

theorem established_outcome {v : NodeportFwdCtValue} (missed : m.ct.lookup (responseKey (loadTuple skb hdr)) = none)
    (served : m.service.lookup (serviceKey (loadTuple skb hdr)) = some serviceState)
    (owned : m.fwdCt.lookup (forwardKey (loadTuple skb hdr)) = some v)
    (kept : ∀ counter, counter = .requestRewrite ∨ counter = .responseRewrite → stats counter = m.stats counter) :
    Outcome h skb hdr m (some (requestRewrite v))
      (requestEstablished h hdr (loadTuple skb hdr) v ⟨skb,{m with stats := stats},none⟩).2 := by
  refine ⟨?_,?_,?_⟩
  · simp only [requestEstablished,tail_ct,tail_fwdCt,tail_snatPort,ctx_bumpStat_maps,bumpStat_ct,bumpStat_fwdCt,
      bumpStat_snatPort,updateConntrackEntry]
    cases refreshed : m.ct.update (reverseKey v) (record (loadTuple skb hdr) h.ktimeGetNs) with
    | none =>
      simp only [record] at refreshed
      simpa only [refreshed,Option.getD_none] using Handled.unrefreshed missed served owned refreshed
    | some next =>
      have step := Handled.established missed served owned refreshed
      simp only [record] at refreshed
      simpa only [refreshed,Option.getD_some] using step
  · simp only [requestEstablished,tail_skb,ctx_bumpStat_skb]
    rfl
  · intro counter watched
    rw [requestEstablished,tail_counts _ _ _ _ _ _ counter watched]
    have old := kept counter watched
    rcases watched with rfl | rfl <;> simp [counted,requestRewrite,old]

theorem new_outcome (missed : m.ct.lookup (responseKey (loadTuple skb hdr)) = none)
    (served : m.service.lookup (serviceKey (loadTuple skb hdr)) = some serviceState)
    (unowned : m.fwdCt.lookup (forwardKey (loadTuple skb hdr)) = none)
    (kept : ∀ counter, counter = .requestRewrite ∨ counter = .responseRewrite → stats counter = m.stats counter) :
    ∃ target, Outcome h skb hdr m target
      (requestNew h hdr (loadTuple skb hdr) serviceState m.config ⟨skb,{m with stats := stats},none⟩).2 := by
  have choice := chosen_stats m stats (loadTuple skb hdr)
  simp only [requestNew]
  cases selected : selectBackend {m with stats := stats} (serviceKey (loadTuple skb hdr)) serviceState with
  | none =>
    have unchosen : chosen m (loadTuple skb hdr) = none := by
      rw [← choice]
      simp [chosen,served,unowned,selected]
    refine ⟨none,.passed missed (.inr unowned) unchosen,rfl,?_⟩
    intro counter watched
    have old := kept counter watched
    rcases watched with rfl | rfl <;> simp [counted,old]
  | some pair =>
    obtain ⟨backend,maps⟩ := pair
    obtain ⟨rrState,moved,rfl,others⟩ := selectBackend_frame selected
    have picked : chosen m (loadTuple skb hdr) = some ⟨backend.address,serviceState.snatIp,backend.port,
        (allocateSnatPort m.snatPort).1,egressIfindex m.config (serviceKey (loadTuple skb hdr)) backend⟩ := by
      rw [← choice]
      simp [chosen,served,unowned,selected]
    have old : ∀ counter, counter = .requestRewrite ∨ counter = .responseRewrite → moved counter = m.stats counter := by
      intro counter watched
      rw [others counter (by rcases watched with rfl | rfl <;> decide)]
      exact kept counter watched
    dsimp only [ctx_bumpStat_maps,bumpStat_ct,bumpStat_fwdCt,bumpStat_snatPort,updateConntrackEntry]
    split
    · rename_i refused
      refine ⟨none,.refused missed picked refused,rfl,?_⟩
      intro counter watched
      have kept := old counter watched
      rcases watched with rfl | rfl <;> simp [counted,kept]
    · rename_i ct recorded
      split
      · rename_i refused
        refine ⟨none,.rolledBack missed picked recorded refused,rfl,?_⟩
        intro counter watched
        have kept := old counter watched
        rcases watched with rfl | rfl <;> simp [counted,kept]
      · rename_i fwdCt pinned
        refine ⟨some (requestRewrite ⟨backend.address,serviceState.snatIp,backend.port,
          (allocateSnatPort m.snatPort).1,egressIfindex m.config (serviceKey (loadTuple skb hdr)) backend⟩),?_,?_,?_⟩
        · simpa only [tail_ct,tail_fwdCt,tail_snatPort,ctx_bumpStat_maps,bumpStat_ct,bumpStat_fwdCt,
            bumpStat_snatPort] using Handled.installed missed picked recorded pinned
        · simp only [tail_skb,ctx_bumpStat_skb]
          rfl
        · intro counter watched
          rw [tail_counts _ _ _ _ _ _ counter watched]
          have kept := old counter watched
          rcases watched with rfl | rfl <;> simp [counted,requestRewrite,forwardTarget,kept]

end Request

-- The inversion every result about the tables rests on.
theorem nodeportTc_outcome {h : Helpers} {skb : Frame} {hdr : Headers} {m : Maps}
    (parsed : parseTcpPacket skb = some hdr) : ∃ target, Outcome h skb hdr m target (nodeportTc h skb m).2 := by
  cases found : m.ct.lookup (responseKey (loadTuple skb hdr)) with
  | some w => exact ⟨_,response_outcome parsed found⟩
  | none =>
    obtain ⟨stats,out,kept⟩ := out_request (h := h) parsed found
    rw [out]
    simp only [handleRequest]
    cases served : m.service.lookup (serviceKey (loadTuple skb hdr)) with
    | none =>
      refine ⟨none,.passed found (.inl served) (by simp [chosen,served]),rfl,?_⟩
      intro counter watched
      exact kept counter watched
    | some serviceState =>
      have bumped : ∀ counter, counter = .requestRewrite ∨ counter = .responseRewrite →
          (if counter = StatsIndex.nodeportHit then stats counter + 1 else stats counter) = m.stats counter := by
        intro counter watched
        rw [if_neg (by rcases watched with rfl | rfl <;> decide)]
        exact kept counter watched
      cases owned : m.fwdCt.lookup (forwardKey (loadTuple skb hdr)) with
      | some v =>
        simp only [ctx_bumpStat_maps,bumpStat_fwdCt,owned]
        exact ⟨_,established_outcome found served owned bumped⟩
      | none =>
        simp only [ctx_bumpStat_maps,bumpStat_fwdCt,owned]
        exact new_outcome found served owned bumped

theorem unparsed_out {h : Helpers} {skb : Frame} {m : Maps} (unparsed : parseTcpPacket skb = none) :
    (nodeportTc h skb m).2 = ⟨skb,m,none⟩ := by
  simp only [nodeportTc,unparsed]

theorem chosen_some {m : Maps} {t : Tuple} {v : NodeportFwdCtValue} (picked : chosen m t = some v) :
    ∃ serviceState backend maps, m.service.lookup (serviceKey t) = some serviceState ∧
      m.fwdCt.lookup (forwardKey t) = none ∧
      selectBackend m (serviceKey t) serviceState = some (backend,maps) ∧
      v = ⟨backend.address,serviceState.snatIp,backend.port,(allocateSnatPort m.snatPort).1,
        egressIfindex m.config (serviceKey t) backend⟩ := by
  unfold chosen at picked
  split at picked
  · rename_i serviceState served unowned
    obtain ⟨selected,found,rfl⟩ := Option.map_eq_some_iff.mp picked
    exact ⟨serviceState,selected.1,selected.2,served,unowned,found,rfl⟩
  · cases picked

theorem chosen_unowned {m : Maps} {t : Tuple} {v : NodeportFwdCtValue} (picked : chosen m t = some v) :
    m.fwdCt.lookup (forwardKey t) = none := by
  obtain ⟨_,_,_,_,unowned,_,_⟩ := chosen_some picked
  exact unowned

theorem Handled.of_picked {m : Maps} {t : Tuple} {now : UInt64} {ct : CtMap} {fwdCt : FwdCtMap} {snatPort : Option UInt32}
    {target : Option Rewrite} {v : NodeportFwdCtValue} (handled : Handled m t now ct fwdCt snatPort target)
    (missed : m.ct.lookup (responseKey t) = none) (picked : chosen m t = some v) :
    snatPort = some (allocateSnatPort m.snatPort).2 ∧
      ((m.ct.update (reverseKey v) (record t now) = none ∧ ct = m.ct ∧ fwdCt = m.fwdCt) ∨
        ∃ recorded, m.ct.update (reverseKey v) (record t now) = some recorded ∧
          ((m.fwdCt.update (forwardKey t) v = none ∧ ct = recorded.delete (reverseKey v) ∧ fwdCt = m.fwdCt) ∨
            (m.fwdCt.update (forwardKey t) v = some fwdCt ∧ ct = recorded ∧ target = some (requestRewrite v)))) := by
  cases handled with
  | response found => cases missed.symm.trans found
  | passed _ _ unchosen => cases unchosen.symm.trans picked
  | established _ _ owned _ => cases (chosen_unowned picked).symm.trans owned
  | unrefreshed _ _ owned _ => cases (chosen_unowned picked).symm.trans owned
  | refused _ picked' refused =>
    cases picked.symm.trans picked'
    exact ⟨rfl,.inl ⟨refused,rfl,rfl⟩⟩
  | rolledBack _ picked' recorded refused =>
    cases picked.symm.trans picked'
    exact ⟨rfl,.inr ⟨_,recorded,.inl ⟨refused,rfl,rfl⟩⟩⟩
  | installed _ picked' recorded pinned =>
    cases picked.symm.trans picked'
    exact ⟨rfl,.inr ⟨_,recorded,.inr ⟨pinned,rfl,rfl⟩⟩⟩

theorem chosen_single {m : Maps} {t : Tuple} {flags : UInt32} {snatIp : Be32} {backend : NodeportBackendValue}
    (served : m.service.lookup (serviceKey t) = some ⟨1,flags,snatIp⟩)
    (unowned : m.fwdCt.lookup (forwardKey t) = none)
    (slot : m.backend.lookup ⟨serviceKey t,0⟩ = some backend) :
    chosen m t = some ⟨backend.address,snatIp,backend.port,(allocateSnatPort m.snatPort).1,
      egressIfindex m.config (serviceKey t) backend⟩ := by
  have first : ∀ rrSlot : UInt32, (if rrSlot ≥ 1 then (0 : UInt32) else rrSlot) = 0 := by
    intro rrSlot
    split
    · rfl
    · rename_i low
      rw [ge_iff_le,UInt32.le_iff_toNat_le,UInt32.toNat_one] at low
      apply UInt32.toNat_inj.mp
      rw [UInt32.toNat_zero]
      omega
  simp only [chosen,served,unowned,selectBackend,lookupBackendSlot,first,slot]
  rfl

section Cases
variable {h : Helpers} {skb : Frame} {hdr : Headers} {m : Maps}

theorem sent_tuple {rw : Rewrite} (parsed : parseTcpPacket skb = some hdr)
    (out : Outcome h skb hdr m (some rw) (nodeportTc h skb m).2) (done : (rewriteTuple h skb hdr rw.new).1 = 0) :
    loadTuple (outSkb h skb m) hdr = rw.new := by
  have packet : outSkb h skb m = (rewriteTuple h skb hdr rw.new).2 := out.packet
  rw [packet]
  exact rewrite_loaded (parse_sound parsed) done

-- The forward directions of the inversion: which case applies when.
theorem replies (parsed : parseTcpPacket skb = some hdr)
    (found : m.ct.lookup (responseKey (loadTuple skb hdr)) = some w) :
    outSkb h skb m = (rewriteTuple h skb hdr (replyTarget w)).2 := (response_outcome parsed found).packet

theorem refreshes (parsed : parseTcpPacket skb = some hdr)
    (missed : m.ct.lookup (responseKey (loadTuple skb hdr)) = none)
    (served : m.service.lookup (serviceKey (loadTuple skb hdr)) = some serviceState)
    (owned : m.fwdCt.lookup (forwardKey (loadTuple skb hdr)) = some v) :
    (outMaps h skb m).ct = (m.ct.update (reverseKey v) (record (loadTuple skb hdr) h.ktimeGetNs)).getD m.ct ∧
      (outMaps h skb m).fwdCt = m.fwdCt ∧ (outMaps h skb m).snatPort = m.snatPort ∧
      Outcome h skb hdr m (some (requestRewrite v)) (nodeportTc h skb m).2 := by
  obtain ⟨target,out⟩ := nodeportTc_outcome (h := h) (m := m) parsed
  have step := out.handled
  change (nodeportTc h skb m).2.maps.ct = _ ∧ (nodeportTc h skb m).2.maps.fwdCt = _ ∧
    (nodeportTc h skb m).2.maps.snatPort = _ ∧ _
  generalize (nodeportTc h skb m).2.maps.ct = ct,(nodeportTc h skb m).2.maps.fwdCt = fwdCt,
    (nodeportTc h skb m).2.maps.snatPort = snatPort at step ⊢
  cases step with
  | response found => rw [missed] at found; cases found
  | passed _ unowned _ =>
    rcases unowned with unserved | unowned
    · rw [served] at unserved; cases unserved
    · rw [owned] at unowned; cases unowned
  | established _ _ owned' refreshed =>
    rw [owned] at owned'
    cases Option.some.inj owned'
    exact ⟨by rw [refreshed]; rfl,rfl,rfl,out⟩
  | unrefreshed _ _ owned' refused =>
    rw [owned] at owned'
    cases Option.some.inj owned'
    exact ⟨by rw [refused]; rfl,rfl,rfl,out⟩
  | refused _ picked _ => rw [chosen_unowned picked] at owned; cases owned
  | rolledBack _ picked _ _ => rw [chosen_unowned picked] at owned; cases owned
  | installed _ picked _ _ => rw [chosen_unowned picked] at owned; cases owned

theorem installs (parsed : parseTcpPacket skb = some hdr)
    (missed : m.ct.lookup (responseKey (loadTuple skb hdr)) = none)
    (picked : chosen m (loadTuple skb hdr) = some v)
    (recorded : m.ct.Accepts (reverseKey v)) (pinned : m.fwdCt.Accepts (forwardKey (loadTuple skb hdr))) :
    m.ct.update (reverseKey v) (record (loadTuple skb hdr) h.ktimeGetNs) = some (outMaps h skb m).ct ∧
      m.fwdCt.update (forwardKey (loadTuple skb hdr)) v = some (outMaps h skb m).fwdCt ∧
      (outMaps h skb m).snatPort = some (allocateSnatPort m.snatPort).2 ∧
      Outcome h skb hdr m (some (requestRewrite v)) (nodeportTc h skb m).2 := by
  have ctUpdate := (m.ct.update_isSome (reverseKey v) (record (loadTuple skb hdr) h.ktimeGetNs)).mpr recorded
  have fwdUpdate := (m.fwdCt.update_isSome (forwardKey (loadTuple skb hdr)) v).mpr pinned
  obtain ⟨target,out⟩ := nodeportTc_outcome (h := h) (m := m) parsed
  obtain ⟨next,⟨refused,_,_⟩ | ⟨ct,ran,⟨refused,_,_⟩ | ⟨pinned',same,rfl⟩⟩⟩ := out.handled.of_picked missed picked
  · rw [refused] at ctUpdate
    cases ctUpdate
  · rw [refused] at fwdUpdate
    cases fwdUpdate
  · exact ⟨ran.trans (congrArg some same.symm),pinned',next,out⟩

theorem refuses (parsed : parseTcpPacket skb = some hdr)
    (missed : m.ct.lookup (responseKey (loadTuple skb hdr)) = none)
    (picked : chosen m (loadTuple skb hdr) = some v)
    (refused : m.ct.update (reverseKey v) (record (loadTuple skb hdr) h.ktimeGetNs) = none) :
    (outMaps h skb m).ct = m.ct ∧ (outMaps h skb m).fwdCt = m.fwdCt ∧
      (outMaps h skb m).snatPort = some (allocateSnatPort m.snatPort).2 := by
  obtain ⟨target,out⟩ := nodeportTc_outcome (h := h) (m := m) parsed
  obtain ⟨next,⟨_,ct,fwdCt⟩ | ⟨_,recorded,_⟩⟩ := out.handled.of_picked missed picked
  · exact ⟨ct,fwdCt,next⟩
  · cases refused.symm.trans recorded

theorem rollsBack {ct : CtMap} (parsed : parseTcpPacket skb = some hdr)
    (missed : m.ct.lookup (responseKey (loadTuple skb hdr)) = none)
    (picked : chosen m (loadTuple skb hdr) = some v)
    (recorded : m.ct.update (reverseKey v) (record (loadTuple skb hdr) h.ktimeGetNs) = some ct)
    (refused : m.fwdCt.update (forwardKey (loadTuple skb hdr)) v = none) :
    (outMaps h skb m).ct = ct.delete (reverseKey v) ∧ (outMaps h skb m).fwdCt = m.fwdCt := by
  obtain ⟨target,out⟩ := nodeportTc_outcome (h := h) (m := m) parsed
  obtain ⟨_,⟨refused',_,_⟩ | ⟨_,recorded',⟨_,deleted,fwdCt⟩ | ⟨pinned,_,_⟩⟩⟩ := out.handled.of_picked missed picked
  · cases refused'.symm.trans recorded
  · cases recorded.symm.trans recorded'
    exact ⟨deleted,fwdCt⟩
  · cases refused.symm.trans pinned

theorem passes (parsed : parseTcpPacket skb = some hdr)
    (missed : m.ct.lookup (responseKey (loadTuple skb hdr)) = none)
    (unowned : m.service.lookup (serviceKey (loadTuple skb hdr)) = none ∨
      m.fwdCt.lookup (forwardKey (loadTuple skb hdr)) = none)
    (unchosen : chosen m (loadTuple skb hdr) = none) :
    outSkb h skb m = skb ∧ (outMaps h skb m).ct = m.ct ∧ (outMaps h skb m).fwdCt = m.fwdCt := by
  obtain ⟨target,out⟩ := nodeportTc_outcome (h := h) (m := m) parsed
  have step := out.handled
  have packet := out.packet
  change (nodeportTc h skb m).2.skb = skb ∧ (nodeportTc h skb m).2.maps.ct = _ ∧ (nodeportTc h skb m).2.maps.fwdCt = _
  generalize (nodeportTc h skb m).2.maps.ct = ct,(nodeportTc h skb m).2.maps.fwdCt = fwdCt,
    (nodeportTc h skb m).2.maps.snatPort = snatPort at step ⊢
  have owned : ∀ {serviceState v}, m.service.lookup (serviceKey (loadTuple skb hdr)) = some serviceState →
      m.fwdCt.lookup (forwardKey (loadTuple skb hdr)) = some v → False := by
    intro serviceState v served owned
    rcases unowned with unserved | unowned
    · cases served.symm.trans unserved
    · cases owned.symm.trans unowned
  cases step with
  | response found => cases missed.symm.trans found
  | passed _ _ _ => exact ⟨packet,rfl,rfl⟩
  | established _ served owned' _ => exact (owned served owned').elim
  | unrefreshed _ served owned' _ => exact (owned served owned').elim
  | refused _ picked _ => cases unchosen.symm.trans picked
  | rolledBack _ picked _ _ => cases unchosen.symm.trans picked
  | installed _ picked _ _ => cases unchosen.symm.trans picked

end Cases

-- The part of the maps that belongs to the control plane.
structure SameControl (m next : Maps) : Prop where
  service : next.service = m.service
  backend : next.backend = m.backend
  config : next.config = m.config

theorem requestNew_control (h : Helpers) (hdr : Headers) (t : Tuple) (serviceState : NodeportValue)
    (config : Option NodeportConfig) (c : Ctx) :
    SameControl c.maps (requestNew h hdr t serviceState config c).2.maps := by
  unfold requestNew
  split
  · exact ⟨rfl,rfl,rfl⟩
  · rename_i backend maps selected
    obtain ⟨rrState,stats,rfl,_⟩ := selectBackend_frame selected
    dsimp only
    split
    · exact ⟨rfl,rfl,rfl⟩
    · split
      · exact ⟨rfl,rfl,rfl⟩
      · exact ⟨by simp,by simp,by simp⟩

theorem handleRequest_control (h : Helpers) (hdr : Headers) (c : Ctx) :
    SameControl c.maps (handleRequest h hdr c).2.maps := by
  unfold handleRequest
  dsimp only
  split
  · exact ⟨rfl,rfl,rfl⟩
  · split
    · exact ⟨by simp [requestEstablished],by simp [requestEstablished],by simp [requestEstablished]⟩
    · have fresh := requestNew_control h hdr (loadTuple c.skb hdr) (by assumption) c.maps.config (c.bumpStat .nodeportHit)
      exact ⟨fresh.service,fresh.backend,fresh.config⟩

theorem handleResponse_control (h : Helpers) (hdr : Headers) (c : Ctx) :
    SameControl c.maps (handleResponse h hdr c).2.maps := by
  unfold handleResponse
  dsimp only
  split
  · split <;> exact ⟨rfl,rfl,rfl⟩
  · exact ⟨by simp,by simp,by simp⟩

-- No packet writes what the control plane owns.
theorem outMaps_control (h : Helpers) (skb : Frame) (m : Maps) : SameControl m (outMaps h skb m) := by
  unfold outMaps nodeportTc
  split
  · exact ⟨rfl,rfl,rfl⟩
  · rename_i hdr parsed
    have first := handleResponse_control h hdr ⟨skb,m.bumpStat .tcpPackets,none⟩
    dsimp only
    split
    · exact ⟨first.service,first.backend,first.config⟩
    · have second := handleRequest_control h hdr (handleResponse h hdr ⟨skb,m.bumpStat .tcpPackets,none⟩).2
      have both : SameControl m (handleRequest h hdr (handleResponse h hdr ⟨skb,m.bumpStat .tcpPackets,none⟩).2).2.maps :=
        ⟨second.service.trans first.service,second.backend.trans first.backend,second.config.trans first.config⟩
      split <;> exact both

end Aipr.NodeportTc
