import Mathlib.Data.List.Induction
import Aipr.SnatRange

namespace Aipr.EgressCache
open NodeportTc Syncer SnatRange Transition
open FlowIsolation (start frontend pod snatIp longLived)

def sent (ifindex : UInt32) : Option UInt32 := if ifindex > 0 then some ifindex else none

section Redirect
variable {h : Helpers} {skb : Frame} {hdr : Headers} {m : Maps}

theorem tail_redirect {new : Tuple} {counter : StatsIndex} {ifindex : UInt32} {c : Ctx} (fresh : c.redirect = none)
    (done : (rewriteTuple h c.skb hdr new).1 = 0) :
    (rewriteAndRedirect h hdr new counter ifindex c).2.redirect = sent ifindex := by
  unfold rewriteAndRedirect redirectOrFallback sent
  dsimp only
  rw [if_pos done]
  split
  · rfl
  · exact fresh

-- On a forward hit nothing is computed anew.
theorem hit_redirect {serviceState : NodeportValue} {v : NodeportFwdCtValue} (parsed : parseTcpPacket skb = some hdr)
    (missed : m.ct.lookup (responseKey (loadTuple skb hdr)) = none)
    (served : m.service.lookup (serviceKey (loadTuple skb hdr)) = some serviceState)
    (owned : m.fwdCt.lookup (forwardKey (loadTuple skb hdr)) = some v)
    (done : (rewriteTuple h skb hdr (forwardTarget v)).1 = 0) :
    (nodeportTc h skb m).2.redirect = sent v.egressIfindex := by
  obtain ⟨stats,out,_⟩ := out_request (h := h) parsed missed
  rw [out]
  simp only [handleRequest,served,ctx_bumpStat_maps,bumpStat_fwdCt,owned,requestEstablished]
  exact tail_redirect rfl done

end Redirect

theorem packet_fwd {m : Maps} {h : Helpers} {skb : Frame} {k : NodeportFwdCtKey} {v : NodeportFwdCtValue}
    (found : (outMaps h skb m).fwdCt.lookup k = some v) : m.fwdCt.lookup k = some v ∨
      ∃ hdr, parseTcpPacket skb = some hdr ∧ forwardKey (loadTuple skb hdr) = k ∧ chosen m (loadTuple skb hdr) = some v := by
  cases parsed : parseTcpPacket skb with
  | none =>
    rw [outMaps,unparsed_out parsed] at found
    exact .inl found
  | some hdr =>
    obtain ⟨target,out⟩ := nodeportTc_outcome (h := h) (m := m) parsed
    have handled := out.handled
    change (nodeportTc h skb m).2.maps.fwdCt.lookup k = some v at found
    generalize (nodeportTc h skb m).2.maps.ct = ct,(nodeportTc h skb m).2.maps.fwdCt = fwdCt,
      (nodeportTc h skb m).2.maps.snatPort = snatPort at handled found
    cases handled with
    | installed _ picked _ pinned =>
      rw [BoundedMap.lookup_update pinned] at found
      split at found
      · rename_i here
        cases Option.some.inj found
        exact .inr ⟨hdr,rfl,here.symm,picked⟩
      · exact .inl found
    | _ => exact .inl found

theorem step_fwd {m : Maps} {input : Input} {k : NodeportFwdCtKey} {v : NodeportFwdCtValue}
    (found : (step m input).fwdCt.lookup k = some v) : m.fwdCt.lookup k = some v ∨
      ∃ h skb hdr, input = .packet h skb ∧ parseTcpPacket skb = some hdr ∧ forwardKey (loadTuple skb hdr) = k ∧
        chosen m (loadTuple skb hdr) = some v := by
  cases input with
  | packet h skb =>
    rcases packet_fwd found with before | ⟨hdr,parsed,here,picked⟩
    · exact .inl before
    · exact .inr ⟨h,skb,hdr,rfl,parsed,here,picked⟩
  | reconcile op =>
    rw [step] at found
    cases done : op.apply m with
    | none =>
      rw [done] at found
      exact .inl found
    | some next =>
      rw [done,Option.getD_some,(apply_conntrack done).2] at found
      exact .inl found
  | deleteCt r => exact .inl found
  | deleteFwd other =>
    rw [step,BoundedMap.lookup_delete] at found
    split at found
    · cases found
    · exact .inl found

theorem forwardKey_injective {t t' : Tuple} (same : forwardKey t = forwardKey t') : t = t' := by
  obtain ⟨saddr,daddr,sport,dport⟩ := t
  cases same
  rfl

-- A first packet of the connection, one without a forward entry, and what the slow
-- path makes of it: the backend it selects, and the interface for this backend.
structure Opens (before : Maps) (skb : Frame) (t : Tuple) (v : NodeportFwdCtValue) (backend : NodeportBackendValue) : Prop where
  tuple : ∃ hdr, parseTcpPacket skb = some hdr ∧ loadTuple skb hdr = t
  fresh : before.fwdCt.lookup (forwardKey t) = none
  selected : ∃ serviceState maps, before.service.lookup (serviceKey t) = some serviceState ∧
    selectBackend before (serviceKey t) serviceState = some (backend,maps)
  pinned : v.backendIp = backend.address ∧ v.backendPort = backend.port
  egress : v.egressIfindex = egressIfindex before.config (serviceKey t) backend

theorem chosen_opens {m : Maps} {skb : Frame} {hdr : Headers} {v : NodeportFwdCtValue} (parsed : parseTcpPacket skb = some hdr)
    (picked : chosen m (loadTuple skb hdr) = some v) : ∃ backend, Opens m skb (loadTuple skb hdr) v backend := by
  obtain ⟨serviceState,backend,maps,served,fresh,selected,rfl⟩ := chosen_some picked
  exact ⟨backend,⟨hdr,parsed,rfl⟩,fresh,⟨serviceState,maps,served,selected⟩,⟨rfl,rfl⟩,rfl⟩

structure Pinned (m : Maps) (inputs : List Input) (t : Tuple) (v : NodeportFwdCtValue) (earlier : List Input) (h : Helpers)
    (skb : Frame) (later : List Input) (backend : NodeportBackendValue) : Prop where
  split : inputs = earlier ++ .packet h skb :: later
  opens : Opens (earlier.foldl step m) skb t v backend
  stays : Along step (fun now => now.fwdCt.lookup (forwardKey t) = some v) (step (earlier.foldl step m) (.packet h skb)) later

theorem entry_pinned (m : Maps) (inputs : List Input) {t : Tuple} {v : NodeportFwdCtValue}
    (found : (inputs.foldl step (start m)).fwdCt.lookup (forwardKey t) = some v) :
    ∃ earlier h skb later backend, Pinned (start m) inputs t v earlier h skb later backend := by
  induction inputs using List.reverseRecOn with
  | nil => cases found
  | append_singleton past input ih =>
    rw [List.foldl_append] at found
    rcases step_fwd found with before | ⟨h,skb,hdr,rfl,parsed,here,picked⟩
    · obtain ⟨earlier,h,skb,later,backend,rfl,opens,stays⟩ := ih before
      refine ⟨earlier,h,skb,later ++ [input],backend,by simp,opens,along_append stays ?_⟩
      rw [← List.foldl_cons,← List.foldl_append]
      exact found
    · obtain ⟨backend,opens⟩ := chosen_opens parsed picked
      rw [forwardKey_injective here] at opens
      exact ⟨past,h,skb,[],backend,rfl,opens,found⟩

-- The fast path sends a packet where the slow path sent the connection when it
-- installed it, by the configuration that was in force then.
theorem cached_egress (m : Maps) (inputs : List Input) {h : Helpers} {skb : Frame} {hdr : Headers} {serviceState : NodeportValue}
    {v : NodeportFwdCtValue} (parsed : parseTcpPacket skb = some hdr)
    (missed : (inputs.foldl step (start m)).ct.lookup (responseKey (loadTuple skb hdr)) = none)
    (served : (inputs.foldl step (start m)).service.lookup (serviceKey (loadTuple skb hdr)) = some serviceState)
    (owned : (inputs.foldl step (start m)).fwdCt.lookup (forwardKey (loadTuple skb hdr)) = some v)
    (done : (rewriteTuple h skb hdr (forwardTarget v)).1 = 0) :
    ∃ earlier h₀ skb₀ later backend, Pinned (start m) inputs (loadTuple skb hdr) v earlier h₀ skb₀ later backend ∧
      (nodeportTc h skb (inputs.foldl step (start m))).2.redirect =
        sent (egressIfindex (earlier.foldl step (start m)).config (serviceKey (loadTuple skb hdr)) backend) := by
  obtain ⟨earlier,h₀,skb₀,later,backend,pinned⟩ := entry_pinned m inputs owned
  refine ⟨earlier,h₀,skb₀,later,backend,pinned,?_⟩
  rw [hit_redirect parsed missed served owned done,pinned.opens.egress]

section Examples

def flannel : DeliveryConfig := ⟨2,4,5,0⟩
def replaced : DeliveryConfig := ⟨2,4,6,0⟩

def moved : List Input :=
  [.reconcile (.updateConfig flannel),.packet (plainHelpers 0) (tcpFrame longLived),.reconcile (.updateConfig replaced)]

theorem moved_cached : ∃ earlier h₀ skb₀ later backend,
    Pinned (start FlowIsolation.oneService) moved longLived ⟨pod.address,snatIp,pod.port,htons 40000,5⟩ earlier h₀ skb₀ later backend ∧
    (nodeportTc (plainHelpers 1) (tcpFrame longLived) (moved.foldl step (start FlowIsolation.oneService))).2.redirect =
      sent (egressIfindex (earlier.foldl step (start FlowIsolation.oneService)).config frontend backend) :=
  have served : (moved.foldl step (start FlowIsolation.oneService)).service.lookup frontend = some ⟨1,0,snatIp⟩ := by decide
  cached_egress FlowIsolation.oneService moved (tcpFrame_parse longLived) (by decide) served (by decide)
    (rewrite_succeeds (plainHelpers_succeed 1) _ _ _)

theorem moved_stale : ¬ ∀ (m : Maps) (inputs : List Input) (h : Helpers) (skb : Frame) (hdr : Headers)
    (serviceState : NodeportValue) (v : NodeportFwdCtValue) (slot : UInt32) (backend : NodeportBackendValue),
    parseTcpPacket skb = some hdr → (inputs.foldl step (start m)).ct.lookup (responseKey (loadTuple skb hdr)) = none →
    (inputs.foldl step (start m)).service.lookup (serviceKey (loadTuple skb hdr)) = some serviceState →
    (inputs.foldl step (start m)).fwdCt.lookup (forwardKey (loadTuple skb hdr)) = some v →
    (inputs.foldl step (start m)).backend.lookup ⟨serviceKey (loadTuple skb hdr),slot⟩ = some backend →
    (v.backendIp,v.backendPort) = (backend.address,backend.port) → (rewriteTuple h skb hdr (forwardTarget v)).1 = 0 →
    (nodeportTc h skb (inputs.foldl step (start m))).2.redirect =
      sent (egressIfindex (inputs.foldl step (start m)).config (serviceKey (loadTuple skb hdr)) backend) := by
  intro always
  have fresh := always FlowIsolation.oneService moved (plainHelpers 1) (tcpFrame longLived) ⟨14,34⟩ ⟨1,0,snatIp⟩
    ⟨pod.address,snatIp,pod.port,htons 40000,5⟩ 0 pod (tcpFrame_parse longLived) (by decide) (by decide) (by decide)
    (by decide) rfl (rewrite_succeeds (plainHelpers_succeed 1) _ _ _)
  revert fresh
  decide

end Examples
end Aipr.EgressCache
