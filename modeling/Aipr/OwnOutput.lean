import Aipr.SnatRange

namespace Aipr.OwnOutput
open NodeportTc Syncer Transition FlowIsolation SnatRange

section Own
-- The node's own addresses: every node address and SNAT address ever installed.
variable (own : Be32 → Prop)

structure Installed (m : Maps) : Prop where
  service : ∀ key value, m.service.lookup key = some value → own key.address ∧ own value.snatIp
  backend : ∀ key backend, m.backend.lookup key = some backend → ¬ own backend.address

structure Apart (m : Maps) (input : SnatRange.Input) : Prop where
  installed : Installed own m
  client : ∀ h skb hdr, input = .packet h skb → parseTcpPacket skb = some hdr →
    m.service.lookup (serviceKey (loadTuple skb hdr)) ≠ none → ¬ own (loadTuple skb hdr).saddr

structure Tracked (m : Maps) : Prop where
  reverse : ∀ r w, m.ct.lookup r = some w → ¬ own r.backendIp ∧ own w.frontendIp ∧ ¬ own w.clientIp
  forward : ∀ k v, m.fwdCt.lookup k = some v → own v.snatIp ∧ ¬ own v.backendIp

end Own

def Rewrites (h : Helpers) (skb : Frame) (m : Maps) : Prop :=
  ∃ counter, (counter = .requestRewrite ∨ counter = .responseRewrite) ∧
    (outMaps h skb m).stats counter = m.stats counter + 1

def PassesAgain (m : Maps) : SnatRange.Input → Prop
  | .packet h skb => Rewrites h skb m → ∀ again : Helpers,
      outSkb again (outSkb h skb m) (outMaps h skb m) = outSkb h skb m ∧
      (outMaps again (outSkb h skb m) (outMaps h skb m)).ct = (outMaps h skb m).ct ∧
      (outMaps again (outSkb h skb m) (outMaps h skb m)).fwdCt = (outMaps h skb m).fwdCt
  | _ => True

section Packet
variable {own : Be32 → Prop} {h : Helpers} {skb : Frame} {hdr : Headers} {m : Maps}

theorem rewrites_target {target : Option Rewrite} (out : Outcome h skb hdr m target (nodeportTc h skb m).2)
    (rewrites : Rewrites h skb m) : ∃ rw, target = some rw ∧ (rewriteTuple h skb hdr rw.new).1 = 0 := by
  obtain ⟨counter,watched,counts⟩ := rewrites
  rw [outMaps,out.counts counter watched] at counts
  have once : counted h skb hdr counter target = 1 := by omega
  cases target with
  | none => cases once
  | some rw =>
    rw [counted] at once
    split at once
    · rename_i done
      exact ⟨rw,rfl,done.2⟩
    · cases once

-- A connection leads from a client elsewhere through own addresses to a backend elsewhere.
theorem chosen_tracked {t : Tuple} {v : NodeportFwdCtValue} (installed : Installed own m) (picked : chosen m t = some v) :
    own v.snatIp ∧ ¬ own v.backendIp ∧ m.service.lookup (serviceKey t) ≠ none := by
  obtain ⟨serviceState,backend,maps,served,_,selected,rfl⟩ := chosen_some picked
  obtain ⟨slot,_,found⟩ := selectBackend_slot selected
  exact ⟨(installed.service _ _ served).2,installed.backend _ _ found,by rw [served]; exact Option.some_ne_none _⟩

theorem record_tracked {t : Tuple} {v : NodeportFwdCtValue} {ct : CtMap} {now : UInt64} (tracked : Tracked own m)
    (served : own t.daddr) (client : ¬ own t.saddr) (backend : ¬ own v.backendIp)
    (done : m.ct.update (reverseKey v) (record t now) = some ct) :
    ∀ r w, ct.lookup r = some w → ¬ own r.backendIp ∧ own w.frontendIp ∧ ¬ own w.clientIp := by
  intro r w found
  rw [BoundedMap.lookup_update done] at found
  split at found
  · rename_i here
    cases Option.some.inj found
    rw [here]
    exact ⟨backend,served,client⟩
  · exact tracked.reverse r w found

theorem tracked_packet (tracked : Tracked own m) (apart : Apart own m (.packet h skb)) : Tracked own (outMaps h skb m) := by
  cases parsed : parseTcpPacket skb with
  | none =>
    rw [outMaps,unparsed_out parsed]
    exact tracked
  | some hdr =>
    obtain ⟨target,out⟩ := nodeportTc_outcome (h := h) (m := m) parsed
    have client := apart.client h skb hdr rfl parsed
    have handled := out.handled
    obtain ⟨ct,ctEq⟩ : ∃ ct, (nodeportTc h skb m).2.maps.ct = ct := ⟨_,rfl⟩
    obtain ⟨fwdCt,fwdEq⟩ : ∃ fwdCt, (nodeportTc h skb m).2.maps.fwdCt = fwdCt := ⟨_,rfl⟩
    suffices kept : Tracked own {m with ct := ct, fwdCt := fwdCt} by
      rw [← ctEq,← fwdEq] at kept
      exact ⟨kept.reverse,kept.forward⟩
    rw [ctEq,fwdEq] at handled
    generalize (nodeportTc h skb m).2.maps.snatPort = snatPort at handled
    have toward : m.service.lookup (serviceKey (loadTuple skb hdr)) ≠ none → own (loadTuple skb hdr).daddr := by
      intro served
      obtain ⟨value,served⟩ := Option.ne_none_iff_exists'.mp served
      exact (apart.installed.service _ _ served).1
    cases handled with
    | @response w _ found refreshed =>
      refine ⟨fun r w' present => ?_,tracked.forward⟩
      rw [BoundedMap.lookup_update refreshed] at present
      split at present
      · rename_i here
        cases Option.some.inj present
        rw [here]
        exact tracked.reverse _ w found
      · exact tracked.reverse r w' present
    | passed => exact tracked
    | established _ served owned refreshed =>
      have served : m.service.lookup (serviceKey (loadTuple skb hdr)) ≠ none := by
        rw [served]
        exact Option.some_ne_none _
      exact ⟨record_tracked tracked (toward served) (client served) (tracked.forward _ _ owned).2 refreshed,tracked.forward⟩
    | unrefreshed => exact tracked
    | refused => exact tracked
    | rolledBack _ picked recorded _ =>
      obtain ⟨_,backend,served⟩ := chosen_tracked apart.installed picked
      refine ⟨fun r w present => ?_,tracked.forward⟩
      rw [BoundedMap.lookup_delete] at present
      split at present
      · cases present
      · exact record_tracked tracked (toward served) (client served) backend recorded r w present
    | installed _ picked recorded pinned =>
      obtain ⟨snat,backend,served⟩ := chosen_tracked apart.installed picked
      refine ⟨record_tracked tracked (toward served) (client served) backend recorded,fun k v found => ?_⟩
      rw [BoundedMap.lookup_update pinned] at found
      split at found
      · cases Option.some.inj found
        exact ⟨snat,backend⟩
      · exact tracked.forward k v found

theorem outward_passes (tracked : Tracked own m) (installed : Installed own m) (parsed : parseTcpPacket skb = some hdr)
    (source : own (loadTuple skb hdr).saddr) (target : ¬ own (loadTuple skb hdr).daddr) :
    outSkb h skb m = skb ∧ (outMaps h skb m).ct = m.ct ∧ (outMaps h skb m).fwdCt = m.fwdCt := by
  have missed : m.ct.lookup (responseKey (loadTuple skb hdr)) = none := by
    cases found : m.ct.lookup (responseKey (loadTuple skb hdr)) with
    | none => rfl
    | some w => exact absurd source (tracked.reverse _ _ found).1
  have unserved : m.service.lookup (serviceKey (loadTuple skb hdr)) = none := by
    cases found : m.service.lookup (serviceKey (loadTuple skb hdr)) with
    | none => rfl
    | some value => exact absurd (installed.service _ _ found).1 target
  exact passes parsed missed (.inl unserved) (by simp [chosen,unserved])

theorem target_outward {rw : Rewrite} {ct : CtMap} {fwdCt : FwdCtMap} {snatPort : Option UInt32} {now : UInt64} {t : Tuple}
    (tracked : Tracked own m) (installed : Installed own m) (handled : Handled m t now ct fwdCt snatPort (some rw)) :
    own rw.new.saddr ∧ ¬ own rw.new.daddr := by
  cases handled with
  | response found _ => exact (tracked.reverse _ _ found).2
  | established _ _ owned _ => exact tracked.forward _ _ owned
  | unrefreshed _ _ owned _ => exact tracked.forward _ _ owned
  | installed _ picked _ _ =>
    obtain ⟨snat,backend,_⟩ := chosen_tracked installed picked
    exact ⟨snat,backend⟩

theorem passes_again {input : SnatRange.Input} (tracked : Tracked own m) (apart : Apart own m input) :
    PassesAgain m input := by
  cases input with
  | packet h skb =>
    intro rewrites again
    cases parsed : parseTcpPacket skb with
    | none =>
      obtain ⟨counter,_,counts⟩ := rewrites
      rw [outMaps,unparsed_out parsed] at counts
      exact absurd counts.symm (Nat.succ_ne_self _)
    | some hdr =>
      obtain ⟨target,out⟩ := nodeportTc_outcome (h := h) (m := m) parsed
      obtain ⟨rw,rfl,done⟩ := rewrites_target out rewrites
      have outward := target_outward tracked apart.installed out.handled
      have reparsed : parseTcpPacket (outSkb h skb m) = some hdr := by
        rw [outSkb,out.packet]
        exact parse_complete (rewrite_parsed (parse_sound parsed) h rw.new)
      have control := outMaps_control h skb m
      have installed : Installed own (outMaps h skb m) := by
        constructor
        · rw [control.service]
          exact apart.installed.service
        · rw [control.backend]
          exact apart.installed.backend
      rw [← sent_tuple parsed out done] at outward
      exact outward_passes (tracked_packet tracked apart) installed reparsed outward.1 outward.2
  | _ => trivial

end Packet

theorem tracked_step {own : Be32 → Prop} (m : Maps) (input : SnatRange.Input) (tracked : Tracked own m)
    (apart : Apart own m input) : Tracked own (SnatRange.step m input) := by
  cases input with
  | packet h skb => exact tracked_packet tracked apart
  | reconcile op =>
    rw [SnatRange.step]
    cases done : op.apply m with
    | none => exact tracked
    | some next =>
      obtain ⟨ct,fwdCt⟩ := apply_conntrack done
      constructor
      · rw [Option.getD_some,ct]
        exact tracked.reverse
      · rw [Option.getD_some,fwdCt]
        exact tracked.forward
  | deleteCt r =>
    refine ⟨fun other w found => tracked.reverse other w ?_,tracked.forward⟩
    rw [SnatRange.step,BoundedMap.lookup_delete] at found
    split at found
    · cases found
    · exact found
  | deleteFwd k =>
    refine ⟨tracked.reverse,fun other v found => tracked.forward other v ?_⟩
    rw [SnatRange.step,BoundedMap.lookup_delete] at found
    split at found
    · cases found
    · exact found

theorem tracked_start {own : Be32 → Prop} (m : Maps) : Tracked own (start m) := by
  constructor
  · intro r w found
    cases found
  · intro k v found
    cases found

-- No translated packet of a run is translated twice.
theorem no_double_translation (own : Be32 → Prop) (m : Maps) (inputs : List SnatRange.Input)
    (apart : Each SnatRange.step (Apart own) (start m) inputs) : Each SnatRange.step PassesAgain (start m) inputs := by
  have sound : ∀ m input, Tracked own m → Apart own m input → PassesAgain m input := fun _ _ => passes_again
  exact each_of_each sound tracked_step (tracked_start m) apart

section Doorway

abbrev atHome (a : Be32) : Prop := a = frontend.address

def exchange : List SnatRange.Input :=
  [.packet (plainHelpers 0) (tcpFrame longLived),.packet (plainHelpers 1) (tcpFrame (forwardTarget (pinnedTo 0)).mirror)]

theorem oneService_installed (m : Maps) (service : m.service = oneService.service)
    (backend : m.backend = oneService.backend) : Installed atHome m := by
  constructor
  · intro key value found
    rw [service,← BoundedMap.mem_entries] at found
    have listed : oneService.service.entries = [(frontend,⟨1,0,snatIp⟩)] := rfl
    rw [listed,List.mem_singleton] at found
    cases found
    exact ⟨rfl,rfl⟩
  · intro key value found
    rw [backend,← BoundedMap.mem_entries] at found
    have listed : oneService.backend.entries = [(⟨frontend,0⟩,pod)] := rfl
    rw [listed,List.mem_singleton] at found
    cases found
    exact fun same => absurd same (by decide)

theorem exchange_apart : Each SnatRange.step (Apart atHome) (start oneService) exchange := by
  have control := outMaps_control (plainHelpers 0) (tcpFrame longLived) (start oneService)
  refine ⟨⟨oneService_installed _ rfl rfl,?_⟩,⟨oneService_installed _ control.service control.backend,?_⟩,trivial⟩
  · intro h skb hdr same parsed _
    cases same
    cases (tcpFrame_parse longLived).symm.trans parsed
    exact fun home => absurd home (by decide)
  · intro h skb hdr same parsed _
    cases same
    cases (tcpFrame_parse _).symm.trans parsed
    exact fun home => absurd home (by decide)

theorem exchange_passes_again :
    (exchange.foldl SnatRange.step (start oneService)).stats .requestRewrite = 1 ∧
      (exchange.foldl SnatRange.step (start oneService)).stats .responseRewrite = 1 ∧
      Each SnatRange.step PassesAgain (start oneService) exchange :=
  ⟨by decide,by decide,no_double_translation atHome oneService exchange exchange_apart⟩

end Doorway
end Aipr.OwnOutput
