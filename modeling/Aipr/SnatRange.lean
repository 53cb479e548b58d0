import Aipr.FlowIsolation
import Aipr.SyncerEntry

namespace Aipr.SnatRange
open NodeportTc Syncer Transition FlowIsolation

-- Packets, single map calls of a reconcile, and single deletions of the collector,
-- in any order and with any arguments.
inductive Input where
  | packet (h : Helpers) (skb : Frame)
  | reconcile (op : MapOp)
  | deleteCt (r : NodeportCtKey)
  | deleteFwd (k : NodeportFwdCtKey)

-- A map call that the kernel refuses changes nothing.
def step (m : Maps) : Input → Maps
  | .packet h skb => outMaps h skb m
  | .reconcile op => (op.apply m).getD m
  | .deleteCt r => {m with ct := m.ct.delete r}
  | .deleteFwd k => {m with fwdCt := m.fwdCt.delete k}

def InRange (port : Be16) : Prop := 40000 ≤ ntohs port ∧ ntohs port ≤ 60999

structure Ranged (m : Maps) : Prop where
  ct : ∀ r, m.ct.lookup r ≠ none → InRange r.snatPort ∧ r.proto = ipprotoTcp
  fwdCt : ∀ k v, m.fwdCt.lookup k = some v → InRange v.snatPort ∧ k.proto = ipprotoTcp

-- handle_response has nothing to say about a packet to any other port: it leaves
-- the packet, the maps and even the counters alone.
def Undisturbed (m : Maps) : Prop :=
  ∀ (h : Helpers) (hdr : Headers) (skb : Frame) (stats : StatsIndex → Nat), ¬ InRange (loadTuple skb hdr).dport →
    handleResponse h hdr ⟨skb,{m with stats := stats},none⟩ = (-1,⟨skb,{m with stats := stats},none⟩)

theorem isSnatPort_iff (port : Be16) : isSnatPort port = true ↔ InRange port := by
  rw [isSnatPort,Bool.and_eq_true,decide_eq_true_eq,decide_eq_true_eq]
  exact Iff.rfl

theorem allocated_range (next : Option UInt32) : InRange (allocateSnatPort next).1 := by
  unfold allocateSnatPort
  cases next with
  | none =>
    rw [InRange,ntohs_htons]
    decide
  | some next =>
    dsimp only
    rw [InRange,ntohs_htons,UInt32.toNat_toUInt16]
    split
    · decide
    · rename_i inside
      rw [not_or,UInt32.not_lt,gt_iff_lt,UInt32.not_lt,UInt32.le_iff_toNat_le,UInt32.le_iff_toNat_le] at inside
      have low : nodeportSnatMin.toNat = 40000 := rfl
      have high : nodeportSnatMax.toNat = 60999 := rfl
      omega

theorem Ranged.undisturbed {m : Maps} (ranged : Ranged m) : Undisturbed m := by
  intro h hdr skb stats outside
  have missed : m.ct.lookup (responseKey (loadTuple skb hdr)) = none := by
    by_contra present
    exact outside (ranged.ct _ present).1
  simp only [handleResponse,missed]
  rw [if_neg fun snat => outside ((isSnatPort_iff _).mp snat)]

theorem ranged_update {m : Maps} {ct : CtMap} {r : NodeportCtKey} {w : NodeportCtValue} (ranged : Ranged m)
    (done : m.ct.update r w = some ct) (range : InRange r.snatPort) (proto : r.proto = ipprotoTcp) :
    ∀ r, ct.lookup r ≠ none → InRange r.snatPort ∧ r.proto = ipprotoTcp := by
  intro other present
  rw [BoundedMap.lookup_update done] at present
  split at present
  · rename_i here
    rw [here]
    exact ⟨range,proto⟩
  · exact ranged.ct other present

theorem chosen_range {m : Maps} {t : Tuple} {v : NodeportFwdCtValue} (picked : chosen m t = some v) : InRange v.snatPort := by
  obtain ⟨_,_,_,_,_,_,rfl⟩ := chosen_some picked
  exact allocated_range m.snatPort

theorem ranged_packet {m : Maps} (ranged : Ranged m) (h : Helpers) (skb : Frame) : Ranged (outMaps h skb m) := by
  cases parsed : parseTcpPacket skb with
  | none =>
    rw [outMaps,unparsed_out parsed]
    exact ranged
  | some hdr =>
    obtain ⟨target,out⟩ := nodeportTc_outcome (h := h) (m := m) parsed
    have handled := out.handled
    obtain ⟨ct,ctEq⟩ : ∃ ct, (nodeportTc h skb m).2.maps.ct = ct := ⟨_,rfl⟩
    obtain ⟨fwdCt,fwdEq⟩ : ∃ fwdCt, (nodeportTc h skb m).2.maps.fwdCt = fwdCt := ⟨_,rfl⟩
    suffices kept : Ranged {m with ct := ct, fwdCt := fwdCt} by
      rw [← ctEq,← fwdEq] at kept
      exact ⟨kept.ct,kept.fwdCt⟩
    rw [ctEq,fwdEq] at handled
    generalize (nodeportTc h skb m).2.maps.snatPort = snatPort at handled
    cases handled with
    | response found refreshed =>
      have known := ranged.ct _ (by rw [found]; exact Option.some_ne_none _)
      exact ⟨ranged_update ranged refreshed known.1 rfl,ranged.fwdCt⟩
    | passed => exact ranged
    | established _ _ owned refreshed =>
      exact ⟨ranged_update ranged refreshed (ranged.fwdCt _ _ owned).1 rfl,ranged.fwdCt⟩
    | unrefreshed => exact ranged
    | refused => exact ranged
    | rolledBack _ picked recorded _ =>
      refine ⟨fun r present => ?_,ranged.fwdCt⟩
      rw [BoundedMap.lookup_delete] at present
      split at present
      · cases present rfl
      · exact ranged_update ranged recorded (chosen_range picked) rfl r present
    | installed _ picked recorded pinned =>
      refine ⟨ranged_update ranged recorded (chosen_range picked) rfl,fun k v found => ?_⟩
      rw [BoundedMap.lookup_update pinned] at found
      split at found
      · rename_i here
        cases Option.some.inj found
        rw [here]
        exact ⟨chosen_range picked,rfl⟩
      · exact ranged.fwdCt k v found

theorem ranged_step (m : Maps) (input : Input) (ranged : Ranged m) : Ranged (step m input) := by
  cases input with
  | packet h skb => exact ranged_packet ranged h skb
  | reconcile op =>
    rw [step]
    cases done : op.apply m with
    | none => exact ranged
    | some next =>
      obtain ⟨ct,fwdCt⟩ := apply_conntrack done
      constructor
      · rw [Option.getD_some,ct]
        exact ranged.ct
      · rw [Option.getD_some,fwdCt]
        exact ranged.fwdCt
  | deleteCt r =>
    refine ⟨fun other present => ranged.ct other ?_,ranged.fwdCt⟩
    rw [step,BoundedMap.lookup_delete] at present
    split at present
    · cases present rfl
    · exact present
  | deleteFwd k =>
    refine ⟨ranged.ct,fun other v found => ?_⟩
    rw [step,BoundedMap.lookup_delete] at found
    split at found
    · cases found
    · exact ranged.fwdCt other v found

-- From empty conntrack tables and any port counter on, whatever happens.
theorem requests_undisturbed (m : Maps) (inputs : List Input) :
    Along step (fun m => Ranged m ∧ Undisturbed m) (start m) inputs := by
  have none : Ranged (start m) := ⟨fun _ present => (present rfl).elim,fun _ _ found => by cases found⟩
  exact along_mono (fun m ranged => ⟨ranged,ranged.undisturbed⟩) (along_invariant ranged_step none)

end Aipr.SnatRange
