import Aipr.ReplyPath

namespace Aipr.Rollback
open NodeportTc Transition FlowIsolation ReplyPath

def Untouched (m : Maps) : FlowIsolation.Input → Prop
  | .packet h skb => ∀ hdr v, parseTcpPacket skb = some hdr → m.ct.lookup (responseKey (loadTuple skb hdr)) = none →
      chosen m (loadTuple skb hdr) = some v →
      (m.ct.update (reverseKey v) (record (loadTuple skb hdr) h.ktimeGetNs) = none ∨
        m.fwdCt.update (forwardKey (loadTuple skb hdr)) v = none) →
      (∀ r, (outMaps h skb m).ct.lookup r = m.ct.lookup r) ∧ ∀ k, (outMaps h skb m).fwdCt.lookup k = m.fwdCt.lookup k
  | _ => True

-- With the forward table full, the port that is next must be one that no
-- connection to the chosen backend holds.
def Unheld (m : Maps) : FlowIsolation.Input → Prop
  | .packet _ skb => ∀ hdr v, parseTcpPacket skb = some hdr → m.ct.lookup (responseKey (loadTuple skb hdr)) = none →
      chosen m (loadTuple skb hdr) = some v → m.fwdCt.size = 16384 → m.ct.lookup (reverseKey v) = none
  | _ => True

section Packet
variable {h : Helpers} {skb : Frame} {hdr : Headers} {m : Maps} {v : NodeportFwdCtValue}

theorem refused_full (picked : chosen m (loadTuple skb hdr) = some v) :
    m.fwdCt.update (forwardKey (loadTuple skb hdr)) v = none ↔ m.fwdCt.size = 16384 := by
  rw [BoundedMap.update_eq_none]
  exact and_iff_right (chosen_unowned picked)

-- What the rollback leaves differs from what was there by the entry that the
-- new record had overwritten.
theorem rolledBack_same {ct : CtMap} {r : NodeportCtKey} {w : NodeportCtValue} (recorded : m.ct.update r w = some ct) :
    (∀ other, (ct.delete r).lookup other = m.ct.lookup other) ↔ m.ct.lookup r = none := by
  constructor
  · intro same
    rw [← same r,BoundedMap.lookup_delete,if_pos rfl]
  · intro absent other
    rw [BoundedMap.lookup_delete,BoundedMap.lookup_update recorded]
    split
    · rename_i here
      rw [here,absent]
    · rfl

end Packet

theorem untouched_iff (m : Maps) (input : FlowIsolation.Input) : Untouched m input ↔ Unheld m input := by
  cases input with
  | packet h skb =>
    refine forall_congr' fun hdr => forall_congr' fun v => forall_congr' fun parsed => forall_congr' fun missed =>
      forall_congr' fun picked => ?_
    rw [refused_full picked]
    cases recorded : m.ct.update (reverseKey v) (record (loadTuple skb hdr) h.ktimeGetNs) with
    | none =>
      obtain ⟨ct,fwdCt,_⟩ := refuses (h := h) parsed missed picked recorded
      refine iff_of_true (fun _ => ?_) fun _ => ((BoundedMap.update_eq_none _ _ _).mp recorded).1
      rw [ct,fwdCt]
      exact ⟨fun _ => rfl,fun _ => rfl⟩
    | some ct =>
      rw [or_iff_right (by simp)]
      refine forall_congr' fun full => ?_
      obtain ⟨ctEq,fwdEq⟩ := rollsBack (h := h) parsed missed picked recorded ((refused_full picked).mpr full)
      rw [ctEq,fwdEq,rolledBack_same recorded]
      exact and_iff_left fun _ => rfl
  | _ => exact Iff.rfl

-- Every refused connection of a run leaves the tables as they were exactly when
-- none of them is handed a held port while the forward table is full.
theorem untouched_iff_unheld (m : Maps) (inputs : List FlowIsolation.Input) :
    Each FlowIsolation.step Untouched (start m) inputs ↔ Each FlowIsolation.step Unheld (start m) inputs :=
  each_congr untouched_iff

section Exhausted

def knock (t : Tuple) : FlowIsolation.Input := .packet (plainHelpers 0) (tcpFrame t)

-- Enough clients to fill both tables, then one more client that keeps trying
-- until the port counter has come round.
def exhausted : List FlowIsolation.Input :=
  (List.range 16384).map (fun i => knock (crowd i)) ++ (List.replicate 4616 (knock late) ++ [knock late])

structure Filled (count n : Nat) (m : Maps) : Prop extends Deployed n m where
  sizes : m.ct.size = count ∧ m.fwdCt.size = count
  ports : ∀ r, m.ct.lookup r ≠ none → ∃ i, r = reverseKey (pinnedTo i) ∧ i < count
  clients : ∀ k, m.fwdCt.lookup k ≠ none → ∃ i, k = forwardKey (crowd i) ∧ i < count
  held : 0 < count → m.ct.lookup (reverseKey (pinnedTo 0)) ≠ none

theorem Filled.missed {count n : Nat} {m : Maps} (filled : Filled count n m) {t : Tuple} (client : t.saddr ≠ pod.address) :
    m.ct.lookup (responseKey t) = none := by
  by_contra present
  obtain ⟨i,same,_⟩ := filled.ports _ present
  exact request_apart client same

theorem Filled.absent {count n i : Nat} {m : Maps} (filled : Filled count n m) (low : i < 21000) (later : count ≤ i) :
    m.ct.lookup (reverseKey (pinnedTo i)) = none := by
  by_contra present
  obtain ⟨j,same,below⟩ := filled.ports _ present
  have equal := pinnedTo_injective low (by omega) same
  omega

theorem Filled.join {count : Nat} {m : Maps} (filled : Filled count count m) (low : count < 16384) :
    Filled (count + 1) (count + 1) (FlowIsolation.step m (knock (crowd count))) := by
  have outside : (crowd count).saddr ≠ pod.address := fun same =>
    absurd (congrArg Be32.b0 same) (show (172 : UInt8) ≠ 10 by decide)
  have unowned : m.fwdCt.lookup (forwardKey (crowd count)) = none := by
    by_contra owned
    obtain ⟨i,same,below⟩ := filled.clients _ owned
    have equal := crowd_injective (by omega) (by omega) same
    omega
  have absent := filled.absent (i := count) (by omega) (Nat.le_refl _)
  obtain ⟨ctSize,fwdSize⟩ := filled.sizes
  obtain ⟨recorded,pinned,deployed⟩ := filled.joins (by omega) (plainHelpers 0) (t := crowd count) rfl
    (filled.missed outside) unowned (.inr (by omega)) (.inr (by omega))
  rw [Nat.mod_eq_of_lt (by omega)] at deployed
  change Filled _ _ (outMaps (plainHelpers 0) (tcpFrame (crowd count)) m)
  refine ⟨deployed,⟨?_,?_⟩,?_,?_,?_⟩
  · exact (BoundedMap.size_update recorded).trans (by rw [if_pos absent,ctSize])
  · exact (BoundedMap.size_update pinned).trans (by rw [if_pos unowned,fwdSize])
  · intro r present
    rw [BoundedMap.lookup_update recorded] at present
    split at present
    · rename_i here
      exact ⟨count,here,by omega⟩
    · obtain ⟨i,same,below⟩ := filled.ports r present
      exact ⟨i,same,by omega⟩
  · intro k owned
    rw [BoundedMap.lookup_update pinned] at owned
    split at owned
    · rename_i here
      exact ⟨count,here,by omega⟩
    · obtain ⟨i,same,below⟩ := filled.clients k owned
      exact ⟨i,same,by omega⟩
  · intro _
    rw [BoundedMap.lookup_update recorded]
    split
    · exact Option.some_ne_none _
    · rename_i apart
      refine filled.held (Nat.pos_of_ne_zero ?_)
      rintro rfl
      exact apart rfl

theorem filled_first : Filled 1 1 (FlowIsolation.step (start oneService) (knock (crowd 0))) := by
  have ports : (FlowIsolation.step (start oneService) (knock (crowd 0))).ct.keys = [reverseKey (pinnedTo 0)] := rfl
  have clients : (FlowIsolation.step (start oneService) (knock (crowd 0))).fwdCt.keys = [forwardKey (crowd 0)] := rfl
  refine ⟨⟨rfl,rfl,rfl,rfl⟩,⟨rfl,rfl⟩,?_,?_,?_⟩
  · intro r present
    rw [← BoundedMap.mem_keys,ports,List.mem_singleton] at present
    exact ⟨0,present,Nat.one_pos⟩
  · intro k owned
    rw [← BoundedMap.mem_keys,clients,List.mem_singleton] at owned
    exact ⟨0,owned,Nat.one_pos⟩
  · intro _
    rw [← BoundedMap.mem_keys,ports]
    exact List.mem_singleton_self _

theorem filled_all (count : Nat) (low : count < 16384) : Filled (count + 1) (count + 1)
    (((List.range (count + 1)).map fun i => knock (crowd i)).foldl FlowIsolation.step (start oneService)) := by
  induction count with
  | zero => exact filled_first
  | succ count ih =>
    rw [List.range_succ,List.map_append,List.foldl_append]
    exact (ih (by omega)).join (by omega)

theorem Filled.unowned {count n : Nat} {m : Maps} (filled : Filled count n m) : m.fwdCt.lookup (forwardKey late) = none := by
  by_contra owned
  obtain ⟨i,same,_⟩ := filled.clients _ owned
  exact absurd (congrArg (fun k => k.clientIp.b0) same) (show (192 : UInt8) ≠ 172 by decide)

theorem Filled.knocks {n : Nat} {m : Maps} (filled : Filled 16384 n m) (free : 16384 ≤ n) (low : n < 21000) :
    Filled 16384 ((n + 1) % 21000) (FlowIsolation.step m (knock late)) := by
  have full : m.ct.update (reverseKey (pinnedTo n)) (record late (plainHelpers 0).ktimeGetNs) = none :=
    (BoundedMap.update_eq_none _ _ _).mpr ⟨filled.absent low free,filled.sizes.1⟩
  obtain ⟨ct,fwdCt,deployed⟩ := filled.refused low (plainHelpers 0) (t := late) rfl (filled.missed (by decide))
    filled.unowned full
  change Filled _ _ (outMaps (plainHelpers 0) (tcpFrame late) m)
  refine ⟨deployed,?_,?_,?_,?_⟩
  · rw [ct,fwdCt]
    exact filled.sizes
  · rw [ct]
    exact filled.ports
  · rw [fwdCt]
    exact filled.clients
  · rw [ct]
    exact filled.held

theorem Filled.rounds {m : Maps} (filled : Filled 16384 16384 m) (count : Nat) (low : count ≤ 4616) :
    Filled 16384 ((16384 + count) % 21000) ((List.replicate count (knock late)).foldl FlowIsolation.step m) := by
  induction count with
  | zero => exact filled
  | succ count ih =>
    rw [List.replicate_succ',List.foldl_append]
    have before := ih (by omega)
    rw [Nat.mod_eq_of_lt (by omega)] at before
    exact before.knocks (by omega) (by omega)

theorem Filled.disturbs {m : Maps} (filled : Filled 16384 0 m) : ¬ Untouched m (knock late) := by
  intro untouched
  have unheld := (untouched_iff _ _).mp untouched ⟨14,34⟩ (pinnedTo 0) (tcpFrame_parse late) (filled.missed (by decide))
    (filled.chosen (by decide) rfl filled.unowned) filled.sizes.2
  exact filled.held (by decide) unheld

theorem disturbs_last {m : Maps} {earlier : List FlowIsolation.Input}
    (filled : Filled 16384 0 (earlier.foldl FlowIsolation.step m)) :
    ¬ Each FlowIsolation.step Untouched m (earlier ++ [knock late]) := by
  intro all
  exact filled.disturbs (each_append.mp all).2.1

theorem exhausted_disturbs : ¬ Each FlowIsolation.step Untouched (start oneService) exhausted := by
  have before := (filled_all 16383 (by decide)).rounds 4616 (Nat.le_refl _)
  rw [← List.foldl_append] at before
  rw [exhausted,← List.append_assoc]
  exact disturbs_last before

end Exhausted
end Aipr.Rollback
