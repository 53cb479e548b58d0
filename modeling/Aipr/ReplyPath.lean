import Aipr.FlowIsolation

namespace Aipr.ReplyPath
open NodeportTc Syncer Transition FlowIsolation

-- The collector's deletions one by one, at any moment and of any key.
inductive Input where
  | packet (h : Helpers) (skb : Frame)
  | deleteCt (r : NodeportCtKey)
  | deleteFwd (k : NodeportFwdCtKey)

def step (m : Maps) : Input → Maps
  | .packet h skb => outMaps h skb m
  | .deleteCt r => {m with ct := m.ct.delete r}
  | .deleteFwd k => {m with fwdCt := m.fwdCt.delete k}

def RewritesRequest (h : Helpers) (skb : Frame) (m : Maps) : Prop :=
  (outMaps h skb m).stats .requestRewrite = m.stats .requestRewrite + 1

-- The reverse entry names the client, and the mirrored packet is turned back
-- into the mirrored request.
structure Answerable (m : Maps) (request sent : Tuple) : Prop where
  recorded : ∃ w, m.ct.lookup (responseKey sent.mirror) = some w ∧ Records w (forwardKey request)
  restored : ∀ (h : Helpers) (skb : Frame) (hdr : Headers), h.Succeed → parseTcpPacket skb = some hdr →
    loadTuple skb hdr = sent.mirror → loadTuple (outSkb h skb m) hdr = request.mirror

def Answered (m : Maps) : Input → Prop
  | .packet h skb => ∀ hdr, parseTcpPacket skb = some hdr → RewritesRequest h skb m →
    Answerable (outMaps h skb m) (loadTuple skb hdr) (loadTuple (outSkb h skb m) hdr)
  | .deleteCt _ => True
  | .deleteFwd _ => True

-- A forward hit whose packet can be rewritten finds its reverse entry, or room for it.
def Refreshable (m : Maps) : Input → Prop
  | .packet h skb => ∀ hdr, parseTcpPacket skb = some hdr → ∀ v, m.ct.lookup (responseKey (loadTuple skb hdr)) = none →
    m.service.lookup (serviceKey (loadTuple skb hdr)) ≠ none →
    m.fwdCt.lookup (forwardKey (loadTuple skb hdr)) = some v →
    (rewriteTuple h skb hdr (forwardTarget v)).1 = 0 → m.ct.Accepts (reverseKey v)
  | .deleteCt _ => True
  | .deleteFwd _ => True

theorem answerable_of_recorded {m m' : Maps} {request : Tuple} {v : NodeportFwdCtValue} {now : UInt64}
    (recorded : m.ct.update (reverseKey v) (record request now) = some m'.ct) : Answerable m' request (forwardTarget v) := by
  have held : m'.ct.lookup (reverseKey v) = some (record request now) :=
    (BoundedMap.lookup_update recorded (reverseKey v)).trans (if_pos rfl)
  have records : Records (record request now) (forwardKey request) := ⟨rfl,rfl,rfl,rfl⟩
  refine ⟨⟨_,held,records⟩,?_⟩
  intro h skb hdr works parsed mirrored
  exact (replied_of_recorded held records h skb hdr works parsed mirrored).2

section Packet
variable {h : Helpers} {skb : Frame} {hdr : Headers} {m : Maps} {target : Option Rewrite}

theorem rewrites_iff (out : Outcome h skb hdr m target (nodeportTc h skb m).2) :
    RewritesRequest h skb m ↔ ∃ rw, target = some rw ∧ rw.counter = .requestRewrite ∧ (rewriteTuple h skb hdr rw.new).1 = 0 := by
  have counts := out.counts .requestRewrite (.inl rfl)
  change (outMaps h skb m).stats .requestRewrite = _ at counts
  rw [RewritesRequest,counts]
  cases target with
  | none => simp [counted]
  | some rw => simp [counted]

end Packet

theorem answered_iff (m : Maps) (input : Input) : Answered m input ↔ Refreshable m input := by
  cases input with
  | deleteCt => exact Iff.rfl
  | deleteFwd => exact Iff.rfl
  | packet h skb =>
    cases parsed : parseTcpPacket skb with
    | none => simp [Answered,Refreshable,parsed]
    | some hdr =>
      obtain ⟨target,out⟩ := nodeportTc_outcome (h := h) (m := m) parsed
      simp only [Answered,Refreshable,parsed,Option.some.injEq,forall_eq',rewrites_iff out]
      have handled := out.handled
      generalize ctEq : (nodeportTc h skb m).2.maps.ct = ct,(nodeportTc h skb m).2.maps.fwdCt = fwdCt,
        (nodeportTc h skb m).2.maps.snatPort = snat at handled
      cases handled with
      | response found _ =>
        refine iff_of_true ?_ fun v missed => ?_
        · rintro ⟨rw,same,counter,_⟩
          cases Option.some.inj same
          cases counter
        · rw [found] at missed
          cases missed
      | passed _ unowned _ =>
        refine iff_of_true ?_ fun v _ served owned => ?_
        · rintro ⟨rw,same,_⟩
          cases same
        · rcases unowned with unserved | unowned
          · exact absurd unserved served
          · rw [unowned] at owned
            cases owned
      | established _ _ owned refreshed =>
        refine iff_of_true ?_ fun v _ _ owned' _ => ?_
        · rintro ⟨rw,same,_,done⟩
          cases Option.some.inj same
          rw [sent_tuple parsed out done]
          refine answerable_of_recorded (refreshed.trans ?_)
          rw [outMaps,ctEq]
        · cases Option.some.inj (owned.symm.trans owned')
          rw [← BoundedMap.update_isSome,refreshed]
          rfl
      | unrefreshed missed served owned refused =>
        have absent := ((BoundedMap.update_eq_none _ _ _).mp refused).1
        have unaccepted := (not_congr (m.ct.update_isSome _ _)).mp (Option.not_isSome_iff_eq_none.mpr refused)
        constructor
        · intro answered v _ _ owned' done
          cases Option.some.inj (owned.symm.trans owned')
          obtain ⟨w,present,_⟩ := (answered ⟨_,rfl,rfl,done⟩).recorded
          rw [sent_tuple parsed out done,outMaps,ctEq] at present
          cases absent.symm.trans present
        · rintro refreshable ⟨rw,same,_,done⟩
          cases Option.some.inj same
          exact absurd (refreshable _ missed (by rw [served]; exact Option.some_ne_none _) owned done) unaccepted
      | refused _ picked _ =>
        refine iff_of_true ?_ fun v _ _ owned => ?_
        · rintro ⟨rw,same,_⟩
          cases same
        · rw [chosen_unowned picked] at owned
          cases owned
      | rolledBack _ picked _ _ =>
        refine iff_of_true ?_ fun v _ _ owned => ?_
        · rintro ⟨rw,same,_⟩
          cases same
        · rw [chosen_unowned picked] at owned
          cases owned
      | installed _ picked recorded _ =>
        refine iff_of_true ?_ fun v _ _ owned => ?_
        · rintro ⟨rw,same,_,done⟩
          cases Option.some.inj same
          rw [sent_tuple parsed out done]
          refine answerable_of_recorded (recorded.trans ?_)
          rw [outMaps,ctEq]
        · rw [chosen_unowned picked] at owned
          cases owned

-- Every translated request of a run can be answered exactly when no forward hit
-- of it meets a full table without its reverse entry.
theorem answered_iff_refreshable (m : Maps) (inputs : List Input) :
    Each step Answered (start m) inputs ↔ Each step Refreshable (start m) inputs := each_congr answered_iff

section Crowd

def early : Tuple := ⟨⟨192,168,56,100⟩,frontend.address,htons 50000,frontend.port⟩
def late : Tuple := ⟨⟨192,168,56,101⟩,frontend.address,htons 50001,frontend.port⟩
def crowd (i : Nat) : Tuple :=
  ⟨⟨172,16,UInt8.ofNat (i / 256),UInt8.ofNat (i % 256)⟩,frontend.address,htons 40000,frontend.port⟩

def sends (now : Nat) (t : Tuple) : Input := .packet (plainHelpers (UInt64.ofNat now)) (tcpFrame t)

-- Two clients fall idle; the collector, which has planned both, deletes their
-- reverse entries and one forward entry, while one of them and many new clients send.
def overlap : List Input :=
  [sends 0 early,sends 0 late,.deleteCt (reverseKey (pinnedTo 0)),.deleteCt (reverseKey (pinnedTo 1)),
   sends (idle + 2) early,.deleteFwd (forwardKey early)]

def overtaken : List Input :=
  overlap ++ ((List.range 16383).map (fun i => sends (idle + 3) (crowd i)) ++ [sends (idle + 4) late])

structure Crowded (count : Nat) (m : Maps) : Prop extends Deployed (count + 2) m where
  pinned : m.fwdCt.lookup (forwardKey late) = some (pinnedTo 1)
  sizes : m.ct.size = count + 1 ∧ m.fwdCt.size = count + 1
  ports : ∀ r, m.ct.lookup r ≠ none → ∃ n, r = reverseKey (pinnedTo n) ∧ n ≠ 1 ∧ n < count + 2
  clients : ∀ k, m.fwdCt.lookup k ≠ none → k = forwardKey late ∨ ∃ i, k = forwardKey (crowd i) ∧ i < count

theorem crowd_injective {i j : Nat} (low : i < 65536) (low' : j < 65536)
    (same : forwardKey (crowd i) = forwardKey (crowd j)) : i = j := by
  have high := congrArg (fun k => k.clientIp.b2.toNat) same
  have last := congrArg (fun k => k.clientIp.b3.toNat) same
  simp only [forwardKey,crowd,UInt8.toNat_ofNat'] at high last
  omega

theorem Crowded.absent {count n : Nat} {m : Maps} (crowded : Crowded count m) (low : count < 16384)
    (unused : n = 1 ∨ n = count + 2) : m.ct.lookup (reverseKey (pinnedTo n)) = none := by
  cases found : m.ct.lookup (reverseKey (pinnedTo n)) with
  | none => rfl
  | some w =>
    obtain ⟨k,same,apart,below⟩ := crowded.ports _ (by rw [found]; exact Option.some_ne_none w)
    have equal := pinnedTo_injective (by omega) (by omega) same
    omega

theorem Crowded.missed {count : Nat} {m : Maps} (crowded : Crowded count m) {t : Tuple} (client : t.saddr ≠ pod.address) :
    m.ct.lookup (responseKey t) = none := by
  cases found : m.ct.lookup (responseKey t) with
  | none => rfl
  | some w =>
    obtain ⟨k,same,_,_⟩ := crowded.ports _ (by rw [found]; exact Option.some_ne_none w)
    exact absurd same (request_apart client)

theorem Crowded.join {count now : Nat} {m : Maps} (crowded : Crowded count m) (low : count < 16383) :
    Crowded (count + 1) (outMaps (plainHelpers (UInt64.ofNat now)) (tcpFrame (crowd count)) m) := by
  have outside : ∀ i, (crowd i).saddr ≠ pod.address := fun i same =>
    absurd (congrArg Be32.b0 same) (show (172 : UInt8) ≠ 10 by decide)
  have unowned : m.fwdCt.lookup (forwardKey (crowd count)) = none := by
    cases found : m.fwdCt.lookup (forwardKey (crowd count)) with
    | none => rfl
    | some v =>
      rcases crowded.clients _ (by rw [found]; exact Option.some_ne_none v) with same | ⟨i,same,below⟩
      · exact absurd (congrArg (fun k => k.clientIp.b0) same) (show (172 : UInt8) ≠ 192 by decide)
      · have equal := crowd_injective (by omega) (by omega) same
        omega
  have absent := crowded.absent (by omega) (.inr rfl)
  obtain ⟨ctSize,fwdSize⟩ := crowded.sizes
  obtain ⟨recorded,pinned,deployed⟩ := crowded.joins (by omega) (plainHelpers (UInt64.ofNat now)) (t := crowd count) rfl
    (crowded.missed (outside count)) unowned (.inr (by omega)) (.inr (by omega))
  rw [Nat.mod_eq_of_lt (by omega)] at deployed
  refine ⟨deployed,?_,⟨?_,?_⟩,?_,?_⟩
  · rw [BoundedMap.lookup_update pinned,if_neg fun same => ?_]
    · exact crowded.pinned
    · exact absurd (congrArg (fun k => k.clientIp.b0) same) (show (192 : UInt8) ≠ 172 by decide)
  · rw [BoundedMap.size_update recorded,if_pos absent,ctSize]
  · rw [BoundedMap.size_update pinned]
    rw [if_pos unowned,fwdSize]
  · intro r present
    rw [BoundedMap.lookup_update recorded] at present
    split at present
    · rename_i here
      exact ⟨count + 2,here,by omega,by omega⟩
    · obtain ⟨n,same,apart,below⟩ := crowded.ports r present
      exact ⟨n,same,apart,by omega⟩
  · intro k owned
    rw [BoundedMap.lookup_update pinned] at owned
    split at owned
    · rename_i here
      exact .inr ⟨count,here,by omega⟩
    · rcases crowded.clients k owned with known | ⟨i,same,below⟩
      · exact .inl known
      · exact .inr ⟨i,same,by omega⟩

theorem crowded_all {m : Maps} (crowded : Crowded 0 m) (now count : Nat) (low : count ≤ 16383) :
    Crowded count (((List.range count).map fun i => sends now (crowd i)).foldl step m) := by
  induction count with
  | zero => exact crowded
  | succ count ih =>
    rw [List.range_succ,List.map_append,List.foldl_append]
    exact (ih (by omega)).join (by omega)

theorem crowded_start : Crowded 0 (overlap.foldl step (start oneService)) := by
  have ports : (overlap.foldl step (start oneService)).ct.keys = [reverseKey (pinnedTo 0)] := rfl
  have clients : (overlap.foldl step (start oneService)).fwdCt.keys = [forwardKey late] := rfl
  refine ⟨⟨rfl,rfl,rfl,rfl⟩,rfl,⟨rfl,rfl⟩,?_,?_⟩
  · intro r present
    rw [← BoundedMap.mem_keys,ports,List.mem_singleton] at present
    exact ⟨0,present,by omega,by omega⟩
  · intro k owned
    rw [← BoundedMap.mem_keys,clients,List.mem_singleton] at owned
    exact .inl owned

-- With the table full, the late client's packet is translated and its reply is lost.
theorem overtaken_unanswered : ¬ Each step Answered (start oneService) overtaken := by
  intro all
  have full := crowded_all crowded_start (idle + 3) 16383 (Nat.le_refl _)
  rw [overtaken,each_append,each_append] at all
  obtain ⟨_,_,last,_⟩ := all
  have refreshable := (answered_iff _ _).mp last ⟨14,34⟩ (tcpFrame_parse late) (pinnedTo 1)
    (full.missed (by decide)) (by rw [full.served rfl]; exact Option.some_ne_none _) full.pinned
    (rewrite_succeeds (plainHelpers_succeed _) _ _ _)
  have absent := full.absent (by omega) (.inl rfl)
  rcases refreshable with present | room
  · exact (BoundedMap.mem_keys _ _).mp present absent
  · rw [full.sizes.1] at room
    exact absurd room (by omega)

end Crowd
end Aipr.ReplyPath
