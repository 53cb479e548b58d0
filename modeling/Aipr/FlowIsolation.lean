import Mathlib.Algebra.Group.Nat.Defs
import Aipr.NodeportOutcome
import Aipr.ConntrackGC
import Aipr.Transition

namespace Aipr.FlowIsolation
open NodeportTc Syncer Transition

-- Packets, each processed as a whole, complete collections, and a control plane
-- that may do anything to its own maps.
inductive Input where
  | packet (h : Helpers) (skb : Frame)
  | collect (now : UInt64) (timeout : Int64)
  | configure (service : ServiceMap) (backend : BackendMap) (rrState : RrStateMap) (config : Option NodeportConfig)

def step (m : Maps) : Input → Maps
  | .packet h skb => outMaps h skb m
  | .collect now timeout => (reapConntrack now timeout m).2
  | .configure service backend rrState config =>
    {m with service := service, backend := backend, rrState := rrState, config := config}

def start (m : Maps) : Maps := {m with ct := .empty, fwdCt := .empty}

def Records (w : NodeportCtValue) (k : NodeportFwdCtKey) : Prop :=
  w.clientIp = k.clientIp ∧ w.frontendIp = k.frontendIp ∧ w.clientPort = k.clientPort ∧ w.frontendPort = k.frontendPort

-- A reply of the backend: the mirror image of the request as it was translated.
def RepliesReach (m : Maps) (k : NodeportFwdCtKey) (v : NodeportFwdCtValue) : Prop :=
  ∀ (h : Helpers) (skb : Frame) (hdr : Headers), h.Succeed → parseTcpPacket skb = some hdr →
    loadTuple skb hdr = (forwardTarget v).mirror →
    parseTcpPacket (outSkb h skb m) = some hdr ∧
      loadTuple (outSkb h skb m) hdr = ⟨k.frontendIp,k.clientIp,k.frontendPort,k.clientPort⟩

structure Isolated (m : Maps) : Prop where
  recorded : ∀ k v, m.fwdCt.lookup k = some v → ∃ w, m.ct.lookup (reverseKey v) = some w ∧ Records w k
  unshared : ∀ k v other v', m.fwdCt.lookup k = some v → m.fwdCt.lookup other = some v' →
    reverseKey v = reverseKey v' → k = other
  replied : ∀ k v, m.fwdCt.lookup k = some v → RepliesReach m k v

structure Paired (ct : CtMap) (fwdCt : FwdCtMap) : Prop where
  recorded : ∀ k v, fwdCt.lookup k = some v →
    ∃ w, ct.lookup (reverseKey v) = some w ∧ forwardKeyFromCT (reverseKey v) w = k
  owned : ∀ r w, ct.lookup r = some w → ∃ v, fwdCt.lookup (forwardKeyFromCT r w) = some v ∧ reverseKey v = r

-- A connection that the packet would open gets a reverse tuple nobody holds.
def Unclaimed (m : Maps) : Input → Prop
  | .packet _ skb => ∀ hdr v, parseTcpPacket skb = some hdr → m.ct.lookup (responseKey (loadTuple skb hdr)) = none →
    chosen m (loadTuple skb hdr) = some v → m.ct.lookup (reverseKey v) = none
  | .collect _ _ => True
  | .configure _ _ _ _ => True

theorem paired_start (m : Maps) : Paired (start m).ct (start m).fwdCt :=
  ⟨fun _ v found => absurd found.symm (Option.some_ne_none v),fun _ w found => absurd found.symm (Option.some_ne_none w)⟩

theorem replied_of_recorded {m : Maps} {k : NodeportFwdCtKey} {v : NodeportFwdCtValue} {w : NodeportCtValue}
    (found : m.ct.lookup (reverseKey v) = some w) (records : Records w k) : RepliesReach m k v := by
  intro h skb hdr works parsed mirrored
  have key : responseKey (loadTuple skb hdr) = reverseKey v := by rw [mirrored]; rfl
  have valid := parse_sound parsed
  have packet := replies (h := h) parsed (key ▸ found)
  obtain ⟨clientIp,frontendIp,clientPort,frontendPort⟩ := records
  rw [packet]
  refine ⟨parse_complete (rewrite_parsed valid h _),?_⟩
  rw [rewrite_loaded valid (rewrite_succeeds works _ _ _),replyTarget,clientIp,frontendIp,clientPort,frontendPort]

theorem paired_isolated {m : Maps} (valid : Paired m.ct m.fwdCt) : Isolated m := by
  have records : ∀ k v, m.fwdCt.lookup k = some v → ∃ w, m.ct.lookup (reverseKey v) = some w ∧ Records w k := by
    intro k v found
    obtain ⟨w,present,rfl⟩ := valid.recorded k v found
    exact ⟨w,present,rfl,rfl,rfl,rfl⟩
  refine ⟨records,?_,?_⟩
  · intro k v other v' first second shared
    obtain ⟨w,present,rfl⟩ := valid.recorded k v first
    obtain ⟨w',present',rfl⟩ := valid.recorded other v' second
    rw [← shared,present] at present'
    cases Option.some.inj present'
    rw [shared]
  · intro k v found
    obtain ⟨w,present,same⟩ := records k v found
    exact replied_of_recorded present same

theorem paired_congr {ct next : CtMap} {fwdCt : FwdCtMap} (valid : Paired ct fwdCt)
    (same : ∀ r, next.lookup r = ct.lookup r) : Paired next fwdCt := by
  refine ⟨fun k v pinned => ?_,fun r w present => ?_⟩
  · rw [same]
    exact valid.recorded k v pinned
  · rw [same] at present
    exact valid.owned r w present

theorem paired_refresh {ct next : CtMap} {fwdCt : FwdCtMap} {r : NodeportCtKey} {w w' : NodeportCtValue}
    (valid : Paired ct fwdCt) (found : ct.lookup r = some w) (done : ct.update r w' = some next)
    (same : forwardKeyFromCT r w' = forwardKeyFromCT r w) : Paired next fwdCt := by
  constructor
  · intro k v pinned
    obtain ⟨old,present,rfl⟩ := valid.recorded k v pinned
    rw [BoundedMap.lookup_update done]
    split
    · rename_i here
      rw [here] at present ⊢
      cases Option.some.inj (found.symm.trans present)
      exact ⟨w',rfl,same⟩
    · exact ⟨old,present,rfl⟩
  · intro other x present
    rw [BoundedMap.lookup_update done] at present
    split at present
    · rename_i here
      cases Option.some.inj present
      rw [here,same]
      exact valid.owned r w found
    · exact valid.owned other x present

theorem paired_install {ct nextCt : CtMap} {fwdCt nextFwd : FwdCtMap} {t : Tuple} {v : NodeportFwdCtValue}
    {now : UInt64} (valid : Paired ct fwdCt) (unclaimed : ct.lookup (reverseKey v) = none)
    (unowned : fwdCt.lookup (forwardKey t) = none) (recorded : ct.update (reverseKey v) (record t now) = some nextCt)
    (pinned : fwdCt.update (forwardKey t) v = some nextFwd) : Paired nextCt nextFwd := by
  constructor
  · intro k x found
    rw [BoundedMap.lookup_update pinned] at found
    rw [BoundedMap.lookup_update recorded]
    split at found
    · rename_i here
      cases Option.some.inj found
      exact ⟨record t now,if_pos rfl,here.symm⟩
    · obtain ⟨w,present,same⟩ := valid.recorded k x found
      have apart : ¬ reverseKey x = reverseKey v := by
        intro shared
        rw [shared,unclaimed] at present
        cases present
      exact ⟨w,by rw [if_neg apart]; exact present,same⟩
  · intro r w present
    rw [BoundedMap.lookup_update recorded] at present
    split at present
    · rename_i here
      cases Option.some.inj present
      exact ⟨v,by rw [BoundedMap.lookup_update pinned,here]; exact if_pos rfl,here.symm⟩
    · obtain ⟨x,found,same⟩ := valid.owned r w present
      have apart : ¬ forwardKeyFromCT r w = forwardKey t := by
        intro shared
        rw [shared,unowned] at found
        cases found
      exact ⟨x,by rw [BoundedMap.lookup_update pinned,if_neg apart]; exact found,same⟩

theorem paired_packet {m : Maps} {t : Tuple} {now : UInt64} {ct : CtMap} {fwdCt : FwdCtMap} {snat : Option UInt32}
    {target : Option Rewrite} (valid : Paired m.ct m.fwdCt)
    (unclaimed : ∀ v, m.ct.lookup (responseKey t) = none → chosen m t = some v → m.ct.lookup (reverseKey v) = none)
    (handled : Handled m t now ct fwdCt snat target) : Paired ct fwdCt := by
  cases handled with
  | response found refreshed => exact paired_refresh valid found refreshed rfl
  | passed => exact valid
  | established _ _ owned refreshed =>
    obtain ⟨w,present,same⟩ := valid.recorded _ _ owned
    exact paired_refresh valid present refreshed same.symm
  | unrefreshed => exact valid
  | refused => exact valid
  | rolledBack missed picked recorded _ =>
    have free := unclaimed _ missed picked
    refine paired_congr valid fun r => ?_
    rw [BoundedMap.lookup_delete,BoundedMap.lookup_update recorded]
    split
    · rename_i here
      rw [here,free]
    · rfl
  | installed missed picked recorded pinned =>
    exact paired_install valid (unclaimed _ missed picked) (chosen_unowned picked) recorded pinned

theorem paired_collect {m : Maps} (valid : Paired m.ct m.fwdCt) (now : UInt64) (timeout : Int64) :
    Paired (reapConntrack now timeout m).2.ct (reapConntrack now timeout m).2.fwdCt := by
  by_cases disabled : timeout ≤ 0
  · simpa only [reapConntrack,if_pos disabled] using valid
  constructor
  · intro k v found
    obtain ⟨pinned,⟨r,w,present,live,same⟩,_⟩ := (reap_fwdCt disabled m k v).mp found
    obtain ⟨v',pinned',rfl⟩ := valid.owned r w present
    rw [same,pinned] at pinned'
    cases Option.some.inj pinned'
    refine ⟨w,?_,same⟩
    rw [reap_ct disabled,present]
    simp [Option.filter,live]
  · intro r w present
    rw [reap_ct disabled,Option.filter_eq_some_iff] at present
    obtain ⟨present,live⟩ := present
    obtain ⟨v,pinned,here⟩ := valid.owned r w present
    refine ⟨v,(reap_fwdCt disabled m _ v).mpr ⟨pinned,⟨r,w,present,by simpa using live,rfl⟩,?_⟩,here⟩
    rintro ⟨other,x,present',expired,same⟩
    obtain ⟨v',pinned',rfl⟩ := valid.owned other x present'
    rw [same,pinned] at pinned'
    cases Option.some.inj pinned'
    rw [here,present] at present'
    cases Option.some.inj present'
    simp [expired] at live

theorem paired_step (m : Maps) (input : Input) (valid : Paired m.ct m.fwdCt) (unclaimed : Unclaimed m input) :
    Paired (step m input).ct (step m input).fwdCt := by
  cases input with
  | packet h skb =>
    cases parsed : parseTcpPacket skb with
    | none => simpa only [step,outMaps,unparsed_out parsed] using valid
    | some hdr =>
      obtain ⟨target,out⟩ := nodeportTc_outcome (h := h) (m := m) parsed
      exact paired_packet valid (fun v => unclaimed hdr v parsed) out.handled
  | collect now timeout => exact paired_collect valid now timeout
  | configure => exact valid

-- Handing a used tuple to a second client ends the isolation on the spot:
-- either both own it now, or the rollback has taken the first one's entry away.
theorem claimed_broken (m : Maps) (input : Input) (valid : Paired m.ct m.fwdCt) (claimed : ¬ Unclaimed m input) :
    ¬ Isolated (step m input) := by
  cases input with
  | collect => exact absurd trivial claimed
  | configure => exact absurd trivial claimed
  | packet h skb =>
    simp only [Unclaimed,not_forall] at claimed
    obtain ⟨hdr,v,parsed,missed,picked,held⟩ := claimed
    obtain ⟨w,present⟩ := Option.ne_none_iff_exists'.mp held
    obtain ⟨owner,pinned,same⟩ := valid.owned _ _ present
    have unowned := chosen_unowned picked
    have apart : ¬ forwardKeyFromCT (reverseKey v) w = forwardKey (loadTuple skb hdr) := by
      intro shared
      rw [shared,unowned] at pinned
      cases pinned
    obtain ⟨target,out⟩ := nodeportTc_outcome (h := h) (m := m) parsed
    intro isolated
    obtain ⟨_,⟨refused,_,_⟩ | ⟨ct,_,⟨_,deleted,kept⟩ | ⟨done,_,_⟩⟩⟩ := out.handled.of_picked missed picked
    · exact held ((BoundedMap.update_eq_none _ _ _).mp refused).1
    · -- the first connection has lost its entry with the rollback
      have stillPinned : (outMaps h skb m).fwdCt.lookup (forwardKeyFromCT (reverseKey v) w) = some owner :=
        (congrArg (fun fwdCt : FwdCtMap => fwdCt.lookup _) kept).trans pinned
      obtain ⟨x,left,_⟩ := isolated.recorded _ _ stillPinned
      have gone : (outMaps h skb m).ct.lookup (reverseKey owner) = none := by
        refine (congrArg (fun ct : CtMap => ct.lookup _) deleted).trans ?_
        rw [same,BoundedMap.lookup_delete,if_pos rfl]
      cases gone.symm.trans left
    · refine apart (isolated.unshared _ owner _ v ?_ ?_ same)
      · refine (BoundedMap.lookup_update done _).trans ?_
        rw [if_neg apart]
        exact pinned
      · exact (BoundedMap.lookup_update done _).trans (if_pos rfl)

-- The tables isolate the flows along a run exactly when no packet of it is
-- given a reverse tuple that another connection still holds.
theorem isolated_iff_unclaimed (m : Maps) (inputs : List Input) :
    Along step Isolated (start m) inputs ↔ Each step Unclaimed (start m) inputs :=
  @along_iff_each _ _ step (fun m => Paired m.ct m.fwdCt) _ _ (fun _ => paired_isolated) paired_step claimed_broken
    _ _ (paired_start m)

section WrapAround

-- The counter comes back to where it was after 21000 ports.
theorem allocate_wraps {n : Nat} (low : n < 21000) :
    allocateSnatPort (some (UInt32.ofNat (40000 + n))) =
      (htons (UInt16.ofNat (40000 + n)),UInt32.ofNat (40000 + (n + 1) % 21000)) := by
  have value : (UInt32.ofNat (40000 + n)).toNat = 40000 + n := by
    rw [UInt32.toNat_ofNat']
    omega
  have least : nodeportSnatMin.toNat = 40000 := rfl
  have most : nodeportSnatMax.toNat = 60999 := rfl
  have inside : ¬ (UInt32.ofNat (40000 + n) < nodeportSnatMin ∨ UInt32.ofNat (40000 + n) > nodeportSnatMax) := by
    simp only [gt_iff_lt,UInt32.lt_iff_toNat_lt,value,least,most]
    omega
  have port : (UInt32.ofNat (40000 + n)).toUInt16 = UInt16.ofNat (40000 + n) := by
    apply UInt16.toNat_inj.mp
    simp
  have next : (UInt32.ofNat (40000 + n) + 1).toNat = 40001 + n := by
    rw [UInt32.toNat_add,value,UInt32.toNat_one]
    omega
  simp only [allocateSnatPort,if_neg inside,port,Prod.mk.injEq,true_and]
  simp only [gt_iff_lt,UInt32.lt_iff_toNat_lt,next,most]
  apply UInt32.toNat_inj.mp
  rw [UInt32.toNat_ofNat']
  split
  · rw [least]
    omega
  · rw [next]
    omega

def frontend : NodeportKey := ⟨⟨192,168,56,10⟩,htons 30080,6,0⟩
def pod : NodeportBackendValue := ⟨⟨10,244,1,5⟩,htons 8080,(0,0),⟨192,168,56,11⟩⟩
def snatIp : Be32 := ⟨192,168,56,10⟩

def oneService : Maps :=
  {Maps.empty with service := (BoundedMap.empty.update frontend ⟨1,0,snatIp⟩).getD .empty,
                   backend := (BoundedMap.empty.update ⟨frontend,0⟩ pod).getD .empty}

def longLived : Tuple := ⟨⟨192,168,56,100⟩,frontend.address,htons 50000,frontend.port⟩
def passing : Tuple := ⟨⟨192,168,56,101⟩,frontend.address,htons 50001,frontend.port⟩

def pinnedTo (n : Nat) : NodeportFwdCtValue := ⟨pod.address,snatIp,pod.port,htons (UInt16.ofNat (40000 + n)),0⟩

-- Ten minutes, the collector's default.
def idle : Nat := 600000000000

-- In each cycle the second client opens one connection, the first one sends a packet, and
-- the collector drops the second client's connection when it is due.
def cycle (i : Nat) : List Input :=
  let now := (i + 1) * (idle + 2)
  [.packet (plainHelpers (UInt64.ofNat now)) (tcpFrame passing),
   .packet (plainHelpers (UInt64.ofNat (now + idle))) (tcpFrame longLived),
   .collect (UInt64.ofNat (now + idle + 1)) (Int64.ofNat idle)]

def wrapAround : List Input :=
  .packet (plainHelpers 0) (tcpFrame longLived) :: ((List.range 20999).flatMap cycle ++
    [.packet (plainHelpers (UInt64.ofNat (21000 * (idle + 2)))) (tcpFrame passing)])

structure Deployed (n : Nat) (m : Maps) : Prop where
  service : m.service = oneService.service
  backend : m.backend = oneService.backend
  config : m.config = none
  next : m.snatPort = some (UInt32.ofNat (40000 + n))

theorem Deployed.served {n : Nat} {m : Maps} (deployed : Deployed n m) {t : Tuple} (toward : serviceKey t = frontend) :
    m.service.lookup (serviceKey t) = some ⟨1,0,snatIp⟩ := by
  rw [deployed.service,toward]
  rfl

theorem Deployed.chosen {n : Nat} {m : Maps} (deployed : Deployed n m) (low : n < 21000) {t : Tuple}
    (toward : serviceKey t = frontend) (unowned : m.fwdCt.lookup (forwardKey t) = none) :
    chosen m t = some (pinnedTo n) := by
  have slot : m.backend.lookup ⟨serviceKey t,0⟩ = some pod := by
    rw [deployed.backend,toward]
    rfl
  rw [chosen_single (deployed.served toward) unowned slot,deployed.next,allocate_wraps low,deployed.config]
  rfl

theorem Deployed.packet {n n' : Nat} {m : Maps} (deployed : Deployed n m) (h : Helpers) (skb : Frame)
    (next : (outMaps h skb m).snatPort = some (UInt32.ofNat (40000 + n'))) : Deployed n' (outMaps h skb m) := by
  have control := outMaps_control h skb m
  exact ⟨control.service.trans deployed.service,control.backend.trans deployed.backend,
    control.config.trans deployed.config,next⟩

theorem Deployed.joins {n : Nat} {m : Maps} (deployed : Deployed n m) (low : n < 21000) (h : Helpers) {t : Tuple}
    (toward : serviceKey t = frontend) (missed : m.ct.lookup (responseKey t) = none)
    (unowned : m.fwdCt.lookup (forwardKey t) = none) (recorded : m.ct.Accepts (reverseKey (pinnedTo n)))
    (pinned : m.fwdCt.Accepts (forwardKey t)) :
    m.ct.update (reverseKey (pinnedTo n)) (record t h.ktimeGetNs) = some (outMaps h (tcpFrame t) m).ct ∧
      m.fwdCt.update (forwardKey t) (pinnedTo n) = some (outMaps h (tcpFrame t) m).fwdCt ∧
      Deployed ((n + 1) % 21000) (outMaps h (tcpFrame t) m) := by
  have picked := deployed.chosen low toward unowned
  rw [← tcpFrame_tuple t] at missed picked pinned
  obtain ⟨recorded,pinned,next,_⟩ := installs (h := h) (tcpFrame_parse t) missed picked recorded pinned
  rw [tcpFrame_tuple] at recorded pinned
  exact ⟨recorded,pinned,deployed.packet h (tcpFrame t) (by rw [next,deployed.next,allocate_wraps low])⟩

theorem Deployed.refused {n : Nat} {m : Maps} (deployed : Deployed n m) (low : n < 21000) (h : Helpers) {t : Tuple}
    (toward : serviceKey t = frontend) (missed : m.ct.lookup (responseKey t) = none)
    (unowned : m.fwdCt.lookup (forwardKey t) = none)
    (refused : m.ct.update (reverseKey (pinnedTo n)) (record t h.ktimeGetNs) = none) :
    (outMaps h (tcpFrame t) m).ct = m.ct ∧ (outMaps h (tcpFrame t) m).fwdCt = m.fwdCt ∧
      Deployed ((n + 1) % 21000) (outMaps h (tcpFrame t) m) := by
  have picked := deployed.chosen low toward unowned
  rw [← tcpFrame_tuple t] at missed picked refused
  obtain ⟨ct,fwdCt,next⟩ := refuses (h := h) (tcpFrame_parse t) missed picked refused
  exact ⟨ct,fwdCt,deployed.packet h (tcpFrame t) (by rw [next,deployed.next,allocate_wraps low])⟩

theorem pinnedTo_injective {n k : Nat} (low : n < 21000) (low' : k < 21000)
    (same : reverseKey (pinnedTo n) = reverseKey (pinnedTo k)) : n = k := by
  have ports := UInt16.toNat_inj.mpr (htons_injective (congrArg NodeportCtKey.snatPort same))
  rw [UInt16.toNat_ofNat',UInt16.toNat_ofNat'] at ports
  omega

theorem pinnedTo_apart {n : Nat} (low : n < 21000) (positive : 0 < n) :
    reverseKey (pinnedTo n) ≠ reverseKey (pinnedTo 0) := by
  intro same
  have equal := pinnedTo_injective low (by decide) same
  omega

-- No client's address is a backend's, so requests never look like replies.
theorem request_apart {t : Tuple} {n : Nat} (client : t.saddr ≠ pod.address) : responseKey t ≠ reverseKey (pinnedTo n) :=
  fun same => client (congrArg NodeportCtKey.backendIp same)

structure Alone (n : Nat) (m : Maps) : Prop extends Deployed n m where
  paired : Paired m.ct m.fwdCt
  pinned : m.fwdCt.lookup (forwardKey longLived) = some (pinnedTo 0)
  sole : ∀ k, m.fwdCt.lookup k ≠ none → k = forwardKey longLived

theorem Alone.reverse {n : Nat} {m : Maps} (alone : Alone n m) (r : NodeportCtKey) (present : m.ct.lookup r ≠ none) :
    r = reverseKey (pinnedTo 0) := by
  obtain ⟨w,found⟩ := Option.ne_none_iff_exists'.mp present
  obtain ⟨v,pinned,rfl⟩ := alone.paired.owned r w found
  have key := alone.sole _ (by rw [pinned]; exact Option.some_ne_none v)
  rw [key,alone.pinned] at pinned
  cases Option.some.inj pinned
  rfl

theorem Alone.unclaimed {n : Nat} {m : Maps} (alone : Alone n m) {r : NodeportCtKey}
    (apart : r ≠ reverseKey (pinnedTo 0)) : m.ct.lookup r = none := by
  cases found : m.ct.lookup r with
  | none => rfl
  | some w => exact absurd (alone.reverse r (by rw [found]; exact Option.some_ne_none w)) apart

theorem Alone.unowned {n : Nat} {m : Maps} (alone : Alone n m) : m.fwdCt.lookup (forwardKey passing) = none := by
  cases found : m.fwdCt.lookup (forwardKey passing) with
  | none => rfl
  | some v => exact absurd (alone.sole _ (by rw [found]; exact Option.some_ne_none v)) (by decide)

structure Opened (n now : Nat) (m : Maps) : Prop extends Deployed ((n + 1) % 21000) m where
  paired : Paired m.ct m.fwdCt
  first : m.fwdCt.lookup (forwardKey longLived) = some (pinnedTo 0)
  second : m.fwdCt.lookup (forwardKey passing) = some (pinnedTo n)
  both : ∀ k, m.fwdCt.lookup k ≠ none → k = forwardKey longLived ∨ k = forwardKey passing
  unanswered : m.ct.lookup (responseKey longLived) = none
  due : m.ct.lookup (reverseKey (pinnedTo n)) = some (record passing (UInt64.ofNat now))

theorem Alone.opens {n now : Nat} {m : Maps} (alone : Alone n m) (low : n < 21000) (positive : 0 < n) :
    Opened n now (outMaps (plainHelpers (UInt64.ofNat now)) (tcpFrame passing) m) := by
  have picked := alone.chosen low (t := passing) rfl alone.unowned
  have apart := pinnedTo_apart low positive
  have free := alone.unclaimed apart
  have ctRoom : m.ct.Accepts (reverseKey (pinnedTo n)) := by
    have bound : m.ct.size ≤ [reverseKey (pinnedTo 0)].length := BoundedMap.size_le_of_keys fun r present =>
      List.mem_singleton.mpr (alone.reverse r present)
    exact .inr (Nat.lt_of_le_of_lt bound (by decide))
  have fwdRoom : m.fwdCt.Accepts (forwardKey passing) := by
    have bound : m.fwdCt.size ≤ [forwardKey longLived].length := BoundedMap.size_le_of_keys fun k present =>
      List.mem_singleton.mpr (alone.sole k present)
    exact .inr (Nat.lt_of_le_of_lt bound (by decide))
  obtain ⟨recorded,pinned,opened⟩ := alone.joins low (plainHelpers (UInt64.ofNat now)) (t := passing) rfl
    (alone.unclaimed (request_apart (by decide))) alone.unowned ctRoom fwdRoom
  have paired := paired_step m (.packet (plainHelpers (UInt64.ofNat now)) (tcpFrame passing)) alone.paired
    fun hdr v parsed _ picked' => by
      rw [tcpFrame_parse] at parsed
      cases Option.some.inj parsed
      rw [tcpFrame_tuple,picked] at picked'
      cases Option.some.inj picked'
      exact free
  refine ⟨opened,paired,?_,?_,?_,?_,?_⟩
  · rw [BoundedMap.lookup_update pinned,if_neg (by decide)]
    exact alone.pinned
  · rw [BoundedMap.lookup_update pinned]
    exact if_pos rfl
  · intro k owned
    rw [BoundedMap.lookup_update pinned] at owned
    split at owned
    · rename_i here
      exact .inr here
    · exact .inl (alone.sole k owned)
  · rw [BoundedMap.lookup_update recorded,if_neg (request_apart (by decide))]
    exact alone.unclaimed (request_apart (by decide))
  · rw [BoundedMap.lookup_update recorded]
    exact if_pos rfl

structure Shared (n now : Nat) (m : Maps) : Prop extends Deployed ((n + 1) % 21000) m where
  paired : Paired m.ct m.fwdCt
  first : m.fwdCt.lookup (forwardKey longLived) = some (pinnedTo 0)
  second : m.fwdCt.lookup (forwardKey passing) = some (pinnedTo n)
  both : ∀ k, m.fwdCt.lookup k ≠ none → k = forwardKey longLived ∨ k = forwardKey passing
  fresh : m.ct.lookup (reverseKey (pinnedTo 0)) = some (record longLived (UInt64.ofNat (now + idle)))
  due : m.ct.lookup (reverseKey (pinnedTo n)) = some (record passing (UInt64.ofNat now))

theorem Opened.refreshed {n now : Nat} {m : Maps} (opened : Opened n now m) (low : n < 21000) (positive : 0 < n) :
    Shared n now (outMaps (plainHelpers (UInt64.ofNat (now + idle))) (tcpFrame longLived) m) := by
  have apart := pinnedTo_apart low positive
  obtain ⟨refreshed,kept,idleNext,_⟩ := refreshes (h := plainHelpers (UInt64.ofNat (now + idle)))
    (tcpFrame_parse longLived) opened.unanswered (opened.served rfl) opened.first
  have settled := opened.packet (plainHelpers (UInt64.ofNat (now + idle))) (tcpFrame longLived) (idleNext.trans opened.next)
  have paired := paired_step m (.packet (plainHelpers (UInt64.ofNat (now + idle))) (tcpFrame longLived)) opened.paired
    fun hdr v parsed _ picked => by
      rw [tcpFrame_parse] at parsed
      cases Option.some.inj parsed
      exact absurd (chosen_unowned picked) (by rw [tcpFrame_tuple,opened.first]; exact Option.some_ne_none _)
  have present : m.ct.lookup (reverseKey (pinnedTo 0)) ≠ none := by
    obtain ⟨w,found,_⟩ := opened.paired.recorded _ _ opened.first
    rw [found]
    exact Option.some_ne_none w
  obtain ⟨ct,done⟩ := m.ct.update_of_present _
    (record (loadTuple (tcpFrame longLived) ⟨14,34⟩) (plainHelpers (UInt64.ofNat (now + idle))).ktimeGetNs) present
  rw [done,Option.getD_some] at refreshed
  refine ⟨settled,paired,?_,?_,?_,?_,?_⟩
  · rw [kept]
    exact opened.first
  · rw [kept]
    exact opened.second
  · rw [kept]
    exact opened.both
  · rw [refreshed,BoundedMap.lookup_update done]
    exact if_pos rfl
  · rw [refreshed,BoundedMap.lookup_update done,if_neg apart]
    exact opened.due

theorem Alone.traffic {n now : Nat} {m : Maps} (alone : Alone n m) (low : n < 21000) (positive : 0 < n) :
    Shared n now (outMaps (plainHelpers (UInt64.ofNat (now + idle))) (tcpFrame longLived)
      (outMaps (plainHelpers (UInt64.ofNat now)) (tcpFrame passing) m)) :=
  (alone.opens low positive).refreshed low positive

theorem idle_positive : ¬ Int64.ofNat idle ≤ 0 := by decide

theorem idle_expired {last now : Nat} (bound : now < 2^64) (early : last ≤ now) :
    conntrackExpired (UInt64.ofNat now) (UInt64.ofNat last) (Int64.ofNat idle).toUInt64 = true ↔ last + idle < now := by
  have width : (Int64.ofNat idle).toUInt64.toNat = idle := by decide
  rw [conntrackExpired_exact,width,UInt64.toNat_ofNat',UInt64.toNat_ofNat']
  unfold idle
  omega

theorem Shared.collect {n now : Nat} {m : Maps} (shared : Shared n now m) (bound : now < 2^63) :
    Alone ((n + 1) % 21000) (reapConntrack (UInt64.ofNat (now + idle + 1)) (Int64.ofNat idle) m).2 := by
  have due : conntrackExpired (UInt64.ofNat (now + idle + 1)) (UInt64.ofNat now) (Int64.ofNat idle).toUInt64 = true := by
    refine (idle_expired ?_ ?_).mpr ?_ <;> unfold idle <;> omega
  have fresh : conntrackExpired (UInt64.ofNat (now + idle + 1)) (UInt64.ofNat (now + idle))
      (Int64.ofNat idle).toUInt64 = false := by
    rw [Bool.eq_false_iff,ne_eq,idle_expired] <;> unfold idle <;> omega
  have paired := paired_collect shared.paired (UInt64.ofNat (now + idle + 1)) (Int64.ofNat idle)
  have control : (reapConntrack (UInt64.ofNat (now + idle + 1)) (Int64.ofNat idle) m).2.backend = m.backend ∧
      (reapConntrack (UInt64.ofNat (now + idle + 1)) (Int64.ofNat idle) m).2.config = m.config := by
    unfold reapConntrack
    split <;> exact ⟨rfl,rfl⟩
  -- the entry a forward key was recorded under is the one it pins
  have under : ∀ f v r w, m.fwdCt.lookup f = some v → m.ct.lookup r = some w → forwardKeyFromCT r w = f →
      r = reverseKey v := by
    rintro f v r w pinned present rfl
    obtain ⟨v',pinned',rfl⟩ := shared.paired.owned r w present
    cases Option.some.inj (pinned.symm.trans pinned')
    rfl
  refine ⟨⟨(reap_control m).1.trans shared.service,control.1.trans shared.backend,control.2.trans shared.config,
    (reap_control m).2.trans shared.next⟩,paired,?_,?_⟩
  · refine (reap_fwdCt idle_positive m _ _).mpr ⟨shared.first,⟨_,_,shared.fresh,fresh,rfl⟩,?_⟩
    rintro ⟨r,w,present,expired,same⟩
    have here := under _ _ r w shared.first present same
    rw [here,shared.fresh] at present
    cases Option.some.inj present
    rw [show (record longLived (UInt64.ofNat (now + idle))).lastSeenNs = UInt64.ofNat (now + idle) from rfl,fresh] at expired
    cases expired
  · intro k left
    obtain ⟨v,found⟩ := Option.ne_none_iff_exists'.mp left
    obtain ⟨pinned,⟨r,w,present,live,same⟩,_⟩ := (reap_fwdCt idle_positive m k v).mp found
    rcases shared.both k (by rw [pinned]; exact Option.some_ne_none v) with first | second
    · exact first
    · rw [second] at same
      have here := under _ _ r w shared.second present same
      rw [here,shared.due] at present
      cases Option.some.inj present
      rw [show (record passing (UInt64.ofNat now)).lastSeenNs = UInt64.ofNat now from rfl,due] at live
      cases live

theorem Alone.cycle {n : Nat} {m : Maps} (alone : Alone n m) (low : n < 21000) (positive : 0 < n) (i : Nat)
    (bound : i < 21000) : Alone ((n + 1) % 21000) ((cycle i).foldl step m) := by
  refine (alone.traffic low positive).collect ?_
  have product : (i + 1) * (idle + 2) ≤ 21000 * (idle + 2) := Nat.mul_le_mul_right _ bound
  exact Nat.lt_of_le_of_lt product (by decide)

theorem Alone.cycles {m : Maps} (alone : Alone 1 m) (count : Nat) (bound : count < 21000) :
    Alone ((count + 1) % 21000) (((List.range count).flatMap FlowIsolation.cycle).foldl step m) := by
  induction count with
  | zero => exact alone
  | succ count ih =>
    have earlier := ih (by omega)
    rw [Nat.mod_eq_of_lt bound] at earlier
    rw [List.range_succ,List.flatMap_append,List.foldl_append,List.flatMap_singleton]
    exact earlier.cycle (by omega) (by omega) count (by omega)

theorem alone_first : Alone 1 (step (start oneService) (.packet (plainHelpers 0) (tcpFrame longLived))) := by
  have served : (start oneService).service.lookup (serviceKey longLived) = some ⟨1,0,snatIp⟩ := rfl
  have slot : (start oneService).backend.lookup ⟨serviceKey longLived,0⟩ = some pod := rfl
  have picked : chosen (start oneService) longLived = some (pinnedTo 0) := chosen_single served rfl slot
  obtain ⟨_,pinned,next,_⟩ := installs (h := plainHelpers 0) (tcpFrame_parse longLived) rfl picked
    (.inr (by decide)) (.inr (by decide))
  have control := outMaps_control (plainHelpers 0) (tcpFrame longLived) (start oneService)
  refine ⟨⟨control.service,control.backend,control.config,next⟩,?_,?_,?_⟩
  · exact paired_step _ (.packet (plainHelpers 0) (tcpFrame longLived)) (paired_start _) fun _ _ _ _ _ => rfl
  · exact (BoundedMap.lookup_update pinned _).trans (if_pos rfl)
  · intro k owned
    rw [step,BoundedMap.lookup_update pinned] at owned
    split at owned
    · assumption
    · exact absurd rfl owned

-- The 21001st connection is handed the port of the first, which is still open.
theorem wrapAround_shares : ¬ Along step Isolated (start oneService) wrapAround := by
  intro all
  have before := alone_first.cycles 20999 (Nat.lt_succ_self 20999)
  rw [show (20999 + 1) % 21000 = 0 from rfl] at before
  have last := along_last all
  rw [wrapAround,List.foldl_cons,List.foldl_append,List.foldl_cons,List.foldl_nil] at last
  refine claimed_broken _ _ before.paired ?_ last
  intro unclaimed
  have free := unclaimed ⟨14,34⟩ (pinnedTo 0) (tcpFrame_parse passing) (before.unclaimed (request_apart (by decide)))
    (before.chosen (by omega) rfl before.unowned)
  obtain ⟨w,held,_⟩ := before.paired.recorded _ _ before.pinned
  rw [free] at held
  cases held

end WrapAround
end Aipr.FlowIsolation
