import Aipr.FlowIsolation

namespace Aipr.CollectorRace
open NodeportTc Syncer Transition FlowIsolation

inductive Collector where
  | waiting
  | started (nowMonoNS : UInt64)
  | ctRead (nowMonoNS : UInt64) (ctEntries : List (NodePortCTKey × NodePortCTValue))
  | planned (staleCT : List NodePortCTKey) (staleFwd : List NodePortFwdCTKey)

def Collector.condemned : Collector → List NodePortCTKey
  | .planned staleCT _ => staleCT
  | _ => []

def Collector.doomed : Collector → List NodePortFwdCTKey
  | .planned _ staleFwd => staleFwd
  | _ => []

-- `lastPacket` is not part of the program: the time of the latest packet of
-- each connection, in either direction.
structure State where
  maps : Maps
  clock : UInt64
  collector : Collector
  lastPacket : NodeportFwdCtKey → Option UInt64

inductive Action where
  | start (nowMonoNS : UInt64)
  | readCT
  | readFwd
  | deleteCT (key : NodePortCTKey)
  | deleteFwd (key : NodePortFwdCTKey)
  | finish

inductive Input where
  | packet (h : Helpers) (skb : Frame)
  | collect (action : Action)

-- A packet that matches a reverse entry is a reply of that connection. Any other belongs
-- to its own tuple, and to the connection whose pinned backend it comes from.
def touches (m : Maps) (t : Tuple) (k : NodeportFwdCtKey) : Bool :=
  match m.ct.lookup (responseKey t) with
  | some w => forwardKeyFromCT (responseKey t) w = k
  | none => forwardKey t = k || (m.fwdCt.lookup k).map reverseKey = some (responseKey t)

-- Deletions of one list may come in any order, since Go iterates over sets.
def collect (timeout : Int64) (s : State) : Action → State
  | .start nowMonoNS =>
    match s.collector with
    | .waiting =>
      if timeout ≤ 0 ∨ nowMonoNS < s.clock then s
      else {s with clock := nowMonoNS, collector := .started nowMonoNS}
    | _ => s
  | .readCT =>
    match s.collector with
    | .started nowMonoNS => {s with collector := .ctRead nowMonoNS s.maps.ct.entries}
    | _ => s
  | .readFwd =>
    match s.collector with
    | .ctRead nowMonoNS ctEntries =>
      let plan := buildConntrackGCPlan nowMonoNS timeout ctEntries s.maps.fwdCt.keys
      {s with collector := .planned plan.staleCT plan.staleFwd}
    | _ => s
  | .deleteCT key =>
    match s.collector with
    | .planned staleCT staleFwd =>
      if key ∈ staleCT then
        {s with maps := {s.maps with ct := s.maps.ct.delete key},
                collector := .planned (staleCT.filter (· ≠ key)) staleFwd}
      else s
    | _ => s
  | .deleteFwd key =>
    match s.collector with
    | .planned [] staleFwd =>
      if key ∈ staleFwd then
        {s with maps := {s.maps with fwdCt := s.maps.fwdCt.delete key},
                collector := .planned [] (staleFwd.filter (· ≠ key))}
      else s
    | _ => s
  | .finish =>
    match s.collector with
    | .planned [] [] => {s with collector := .waiting}
    | _ => s

def attributed (m : Maps) (skb : Frame) (k : NodeportFwdCtKey) : Bool :=
  match parseTcpPacket skb with
  | none => false
  | some hdr => touches m (loadTuple skb hdr) k

-- The clock does not run backwards: what would need that does not happen.
def step (timeout : Int64) (s : State) : Input → State
  | .packet h skb =>
    if h.ktimeGetNs < s.clock then s
    else
      {s with maps := outMaps h skb s.maps, clock := h.ktimeGetNs,
              lastPacket := fun k => if attributed s.maps skb k then some h.ktimeGetNs else s.lastPacket k}
  | .collect action => collect timeout s action

def begin (m : Maps) : State := ⟨start m,0,.waiting,fun _ => none⟩

def Idle (timeout : Int64) (s : State) (k : NodeportFwdCtKey) : Prop :=
  ∀ last, s.lastPacket k = some last → last.toNat + timeout.toUInt64.toNat < s.clock.toNat

def Spares (timeout : Int64) (s : State) : Input → Prop
  | .packet _ _ => True
  | .collect action =>
    (∀ r w, s.maps.ct.lookup r = some w → (collect timeout s action).maps.ct.lookup r = none →
      Idle timeout s (forwardKeyFromCT r w)) ∧
    (∀ k v, s.maps.fwdCt.lookup k = some v → (collect timeout s action).maps.fwdCt.lookup k = none → Idle timeout s k)

-- While a collection is between its reads no connection opens and none that it
-- has read as expired is used; while it deletes, none that is still to go is used.
def Undisturbed (timeout : Int64) (m : Maps) (t : Tuple) : Collector → Prop
  | .waiting => True
  | .started _ => True
  | .ctRead nowMonoNS ctEntries =>
    (m.ct.lookup (responseKey t) = none → chosen m t = none) ∧
    ∀ r w, (r,w) ∈ ctEntries → conntrackExpired nowMonoNS w.lastSeenNs timeout.toUInt64 = true →
      touches m t (forwardKeyFromCT r w) = false
  | .planned _ staleFwd => ∀ k ∈ staleFwd, touches m t k = false

def Careful (timeout : Int64) (s : State) : Input → Prop
  | .packet h skb => h.ktimeGetNs < s.clock ∨
    (Unclaimed s.maps (.packet h skb) ∧
      ∀ hdr, parseTcpPacket skb = some hdr → Undisturbed timeout s.maps (loadTuple skb hdr) s.collector)
  | .collect _ => True

def frontendKey (k : NodeportFwdCtKey) : NodeportKey := ⟨k.frontendIp,k.frontendPort,ipprotoTcp,0⟩

structure Snapshot (timeout : Int64) (s : State) (nowMonoNS : UInt64)
    (ctEntries : List (NodePortCTKey × NodePortCTValue)) : Prop where
  past : nowMonoNS ≤ s.clock
  frozen : ∀ r w, (r,w) ∈ ctEntries → conntrackExpired nowMonoNS w.lastSeenNs timeout.toUInt64 = true →
    s.maps.ct.lookup r = some w
  known : ∀ r w, s.maps.ct.lookup r = some w →
    ∃ w', (r,w') ∈ ctEntries ∧ forwardKeyFromCT r w' = forwardKeyFromCT r w

-- Outside the collector's plan the tables are paired; inside it only forward
-- entries of idle connections are left alone.
structure Valid (timeout : Int64) (s : State) : Prop where
  seen : ∀ r w last, s.maps.ct.lookup r = some w → s.lastPacket (forwardKeyFromCT r w) = some last → last ≤ w.lastSeenNs
  served : ∀ k v, s.maps.fwdCt.lookup k = some v → s.maps.service.lookup (frontendKey k) ≠ none
  recorded : ∀ k v, s.maps.fwdCt.lookup k = some v → k ∉ s.collector.doomed →
    ∃ w, s.maps.ct.lookup (reverseKey v) = some w ∧ forwardKeyFromCT (reverseKey v) w = k
  owned : ∀ r w, s.maps.ct.lookup r = some w → ∃ v, s.maps.fwdCt.lookup (forwardKeyFromCT r w) = some v ∧ reverseKey v = r
  listed : ∀ r ∈ s.collector.condemned, ∃ w, s.maps.ct.lookup r = some w ∧ forwardKeyFromCT r w ∈ s.collector.doomed
  covered : ∀ r w, s.maps.ct.lookup r = some w → forwardKeyFromCT r w ∈ s.collector.doomed → r ∈ s.collector.condemned
  idle : ∀ k ∈ s.collector.doomed, Idle timeout s k
  begun : ∀ nowMonoNS, s.collector = .started nowMonoNS → nowMonoNS ≤ s.clock
  snapshot : ∀ nowMonoNS ctEntries, s.collector = .ctRead nowMonoNS ctEntries → Snapshot timeout s nowMonoNS ctEntries

theorem Valid.sole {timeout : Int64} {s : State} (valid : Valid timeout s) {r r' : NodeportCtKey} {w w' : NodeportCtValue}
    (found : s.maps.ct.lookup r = some w) (found' : s.maps.ct.lookup r' = some w')
    (same : forwardKeyFromCT r w = forwardKeyFromCT r' w') : r = r' := by
  obtain ⟨v,pinned,rfl⟩ := valid.owned r w found
  obtain ⟨v',pinned',rfl⟩ := valid.owned r' w' found'
  rw [same,pinned'] at pinned
  cases Option.some.inj pinned
  rfl

inductive Effect (s : State) (touched : NodeportFwdCtKey → Bool) (now : UInt64) : CtMap → FwdCtMap → Prop where
  | quiet (same : ∀ r, ct.lookup r = s.maps.ct.lookup r)
      (unrecorded : ∀ r w, s.maps.ct.lookup r = some w → touched (forwardKeyFromCT r w) = false) :
      Effect s touched now ct s.maps.fwdCt
  | refreshed (found : s.maps.ct.lookup r = some w) (done : s.maps.ct.update r w' = some ct)
      (same : forwardKeyFromCT r w' = forwardKeyFromCT r w) (stamped : w'.lastSeenNs = now)
      (only : ∀ k, touched k = true → k = forwardKeyFromCT r w) (here : touched (forwardKeyFromCT r w) = true) :
      Effect s touched now ct s.maps.fwdCt
  | opened (unread : ∀ nowMonoNS ctEntries, s.collector ≠ .ctRead nowMonoNS ctEntries)
      (served : s.maps.service.lookup (serviceKey t) ≠ none) (unowned : s.maps.fwdCt.lookup (forwardKey t) = none)
      (free : s.maps.ct.lookup (reverseKey v) = none)
      (recorded : s.maps.ct.update (reverseKey v) (record t now) = some ct)
      (pinned : s.maps.fwdCt.update (forwardKey t) v = some fwdCt)
      (only : ∀ k, touched k = true → k = forwardKey t) (here : touched (forwardKey t) = true) :
      Effect s touched now ct fwdCt

section Packet
variable {timeout : Int64} {s : State} {t : Tuple} {now : UInt64} {ct : CtMap} {fwdCt : FwdCtMap} {snat : Option UInt32}
  {target : Option Rewrite} {touched : NodeportFwdCtKey → Bool} {maps : Maps}

theorem Undisturbed.spares (undisturbed : Undisturbed timeout s.maps t s.collector) :
    ∀ k ∈ s.collector.doomed, touches s.maps t k = false := by
  cases collector : s.collector with
  | planned => rw [collector] at undisturbed; exact undisturbed
  | waiting => intro k doomed; cases doomed
  | started => intro k doomed; cases doomed
  | ctRead => intro k doomed; cases doomed

theorem touched_undoomed (spared : ∀ k ∈ s.collector.doomed, touched k = false) {k : NodeportFwdCtKey} (here : touched k = true) :
    k ∉ s.collector.doomed := by
  intro doomed
  rw [spared k doomed] at here
  cases here

-- A reply whose reverse entry is gone can only belong to a doomed connection.
theorem touches_request (valid : Valid timeout s) (spared : ∀ k ∈ s.collector.doomed, touches s.maps t k = false)
    (missed : s.maps.ct.lookup (responseKey t) = none) {k : NodeportFwdCtKey} (touched : touches s.maps t k = true) :
    k = forwardKey t := by
  have undoomed := touched_undoomed spared touched
  simp only [touches,missed,Bool.or_eq_true,decide_eq_true_eq] at touched
  rcases touched with own | reply
  · exact own.symm
  · obtain ⟨v,pinned,same⟩ := Option.map_eq_some_iff.mp reply
    obtain ⟨w,found,_⟩ := valid.recorded k v pinned undoomed
    rw [same,missed] at found
    cases found

theorem packet_effect (valid : Valid timeout s) (undisturbed : Undisturbed timeout s.maps t s.collector)
    (unclaimed : ∀ v, s.maps.ct.lookup (responseKey t) = none → chosen s.maps t = some v →
      s.maps.ct.lookup (reverseKey v) = none)
    (handled : Handled s.maps t now ct fwdCt snat target) : Effect s (touches s.maps t) now ct fwdCt := by
  have spared := undisturbed.spares
  have own : ∀ {k}, s.maps.ct.lookup (responseKey t) = none → touches s.maps t k = true → k = forwardKey t :=
    fun missed touched => touches_request valid spared missed touched
  have mine : s.maps.ct.lookup (responseKey t) = none → touches s.maps t (forwardKey t) = true := by
    intro missed
    simp [touches,missed]
  have undoomed : s.maps.ct.lookup (responseKey t) = none → forwardKey t ∉ s.collector.doomed :=
    fun missed => touched_undoomed spared (mine missed)
  -- an unowned tuple has no entry that would have to be stamped
  have unowned_quiet : s.maps.ct.lookup (responseKey t) = none → s.maps.fwdCt.lookup (forwardKey t) = none →
      ∀ r w, s.maps.ct.lookup r = some w → touches s.maps t (forwardKeyFromCT r w) = false := by
    intro missed unowned r w found
    rw [Bool.eq_false_iff]
    intro touched
    obtain ⟨v,pinned,_⟩ := valid.owned r w found
    rw [own missed touched,unowned] at pinned
    cases pinned
  cases handled with
  | @response w _ found refreshed =>
    have reply : ∀ k, touches s.maps t k = true ↔ forwardKeyFromCT (responseKey t) w = k := by
      intro k
      simp only [touches,found,decide_eq_true_eq]
    exact .refreshed found refreshed rfl rfl (fun k touched => ((reply k).mp touched).symm) ((reply _).mpr rfl)
  | passed missed unowned unchosen =>
    refine .quiet (fun _ => rfl) (unowned_quiet missed ?_)
    rcases unowned with unserved | unowned
    · cases pinned : s.maps.fwdCt.lookup (forwardKey t) with
      | none => rfl
      | some v => exact absurd unserved (valid.served _ v pinned)
    · exact unowned
  | established missed _ owned refreshed =>
    obtain ⟨w,found,same⟩ := valid.recorded _ _ owned (undoomed missed)
    exact .refreshed found refreshed same.symm rfl (fun k touched => same.symm ▸ own missed touched) (same.symm ▸ mine missed)
  | unrefreshed missed _ owned refused =>
    obtain ⟨w,found,_⟩ := valid.recorded _ _ owned (undoomed missed)
    cases ((BoundedMap.update_eq_none _ _ _).mp refused).1.symm.trans found
  | refused missed picked _ => exact .quiet (fun _ => rfl) (unowned_quiet missed (chosen_unowned picked))
  | rolledBack missed picked recorded _ =>
    refine .quiet (fun r => ?_) (unowned_quiet missed (chosen_unowned picked))
    rw [BoundedMap.lookup_delete,BoundedMap.lookup_update recorded]
    split
    · rename_i here
      rw [here,unclaimed _ missed picked]
    · rfl
  | installed missed picked recorded pinned =>
    obtain ⟨serviceState,_,_,served,unowned,_,_⟩ := chosen_some picked
    refine .opened ?_ (by rw [served]; exact Option.some_ne_none _) unowned (unclaimed _ missed picked) recorded pinned
      (fun k => own missed) (mine missed)
    intro nowMonoNS ctEntries read
    rw [read] at undisturbed
    rw [undisturbed.1 missed] at picked
    cases picked

def arrive (s : State) (touched : NodeportFwdCtKey → Bool) (maps : Maps) (now : UInt64) : State :=
  {s with maps := maps, clock := now, lastPacket := fun k => if touched k then some now else s.lastPacket k}

theorem idle_arrive (valid : Valid timeout s) (later : s.clock ≤ now)
    (spared : ∀ k ∈ s.collector.doomed, touched k = false) :
    ∀ k ∈ (arrive s touched maps now).collector.doomed, Idle timeout (arrive s touched maps now) k := by
  intro k doomed last noted
  simp only [arrive,spared k doomed,Bool.false_eq_true,if_false] at noted
  have old := valid.idle k doomed last noted
  have advanced := UInt64.le_iff_toNat_le.mp later
  exact Nat.lt_of_lt_of_le old advanced

theorem begun_arrive (valid : Valid timeout s) (later : s.clock ≤ now) :
    ∀ nowMonoNS, (arrive s touched maps now).collector = .started nowMonoNS → nowMonoNS ≤ (arrive s touched maps now).clock :=
  fun nowMonoNS same => UInt64.le_trans (valid.begun nowMonoNS same) later

theorem valid_quiet (valid : Valid timeout s) (later : s.clock ≤ now) (service : maps.service = s.maps.service)
    (forwards : maps.fwdCt = s.maps.fwdCt) (spared : ∀ k ∈ s.collector.doomed, touched k = false)
    (same : ∀ r, maps.ct.lookup r = s.maps.ct.lookup r)
    (unrecorded : ∀ r w, s.maps.ct.lookup r = some w → touched (forwardKeyFromCT r w) = false) :
    Valid timeout (arrive s touched maps now) := by
  refine ⟨?_,?_,?_,?_,?_,?_,idle_arrive valid later spared,begun_arrive valid later,?_⟩
  all_goals simp only [arrive,forwards,service,same]
  · intro r w last found noted
    rw [unrecorded r w found] at noted
    exact valid.seen r w last found noted
  · exact valid.served
  · exact valid.recorded
  · exact valid.owned
  · exact valid.listed
  · exact valid.covered
  · intro nowMonoNS ctEntries read
    have old := valid.snapshot nowMonoNS ctEntries read
    exact ⟨UInt64.le_trans old.past later,by simpa only [arrive,same] using old.frozen,
      by simpa only [arrive,same] using old.known⟩

theorem snapshot_refreshed {nowMonoNS : UInt64} {ctEntries : List (NodePortCTKey × NodePortCTValue)} {r : NodeportCtKey}
    {w w' : NodeportCtValue} (old : Snapshot timeout s nowMonoNS ctEntries) (later : s.clock ≤ now)
    (calm : ∀ r w, (r,w) ∈ ctEntries → conntrackExpired nowMonoNS w.lastSeenNs timeout.toUInt64 = true →
      touched (forwardKeyFromCT r w) = false)
    (found : s.maps.ct.lookup r = some w) (done : s.maps.ct.update r w' = some maps.ct)
    (same : forwardKeyFromCT r w' = forwardKeyFromCT r w) (here : touched (forwardKeyFromCT r w) = true) :
    Snapshot timeout (arrive s touched maps now) nowMonoNS ctEntries := by
  refine ⟨UInt64.le_trans old.past later,?_,?_⟩
  all_goals simp only [arrive,BoundedMap.lookup_update done]
  · intro x y listed expired
    have present := old.frozen x y listed expired
    split
    · rename_i at_r
      have untouched := calm x y listed expired
      rw [at_r] at present untouched
      cases Option.some.inj (found.symm.trans present)
      rw [here] at untouched
      cases untouched
    · exact present
  · intro x y present
    split at present
    · rename_i at_r
      cases Option.some.inj present
      rw [at_r,same]
      exact old.known r w found
    · exact old.known x y present

theorem valid_refreshed {r : NodeportCtKey} {w w' : NodeportCtValue} (valid : Valid timeout s) (later : s.clock ≤ now)
    (service : maps.service = s.maps.service) (forwards : maps.fwdCt = s.maps.fwdCt)
    (spared : ∀ k ∈ s.collector.doomed, touched k = false)
    (calm : ∀ nowMonoNS ctEntries, s.collector = .ctRead nowMonoNS ctEntries → ∀ r w, (r,w) ∈ ctEntries →
      conntrackExpired nowMonoNS w.lastSeenNs timeout.toUInt64 = true → touched (forwardKeyFromCT r w) = false)
    (found : s.maps.ct.lookup r = some w) (done : s.maps.ct.update r w' = some maps.ct)
    (same : forwardKeyFromCT r w' = forwardKeyFromCT r w) (stamped : w'.lastSeenNs = now)
    (only : ∀ k, touched k = true → k = forwardKeyFromCT r w) (here : touched (forwardKeyFromCT r w) = true) :
    Valid timeout (arrive s touched maps now) := by
  have undoomed := touched_undoomed spared here
  refine ⟨?_,?_,?_,?_,?_,?_,idle_arrive valid later spared,begun_arrive valid later,?_⟩
  all_goals simp only [arrive,forwards,service,BoundedMap.lookup_update done]
  · intro x y last present noted
    split at present
    · rename_i at_r
      cases Option.some.inj present
      rw [at_r,same,here] at noted
      cases Option.some.inj noted
      exact stamped ▸ UInt64.le_refl _
    · rename_i elsewhere
      have untouched : touched (forwardKeyFromCT x y) = false := by
        rw [Bool.eq_false_iff]
        exact fun touch => elsewhere (valid.sole present found (only _ touch))
      rw [untouched] at noted
      exact valid.seen x y last present noted
  · exact valid.served
  · intro k v pinned spare
    obtain ⟨y,present,mine⟩ := valid.recorded k v pinned spare
    split
    · rename_i at_r
      rw [at_r] at present mine ⊢
      cases Option.some.inj (found.symm.trans present)
      exact ⟨w',rfl,same.trans mine⟩
    · exact ⟨y,present,mine⟩
  · intro x y present
    split at present
    · rename_i at_r
      cases Option.some.inj present
      rw [at_r,same]
      exact valid.owned r w found
    · exact valid.owned x y present
  · intro x condemned
    obtain ⟨y,present,doomed⟩ := valid.listed x condemned
    split
    · rename_i at_r
      rw [at_r] at present doomed
      cases Option.some.inj (found.symm.trans present)
      exact absurd doomed undoomed
    · exact ⟨y,present,doomed⟩
  · intro x y present doomed
    split at present
    · rename_i at_r
      cases Option.some.inj present
      rw [at_r,same] at doomed
      exact absurd doomed undoomed
    · exact valid.covered x y present doomed
  · intro nowMonoNS ctEntries read
    exact snapshot_refreshed (valid.snapshot nowMonoNS ctEntries read) later (calm nowMonoNS ctEntries read) found done same here

theorem valid_opened {v : NodeportFwdCtValue} (valid : Valid timeout s) (later : s.clock ≤ now)
    (service : maps.service = s.maps.service) (spared : ∀ k ∈ s.collector.doomed, touched k = false)
    (unread : ∀ nowMonoNS ctEntries, s.collector ≠ .ctRead nowMonoNS ctEntries)
    (present : s.maps.service.lookup (serviceKey t) ≠ none) (unowned : s.maps.fwdCt.lookup (forwardKey t) = none)
    (free : s.maps.ct.lookup (reverseKey v) = none)
    (recorded : s.maps.ct.update (reverseKey v) (record t now) = some maps.ct)
    (pinned : s.maps.fwdCt.update (forwardKey t) v = some maps.fwdCt)
    (only : ∀ k, touched k = true → k = forwardKey t) (here : touched (forwardKey t) = true) :
    Valid timeout (arrive s touched maps now) := by
  have undoomed := touched_undoomed spared here
  have apart : ∀ x y, s.maps.ct.lookup x = some y → forwardKeyFromCT x y ≠ forwardKey t := by
    intro x y held mine
    obtain ⟨_,owner,_⟩ := valid.owned x y held
    rw [mine,unowned] at owner
    cases owner
  refine ⟨?_,?_,?_,?_,?_,?_,idle_arrive valid later spared,begun_arrive valid later,fun nowMonoNS ctEntries read => absurd read (unread nowMonoNS ctEntries)⟩
  all_goals simp only [arrive,service,BoundedMap.lookup_update recorded,BoundedMap.lookup_update pinned]
  · intro x y last held noted
    split at held
    · rename_i at_r
      cases Option.some.inj held
      rw [at_r,show forwardKeyFromCT (reverseKey v) (record t now) = forwardKey t from rfl,here] at noted
      cases Option.some.inj noted
      exact UInt64.le_refl _
    · have untouched : touched (forwardKeyFromCT x y) = false := by
        rw [Bool.eq_false_iff]
        exact fun touch => apart x y held (only _ touch)
      rw [untouched] at noted
      exact valid.seen x y last held noted
  · intro k v' owner
    split at owner
    · rename_i mine
      rw [mine]
      exact present
    · exact valid.served k v' owner
  · intro k v' owner spare
    split at owner
    · rename_i mine
      cases Option.some.inj owner
      exact ⟨record t now,if_pos rfl,mine.symm⟩
    · obtain ⟨y,held,mine⟩ := valid.recorded k v' owner spare
      refine ⟨y,?_,mine⟩
      rw [if_neg fun taken => ?_]
      · exact held
      · rw [taken,free] at held
        cases held
  · intro x y held
    split at held
    · rename_i at_r
      cases Option.some.inj held
      rw [at_r]
      exact ⟨v,if_pos rfl,rfl⟩
    · obtain ⟨v',owner,mine⟩ := valid.owned x y held
      rw [if_neg (apart x y held)]
      exact ⟨v',owner,mine⟩
  · intro x condemned
    obtain ⟨y,held,doomed⟩ := valid.listed x condemned
    refine ⟨y,?_,doomed⟩
    rw [if_neg fun taken => ?_]
    · exact held
    · rw [taken,free] at held
      cases held
  · intro x y held doomed
    split at held
    · rename_i at_r
      cases Option.some.inj held
      rw [at_r] at doomed
      exact absurd doomed undoomed
    · exact valid.covered x y held doomed

theorem valid_packet (valid : Valid timeout s) (later : s.clock ≤ now)
    (service : maps.service = s.maps.service) (spared : ∀ k ∈ s.collector.doomed, touched k = false)
    (calm : ∀ nowMonoNS ctEntries, s.collector = .ctRead nowMonoNS ctEntries → ∀ r w, (r,w) ∈ ctEntries →
      conntrackExpired nowMonoNS w.lastSeenNs timeout.toUInt64 = true → touched (forwardKeyFromCT r w) = false)
    (effect : Effect s touched now maps.ct maps.fwdCt) : Valid timeout (arrive s touched maps now) := by
  generalize ctEq : maps.ct = ct,fwdEq : maps.fwdCt = fwdCt at effect
  cases effect with
  | quiet same unrecorded =>
    subst ctEq
    exact valid_quiet valid later service fwdEq spared same unrecorded
  | refreshed found done same stamped only here =>
    subst ctEq
    exact valid_refreshed valid later service fwdEq spared calm found done same stamped only here
  | opened unread present unowned free recorded pinned only here =>
    subst ctEq fwdEq
    exact valid_opened valid later service spared unread present unowned free recorded pinned only here

end Packet

section Collection
variable {timeout : Int64} {s : State}

-- Every forward key of the plan belongs to an entry that is still there as it
-- was read, and had expired then.
theorem doomed_expired {nowMonoNS : UInt64} {ctEntries : List (NodePortCTKey × NodePortCTValue)}
    (valid : Valid timeout s) (read : s.collector = .ctRead nowMonoNS ctEntries) (positive : ¬ timeout ≤ 0)
    {k : NodePortFwdCTKey}
    (doomed : k ∈ (buildConntrackGCPlan nowMonoNS timeout ctEntries s.maps.fwdCt.keys).staleFwd) :
    ∃ r w, (r,w) ∈ ctEntries ∧ s.maps.ct.lookup r = some w ∧ forwardKeyFromCT r w = k ∧
      conntrackExpired nowMonoNS w.lastSeenNs timeout.toUInt64 = true := by
  have snapshot := valid.snapshot nowMonoNS ctEntries read
  rcases (plan_staleFwd positive k).mp doomed with ⟨r,w,listed,expired,same⟩ | ⟨present,orphan⟩
  · exact ⟨r,w,listed,snapshot.frozen r w listed expired,same,expired⟩
  · obtain ⟨v,pinned⟩ := Option.ne_none_iff_exists'.mp ((BoundedMap.mem_keys _ _).mp present)
    obtain ⟨w,found,mine⟩ := valid.recorded k v pinned (by rw [read]; exact List.not_mem_nil)
    obtain ⟨w',listed,same⟩ := snapshot.known _ w found
    cases expired : conntrackExpired nowMonoNS w'.lastSeenNs timeout.toUInt64 with
    | true => exact ⟨_,w',listed,snapshot.frozen _ w' listed expired,same.trans mine,expired⟩
    | false => exact absurd ⟨_,w',listed,expired,same.trans mine⟩ orphan

theorem valid_readFwd {nowMonoNS : UInt64} {ctEntries : List (NodePortCTKey × NodePortCTValue)}
    (valid : Valid timeout s) (read : s.collector = .ctRead nowMonoNS ctEntries) :
    let plan := buildConntrackGCPlan nowMonoNS timeout ctEntries s.maps.fwdCt.keys
    Valid timeout {s with collector := .planned plan.staleCT plan.staleFwd} := by
  intro plan
  have snapshot := valid.snapshot nowMonoNS ctEntries read
  have recorded : ∀ k v, s.maps.fwdCt.lookup k = some v →
      ∃ w, s.maps.ct.lookup (reverseKey v) = some w ∧ forwardKeyFromCT (reverseKey v) w = k :=
    fun k v pinned => valid.recorded k v pinned (by rw [read]; exact List.not_mem_nil)
  by_cases disabled : timeout ≤ 0
  · have nothing : plan = ⟨ctEntries.length,s.maps.fwdCt.keys.length,[],[]⟩ := by
      unfold plan
      rw [buildConntrackGCPlan,if_pos disabled]
    rw [nothing]
    exact ⟨valid.seen,valid.served,fun k v pinned _ => recorded k v pinned,valid.owned,by simp [Collector.condemned],
      by simp [Collector.doomed],by simp [Collector.doomed],by simp,by simp⟩
  refine ⟨valid.seen,valid.served,fun k v pinned _ => recorded k v pinned,valid.owned,?_,?_,?_,by simp,by simp⟩
  · intro r condemned
    obtain ⟨w,listed,expired⟩ := (plan_staleCT disabled r).mp condemned
    exact ⟨w,snapshot.frozen r w listed expired,(plan_staleFwd disabled _).mpr (.inl ⟨r,w,listed,expired,rfl⟩)⟩
  · intro r w found doomed
    obtain ⟨r',w',listed,found',same,expired⟩ := doomed_expired valid read disabled doomed
    rw [valid.sole found found' same.symm]
    exact (plan_staleCT disabled r').mpr ⟨w',listed,expired⟩
  · intro k doomed last noted
    obtain ⟨r,w,_,found,rfl,expired⟩ := doomed_expired valid read disabled doomed
    have late := ((conntrackExpired_exact _ _ _).mp expired).2
    have seen := UInt64.le_iff_toNat_le.mp (valid.seen r w last found noted)
    have past := UInt64.le_iff_toNat_le.mp snapshot.past
    change last.toNat + timeout.toUInt64.toNat < s.clock.toNat
    omega

theorem valid_deleteCT {staleCT : List NodePortCTKey} {staleFwd : List NodePortFwdCTKey} {key : NodePortCTKey}
    (valid : Valid timeout s) (planned : s.collector = .planned staleCT staleFwd) (member : key ∈ staleCT) :
    Valid timeout {s with maps := {s.maps with ct := s.maps.ct.delete key},
                          collector := .planned (staleCT.filter (· ≠ key)) staleFwd} := by
  have left : ∀ {r w}, (s.maps.ct.delete key).lookup r = some w → r ≠ key ∧ s.maps.ct.lookup r = some w := by
    intro r w found
    rw [BoundedMap.lookup_delete] at found
    split at found
    · cases found
    · rename_i other
      exact ⟨other,found⟩
  have kept : ∀ {r}, r ≠ key → (s.maps.ct.delete key).lookup r = s.maps.ct.lookup r :=
    fun other => by rw [BoundedMap.lookup_delete,if_neg other]
  have recorded := valid.recorded
  have listed := valid.listed
  have covered := valid.covered
  have idle := valid.idle
  simp only [planned,Collector.doomed,Collector.condemned] at recorded listed covered idle
  refine ⟨fun r w last found => valid.seen r w last (left found).2,valid.served,?_,
    fun r w found => valid.owned r w (left found).2,?_,?_,idle,by simp,by simp⟩
  · intro k v pinned spare
    obtain ⟨w,found,mine⟩ := recorded k v pinned spare
    refine ⟨w,?_,mine⟩
    rw [kept fun here => ?_]
    · exact found
    · obtain ⟨w',found',doomed⟩ := listed key member
      rw [here,found'] at found
      cases Option.some.inj found
      rw [here] at mine
      exact spare (mine ▸ doomed)
  · intro r condemned
    obtain ⟨remains,other⟩ := List.mem_filter.mp condemned
    obtain ⟨w,found,doomed⟩ := listed r remains
    exact ⟨w,by rw [kept (by simpa using other)]; exact found,doomed⟩
  · intro r w found doomed
    obtain ⟨other,found⟩ := left found
    exact List.mem_filter.mpr ⟨covered r w found doomed,by simpa using other⟩

theorem valid_deleteFwd {staleFwd : List NodePortFwdCTKey} {key : NodePortFwdCTKey}
    (valid : Valid timeout s) (planned : s.collector = .planned [] staleFwd) (member : key ∈ staleFwd) :
    Valid timeout {s with maps := {s.maps with fwdCt := s.maps.fwdCt.delete key},
                          collector := .planned [] (staleFwd.filter (· ≠ key))} := by
  have left : ∀ {k v}, (s.maps.fwdCt.delete key).lookup k = some v → k ≠ key ∧ s.maps.fwdCt.lookup k = some v := by
    intro k v found
    rw [BoundedMap.lookup_delete] at found
    split at found
    · cases found
    · rename_i other
      exact ⟨other,found⟩
  have recorded := valid.recorded
  have covered := valid.covered
  have idle := valid.idle
  simp only [planned,Collector.doomed,Collector.condemned,List.not_mem_nil] at recorded covered idle
  refine ⟨valid.seen,fun k v found => valid.served k v (left found).2,?_,?_,by simp [Collector.condemned],?_,?_,
    by simp,by simp⟩
  · intro k v found spare
    obtain ⟨other,found⟩ := left found
    exact recorded k v found fun doomed => spare (List.mem_filter.mpr ⟨doomed,by simpa using other⟩)
  · intro r w found
    obtain ⟨v,pinned,mine⟩ := valid.owned r w found
    refine ⟨v,?_,mine⟩
    rw [BoundedMap.lookup_delete,if_neg fun here => ?_]
    · exact pinned
    · exact covered r w found (here ▸ member)
  · intro r w found doomed
    exact (covered r w found (List.mem_filter.mp doomed).1).elim
  · intro k doomed
    exact idle k (List.mem_filter.mp doomed).1

theorem valid_unplanned {clock : UInt64} {collector : Collector} (valid : Valid timeout s)
    (before : s.collector.doomed = []) (uncondemned : collector.condemned = []) (after : collector.doomed = [])
    (begun : ∀ nowMonoNS, collector = .started nowMonoNS → nowMonoNS ≤ clock)
    (snapshot : ∀ nowMonoNS ctEntries, collector = .ctRead nowMonoNS ctEntries →
      Snapshot timeout {s with clock := clock, collector := collector} nowMonoNS ctEntries) :
    Valid timeout {s with clock := clock, collector := collector} := by
  have spare : ∀ k, k ∉ s.collector.doomed := fun k doomed => by
    rw [before] at doomed
    cases doomed
  refine ⟨valid.seen,valid.served,fun k v pinned _ => valid.recorded k v pinned (spare k),valid.owned,?_,?_,?_,begun,snapshot⟩
  all_goals simp only [uncondemned,after]
  · intro r condemned
    cases condemned
  · intro r w _ doomed
    cases doomed
  · intro k doomed
    cases doomed

theorem valid_collect (valid : Valid timeout s) (action : Action) : Valid timeout (collect timeout s action) := by
  cases action with
  | start nowMonoNS =>
    simp only [collect]
    split
    · rename_i waiting
      split
      · exact valid
      · rename_i runs
        refine valid_unplanned valid (by rw [waiting]; rfl) rfl rfl ?_ (fun _ _ same => by cases same)
        intro now same
        cases same
        exact UInt64.le_refl _
    · exact valid
  | readCT =>
    simp only [collect]
    split
    · rename_i nowMonoNS started
      refine valid_unplanned valid (by rw [started]; rfl) rfl rfl (fun _ same => by cases same) ?_
      intro now ctEntries same
      cases same
      refine ⟨valid.begun nowMonoNS started,?_,?_⟩
      · intro r w listed _
        exact (BoundedMap.mem_entries _ _ _).mp listed
      · intro r w found
        exact ⟨w,(BoundedMap.mem_entries _ _ _).mpr found,rfl⟩
    · exact valid
  | readFwd =>
    simp only [collect]
    split
    · rename_i nowMonoNS ctEntries read
      exact valid_readFwd valid read
    · exact valid
  | deleteCT key =>
    simp only [collect]
    split
    · rename_i staleCT staleFwd planned
      split
      · rename_i member
        exact valid_deleteCT valid planned member
      · exact valid
    · exact valid
  | deleteFwd key =>
    simp only [collect]
    split
    · rename_i staleFwd planned
      split
      · rename_i member
        exact valid_deleteFwd valid planned member
      · exact valid
    · exact valid
  | finish =>
    simp only [collect]
    split
    · rename_i planned
      exact valid_unplanned valid (by rw [planned]; rfl) rfl rfl (fun _ same => by cases same) (fun _ _ same => by cases same)
    · exact valid

theorem collect_maps (timeout : Int64) (s : State) (action : Action) :
    (collect timeout s action).maps = s.maps ∨
    (∃ key ∈ s.collector.condemned, (collect timeout s action).maps = {s.maps with ct := s.maps.ct.delete key}) ∨
    (∃ key ∈ s.collector.doomed, (collect timeout s action).maps = {s.maps with fwdCt := s.maps.fwdCt.delete key}) := by
  cases action with
  | start =>
    simp only [collect]
    split
    · split <;> exact .inl rfl
    · exact .inl rfl
  | readCT => simp only [collect]; split <;> exact .inl rfl
  | readFwd => simp only [collect]; split <;> exact .inl rfl
  | deleteCT key =>
    simp only [collect]
    split
    · rename_i staleCT staleFwd planned
      split
      · rename_i member
        exact .inr (.inl ⟨key,by rw [planned]; exact member,rfl⟩)
      · exact .inl rfl
    · exact .inl rfl
  | deleteFwd key =>
    simp only [collect]
    split
    · rename_i staleFwd planned
      split
      · rename_i member
        exact .inr (.inr ⟨key,by rw [planned]; exact member,rfl⟩)
      · exact .inl rfl
    · exact .inl rfl
  | finish => simp only [collect]; split <;> exact .inl rfl

theorem collect_spares (valid : Valid timeout s) (action : Action) : Spares timeout s (.collect action) := by
  rcases collect_maps timeout s action with same | ⟨key,member,deleted⟩ | ⟨key,member,deleted⟩
  · refine ⟨fun r w found lost => ?_,fun k v found lost => ?_⟩
    · rw [same,found] at lost
      cases lost
    · rw [same,found] at lost
      cases lost
  · refine ⟨fun r w found lost => ?_,fun k v found lost => ?_⟩
    · obtain ⟨w',found',doomed⟩ := valid.listed key member
      simp only [deleted,BoundedMap.lookup_delete] at lost
      split at lost
      · rename_i here
        rw [here,found'] at found
        cases Option.some.inj found
        exact here ▸ valid.idle _ doomed
      · cases found.symm.trans lost
    · rw [deleted] at lost
      cases found.symm.trans lost
  · refine ⟨fun r w found lost => ?_,fun k v found lost => ?_⟩
    · rw [deleted] at lost
      cases found.symm.trans lost
    · simp only [deleted,BoundedMap.lookup_delete] at lost
      split at lost
      · rename_i here
        exact here ▸ valid.idle _ member
      · cases found.symm.trans lost

theorem valid_begin (timeout : Int64) (m : Maps) : Valid timeout (begin m) := by
  refine ⟨?_,?_,?_,?_,by simp [begin,Collector.condemned],by simp [begin,Collector.doomed],
    by simp [begin,Collector.doomed],by simp [begin],by simp [begin]⟩
  · intro r w last found
    cases found
  · intro k v found
    cases found
  · intro k v found
    cases found
  · intro r w found
    cases found

theorem valid_step (s : State) (input : Input) (valid : Valid timeout s) (careful : Careful timeout s input) :
    Valid timeout (step timeout s input) := by
  cases input with
  | collect action => exact valid_collect valid action
  | packet h skb =>
    simp only [step]
    split
    · exact valid
    · rename_i runs
      have later : s.clock ≤ h.ktimeGetNs := UInt64.not_lt.mp runs
      obtain ⟨unclaimed,undisturbed⟩ := careful.resolve_left runs
      have service := (outMaps_control h skb s.maps).service
      cases parsed : parseTcpPacket skb with
      | none =>
        have untouched : ∀ k, attributed s.maps skb k = false := fun k => by rw [attributed,parsed]
        refine valid_packet valid later service (fun k _ => untouched k) (fun _ _ _ r w _ _ => untouched _) ?_
        rw [outMaps,unparsed_out parsed]
        exact .quiet (fun _ => rfl) fun r w _ => untouched _
      | some hdr =>
        have calm := undisturbed hdr parsed
        obtain ⟨target,out⟩ := nodeportTc_outcome (h := h) (m := s.maps) parsed
        have same : attributed s.maps skb = touches s.maps (loadTuple skb hdr) := by
          funext k
          rw [attributed,parsed]
        rw [same]
        refine valid_packet valid later service calm.spares ?_
          (packet_effect valid calm (fun v => unclaimed hdr v parsed) out.handled)
        intro nowMonoNS ctEntries read
        rw [read] at calm
        exact calm.2

end Collection

-- Along every run that keeps the condition, whatever the collector removes has
-- been idle for longer than the timeout.
theorem collector_spares (timeout : Int64) (m : Maps) (inputs : List Input)
    (careful : Each (step timeout) (Careful timeout) (begin m) inputs) :
    Each (step timeout) (Spares timeout) (begin m) inputs := by
  refine each_of_each (fun s input valid _ => ?_) valid_step (valid_begin timeout m) careful
  cases input with
  | packet => trivial
  | collect action => exact collect_spares valid action

instance (timeout : Int64) (m : Maps) (t : Tuple) : (collector : Collector) → Decidable (Undisturbed timeout m t collector)
  | .waiting => isTrue trivial
  | .started _ => isTrue trivial
  | .ctRead nowMonoNS ctEntries =>
    decidable_of_iff ((m.ct.lookup (responseKey t) = none → chosen m t = none) ∧ ∀ e ∈ ctEntries,
        conntrackExpired nowMonoNS e.2.lastSeenNs timeout.toUInt64 = true → touches m t (forwardKeyFromCT e.1 e.2) = false)
      (and_congr_right fun _ => ⟨fun all r w => all (r,w),fun all e => all e.1 e.2⟩)
  | .planned _ staleFwd => inferInstanceAs (Decidable (∀ k ∈ staleFwd, touches m t k = false))

theorem careful_frame {timeout : Int64} {s : State} {h : Helpers} {t : Tuple}
    (unclaimed : (chosen s.maps t).all fun v => (s.maps.ct.lookup (reverseKey v)).isNone)
    (undisturbed : Undisturbed timeout s.maps t s.collector) : Careful timeout s (.packet h (tcpFrame t)) := by
  refine .inr ⟨fun hdr v parsed _ picked => ?_,fun hdr parsed => ?_⟩
  · cases (tcpFrame_parse t).symm.trans parsed
    rw [tcpFrame_tuple] at picked
    rw [picked] at unclaimed
    exact Option.isNone_iff_eq_none.mp unclaimed
  · cases (tcpFrame_parse t).symm.trans parsed
    rw [tcpFrame_tuple]
    exact undisturbed

-- One connection falls idle and is collected, while another one keeps sending between
-- the reads and between the deletes.
def calmRun : List Input :=
  [.packet (plainHelpers 1000) (tcpFrame longLived),.packet (plainHelpers (UInt64.ofNat (idle + 1000))) (tcpFrame passing),
   .collect (.start (UInt64.ofNat (idle + 2000))),.collect .readCT,
   .packet (plainHelpers (UInt64.ofNat (idle + 3000))) (tcpFrame passing),.collect .readFwd,
   .packet (plainHelpers (UInt64.ofNat (idle + 4000))) (tcpFrame passing),.collect (.deleteCT (reverseKey (pinnedTo 0))),
   .packet (plainHelpers (UInt64.ofNat (idle + 5000))) (tcpFrame passing),.collect (.deleteFwd (forwardKey longLived)),
   .collect .finish]

theorem calmRun_spares :
    Each (step (Int64.ofNat idle)) (Spares (Int64.ofNat idle)) (begin oneService) calmRun ∧
      (calmRun.foldl (step (Int64.ofNat idle)) (begin oneService)).maps.fwdCt.keys = [forwardKey passing] := by
  refine ⟨collector_spares (Int64.ofNat idle) oneService calmRun ?_,by decide +kernel⟩
  exact ⟨careful_frame (by decide +kernel) (by decide +kernel),careful_frame (by decide +kernel) (by decide +kernel),trivial,trivial,
    careful_frame (by decide +kernel) (by decide +kernel),trivial,careful_frame (by decide +kernel) (by decide +kernel),trivial,
    careful_frame (by decide +kernel) (by decide +kernel),trivial,trivial,trivial⟩

-- A connection opens between the two reads: its forward key is read without a
-- reverse entry, and goes while the client is sending.
def openedBetween : List Input :=
  [.collect (.start 1000),.collect .readCT,.packet (plainHelpers 2000) (tcpFrame longLived),.collect .readFwd,
   .collect (.deleteFwd (forwardKey longLived))]

theorem openedBetween_loses : ¬ Each (step (Int64.ofNat idle)) (Spares (Int64.ofNat idle)) (begin oneService) openedBetween := by
  intro all
  obtain ⟨_,_,_,_,last,_⟩ := all
  have quiet := last.2 (forwardKey longLived) (pinnedTo 0) rfl rfl 2000 rfl
  exact absurd quiet (by decide)

end Aipr.CollectorRace
