import Aipr.CollectorRace

namespace Aipr.CollectorRace
open NodeportTc Syncer Transition FlowIsolation

-- Beside the state: when the TCP packets came, when the latest collection began, and
-- the beginning of the latest one that came to its end.
structure Watch where
  state : State
  arrivals : List UInt64
  begun : UInt64
  swept : Option UInt64

def noted (w : Watch) : Input → List UInt64
  | .packet h skb =>
    if h.ktimeGetNs < w.state.clock then w.arrivals
    else if (parseTcpPacket skb).isSome then w.arrivals ++ [h.ktimeGetNs] else w.arrivals
  | .collect _ => w.arrivals

def watch (timeout : Int64) (w : Watch) (input : Input) : Watch :=
  let next := step timeout w.state input
  match w.state.collector,next.collector with
  | .waiting,.started nowMonoNS => ⟨next,noted w input,nowMonoNS,w.swept⟩
  | .planned _ _,.waiting => ⟨next,noted w input,w.begun,some w.begun⟩
  | _,_ => ⟨next,noted w input,w.begun,w.swept⟩

def Watch.start (m : Maps) : Watch := ⟨begin m,[],0,none⟩

def recent (timeout : Int64) (since lastSeen : UInt64) : Bool := !conntrackExpired since lastSeen timeout.toUInt64

def Watch.traffic (timeout : Int64) (w : Watch) (since : UInt64) : Nat := (w.arrivals.filter (recent timeout since)).length

section Recent
variable {timeout : Int64} {since lastSeen : UInt64}

theorem recent_after (later : since ≤ lastSeen) : recent timeout since lastSeen = true := by
  rw [recent,Bool.not_eq_true',Bool.eq_false_iff]
  intro expired
  have old := ((conntrackExpired_exact _ _ _).mp expired).2
  have order := UInt64.le_iff_toNat_le.mp later
  omega

end Recent

section Packet
variable {m : Maps} {h : Helpers} {skb : Frame} {t : Tuple} {now : UInt64} {ct : CtMap} {fwdCt : FwdCtMap}
  {snat : Option UInt32} {target : Option Rewrite}

structure Leaves (m : Maps) (now : UInt64) (r : NodeportCtKey) (k : NodeportFwdCtKey) (ct : CtMap) (fwdCt : FwdCtMap) : Prop where
  stamped : ∀ x w, ct.lookup x = some w → m.ct.lookup x = some w ∨ (x = r ∧ w.lastSeenNs = now)
  pinned : ∀ x, fwdCt.lookup x ≠ none → m.fwdCt.lookup x ≠ none ∨ x = k

theorem update_leaves {r : NodeportCtKey} {w : NodeportCtValue} (done : m.ct.update r w = some ct) (stamped : w.lastSeenNs = now) :
    ∀ x y, ct.lookup x = some y → m.ct.lookup x = some y ∨ (x = r ∧ y.lastSeenNs = now) := by
  intro x y found
  rw [BoundedMap.lookup_update done] at found
  split at found
  · rename_i here
    cases Option.some.inj found
    exact .inr ⟨here,stamped⟩
  · exact .inl found

theorem handled_leaves (handled : Handled m t now ct fwdCt snat target) : ∃ r, Leaves m now r (forwardKey t) ct fwdCt := by
  cases handled with
  | response found refreshed => exact ⟨_,update_leaves refreshed rfl,fun _ => .inl⟩
  | passed => exact ⟨responseKey t,fun _ _ => .inl,fun _ => .inl⟩
  | established _ _ _ refreshed => exact ⟨_,update_leaves refreshed rfl,fun _ => .inl⟩
  | unrefreshed => exact ⟨responseKey t,fun _ _ => .inl,fun _ => .inl⟩
  | refused => exact ⟨responseKey t,fun _ _ => .inl,fun _ => .inl⟩
  | rolledBack _ _ recorded _ =>
    have grown := update_leaves recorded rfl
    refine ⟨_,fun x w found => grown x w ?_,fun _ => .inl⟩
    rw [BoundedMap.lookup_delete] at found
    split at found
    · cases found
    · exact found
  | installed _ _ recorded pinned =>
    refine ⟨_,update_leaves recorded rfl,fun x found => ?_⟩
    rw [BoundedMap.lookup_update pinned] at found
    split at found
    · rename_i here
      exact .inr here
    · exact .inl found

theorem packet_leaves {hdr : Headers} (parsed : parseTcpPacket skb = some hdr) :
    ∃ r k, Leaves m h.ktimeGetNs r k (outMaps h skb m).ct (outMaps h skb m).fwdCt := by
  obtain ⟨target,outcome⟩ := @nodeportTc_outcome h skb hdr m parsed
  obtain ⟨r,leaves⟩ := handled_leaves outcome.handled
  exact ⟨r,_,leaves⟩

end Packet

-- After a finished collection, nothing in ct_map is older than it allows, and there
-- are no more forward entries than packets that came late enough.
structure Bounded (timeout : Int64) (w : Watch) (since : UInt64) : Prop where
  past : since ≤ w.state.clock
  fresh : ∀ r v, w.state.maps.ct.lookup r = some v → recent timeout since v.lastSeenNs = true
  forwards : w.state.maps.fwdCt.size ≤ w.traffic timeout since

def InPhase (timeout : Int64) (w : Watch) : Collector → Prop
  | .waiting => True
  | .started nowMonoNS => nowMonoNS = w.begun
  | .ctRead nowMonoNS ctEntries => nowMonoNS = w.begun ∧
      (∀ r v, w.state.maps.ct.lookup r = some v → w.begun ≤ v.lastSeenNs ∨ (r,v) ∈ ctEntries) ∧
      (ctEntries.filter fun e => recent timeout w.begun e.2.lastSeenNs).length ≤ w.traffic timeout w.begun
  | .planned staleCT staleFwd =>
      (∀ r v, w.state.maps.ct.lookup r = some v → recent timeout w.begun v.lastSeenNs = true ∨ r ∈ staleCT) ∧
      w.state.maps.fwdCt.spared staleFwd ≤ w.traffic timeout w.begun

structure Kept (timeout : Int64) (w : Watch) : Prop where
  counted : ∀ p : UInt64 → Bool, w.state.maps.ct.count (fun v => p v.lastSeenNs) ≤ (w.arrivals.filter p).length
  enabled : w.state.collector ≠ .waiting → ¬ timeout ≤ 0 ∧ w.begun ≤ w.state.clock
  phase : InPhase timeout w w.state.collector
  swept : ∀ since, w.swept = some since → Bounded timeout w since

section Watch
variable {timeout : Int64} {w : Watch} {input : Input} {s : State} {now : UInt64}

theorem kept_start (m : Maps) : Kept timeout (.start m) :=
  ⟨fun _ => Nat.zero_le _,fun away => absurd rfl away,trivial,fun _ none => (by cases none)⟩

theorem watch_same (same : (step timeout w.state input).collector = w.state.collector) :
    watch timeout w input = ⟨step timeout w.state input,noted w input,w.begun,w.swept⟩ := by
  simp only [watch,same]
  cases w.state.collector <;> rfl

theorem kept_tick (kept : Kept timeout w) (later : w.state.clock ≤ s.clock) (maps : s.maps = w.state.maps)
    (collector : s.collector = w.state.collector) : Kept timeout {w with state := s} := by
  obtain ⟨counted,enabled,phase,swept⟩ := kept
  refine ⟨?_,?_,?_,?_⟩
  · rw [maps]
    exact counted
  · rw [collector]
    exact fun away => ⟨(enabled away).1,UInt64.le_trans (enabled away).2 later⟩
  · rw [collector]
    revert phase
    cases w.state.collector with
    | waiting => exact id
    | started => exact id
    | ctRead =>
      simp only [InPhase,maps]
      exact id
    | planned =>
      simp only [InPhase,maps]
      exact id
  · intro since ended
    obtain ⟨past,fresh,forwards⟩ := swept since ended
    exact ⟨UInt64.le_trans past later,maps ▸ fresh,maps ▸ forwards⟩

theorem traffic_arrives (w : Watch) {since : UInt64} (later : since ≤ now) :
    Watch.traffic timeout ⟨s,w.arrivals ++ [now],w.begun,w.swept⟩ since = w.traffic timeout since + 1 := by
  simp [Watch.traffic,List.filter_append,recent_after later]

theorem kept_packet {r : NodeportCtKey} {k : NodeportFwdCtKey} (kept : Kept timeout w) (later : w.state.clock ≤ now)
    (clock : s.clock = now) (collector : s.collector = w.state.collector)
    (leaves : Leaves w.state.maps now r k s.maps.ct s.maps.fwdCt) : Kept timeout ⟨s,w.arrivals ++ [now],w.begun,w.swept⟩ := by
  obtain ⟨counted,enabled,phase,swept⟩ := kept
  refine ⟨fun p => ?_,?_,?_,?_⟩
  · rw [List.filter_append,List.length_append]
    cases own : p now with
    | true =>
      have grown := BoundedMap.count_within (p := fun v => p v.lastSeenNs) [r] fun x v found good =>
        (leaves.stamped x v found).imp (fun old => ⟨v,old,good⟩) fun new => List.mem_singleton.mpr new.1
      refine Nat.le_trans grown (Nat.add_le_add (counted p) ?_)
      simp [own]
    | false =>
      have grown := BoundedMap.count_within (p := fun v => p v.lastSeenNs) [] fun x v found good =>
        (leaves.stamped x v found).imp (fun old => ⟨v,old,good⟩) fun new => by
          rw [new.2,own] at good
          cases good
      exact Nat.le_trans grown (Nat.add_le_add (counted p) (Nat.zero_le _))
  · rw [collector,clock]
    exact fun away => ⟨(enabled away).1,UInt64.le_trans (enabled away).2 later⟩
  · rw [collector]
    revert phase
    cases place : w.state.collector with
    | waiting => exact id
    | started => exact id
    | ctRead nowMonoNS ctEntries =>
      have reached := UInt64.le_trans (enabled (by rw [place]; exact Collector.noConfusion)).2 later
      rintro ⟨same,listed,short⟩
      refine ⟨same,fun x v found => ?_,?_⟩
      · rcases leaves.stamped x v found with old | new
        · exact listed x v old
        · exact .inl (new.2 ▸ reached)
      · rw [traffic_arrives w reached]
        exact Nat.le_succ_of_le short
    | planned staleCT staleFwd =>
      have reached := UInt64.le_trans (enabled (by rw [place]; exact Collector.noConfusion)).2 later
      rintro ⟨listed,short⟩
      refine ⟨fun x v found => ?_,?_⟩
      · rcases leaves.stamped x v found with old | new
        · exact listed x v old
        · exact .inl (recent_after (new.2 ▸ reached))
      · rw [traffic_arrives w reached]
        have grown : s.maps.fwdCt.spared staleFwd ≤ w.state.maps.fwdCt.spared staleFwd + 1 :=
          BoundedMap.spared_within [k] fun x found spare =>
            (leaves.pinned x found).imp (fun old => ⟨old,spare⟩) List.mem_singleton.mpr
        exact Nat.le_trans grown (Nat.succ_le_succ short)
  · intro since ended
    obtain ⟨past,fresh,forwards⟩ := swept since ended
    have reached := UInt64.le_trans past later
    refine ⟨clock ▸ reached,fun x v found => ?_,?_⟩
    · rcases leaves.stamped x v found with old | new
      · exact fresh x v old
      · exact recent_after (new.2 ▸ reached)
    · have grown : s.maps.fwdCt.spared [] ≤ w.state.maps.fwdCt.spared [] + 1 :=
        BoundedMap.spared_within [k] fun x found spare =>
          (leaves.pinned x found).imp (fun old => ⟨old,spare⟩) List.mem_singleton.mpr
      rw [BoundedMap.spared_all,BoundedMap.spared_all] at grown
      rw [traffic_arrives w reached]
      exact Nat.le_trans grown (Nat.succ_le_succ forwards)

theorem kept_deleteCT {staleCT : List NodePortCTKey} {staleFwd : List NodePortFwdCTKey} {key : NodePortCTKey}
    (kept : Kept timeout w) (place : w.state.collector = .planned staleCT staleFwd) :
    Kept timeout {w with state := {w.state with
      maps := {w.state.maps with ct := w.state.maps.ct.delete key}
      collector := .planned (staleCT.filter (· ≠ key)) staleFwd}} := by
  obtain ⟨counted,enabled,phase,swept⟩ := kept
  have left : ∀ r v, (w.state.maps.ct.delete key).lookup r = some v → r ≠ key ∧ w.state.maps.ct.lookup r = some v := by
    intro r v found
    rw [BoundedMap.lookup_delete] at found
    split at found
    · cases found
    · rename_i apart
      exact ⟨apart,found⟩
  rw [place] at phase
  refine ⟨fun p => Nat.le_trans (BoundedMap.count_delete _ _ _) (counted p),fun _ => enabled (by rw [place]; exact Collector.noConfusion),
    ⟨fun r v found => ?_,phase.2⟩,fun since ended => ?_⟩
  · obtain ⟨apart,old⟩ := left r v found
    exact (phase.1 r v old).imp id fun listed => List.mem_filter.mpr ⟨listed,decide_eq_true apart⟩
  · obtain ⟨past,fresh,forwards⟩ := swept since ended
    exact ⟨past,fun r v found => fresh r v (left r v found).2,forwards⟩

theorem kept_deleteFwd {staleCT : List NodePortCTKey} {staleFwd : List NodePortFwdCTKey} {key : NodePortFwdCTKey}
    (kept : Kept timeout w) (place : w.state.collector = .planned staleCT staleFwd) :
    Kept timeout {w with state := {w.state with
      maps := {w.state.maps with fwdCt := w.state.maps.fwdCt.delete key}
      collector := .planned staleCT (staleFwd.filter (· ≠ key))}} := by
  obtain ⟨counted,enabled,phase,swept⟩ := kept
  have left : ∀ k, (w.state.maps.fwdCt.delete key).lookup k ≠ none → k ≠ key ∧ w.state.maps.fwdCt.lookup k ≠ none := by
    intro k found
    rw [BoundedMap.lookup_delete] at found
    split at found
    · exact absurd rfl found
    · rename_i apart
      exact ⟨apart,found⟩
  rw [place] at phase
  refine ⟨counted,fun _ => enabled (by rw [place]; exact Collector.noConfusion),⟨phase.1,?_⟩,fun since ended => ?_⟩
  · have fewer : (w.state.maps.fwdCt.delete key).spared (staleFwd.filter (· ≠ key)) ≤ w.state.maps.fwdCt.spared staleFwd + 0 := by
      refine BoundedMap.spared_within [] fun k found spare => .inl ?_
      obtain ⟨apart,old⟩ := left k found
      exact ⟨old,fun listed => spare (List.mem_filter.mpr ⟨listed,decide_eq_true apart⟩)⟩
    exact Nat.le_trans fewer phase.2
  · obtain ⟨past,fresh,forwards⟩ := swept since ended
    have fewer : (w.state.maps.fwdCt.delete key).spared [] ≤ w.state.maps.fwdCt.spared [] + 0 :=
      BoundedMap.spared_within [] fun k found spare => .inl ⟨(left k found).2,spare⟩
    rw [BoundedMap.spared_all,BoundedMap.spared_all] at fewer
    exact ⟨past,fresh,Nat.le_trans fewer forwards⟩

theorem kept_readFwd {nowMonoNS : UInt64} {ctEntries : List (NodePortCTKey × NodePortCTValue)}
    (kept : Kept timeout w) (place : w.state.collector = .ctRead nowMonoNS ctEntries) :
    let plan := buildConntrackGCPlan nowMonoNS timeout ctEntries w.state.maps.fwdCt.keys
    Kept timeout {w with state := {w.state with collector := .planned plan.staleCT plan.staleFwd}} := by
  intro plan
  obtain ⟨counted,enabled,phase,swept⟩ := kept
  have running := enabled (by rw [place]; exact Collector.noConfusion)
  rw [place] at phase
  obtain ⟨rfl,listed,short⟩ := phase
  refine ⟨counted,fun _ => running,⟨fun r v found => ?_,?_⟩,fun since ended => ?_⟩
  · cases fresh : recent timeout w.begun v.lastSeenNs with
    | true => exact .inl rfl
    | false =>
      rcases listed r v found with later | read
      · rw [recent_after later] at fresh
        cases fresh
      · rw [recent,Bool.not_eq_false'] at fresh
        exact .inr ((plan_staleCT running.1 r).mpr ⟨v,read,fresh⟩)
  · refine Nat.le_trans (BoundedMap.spared_short ((ctEntries.filter fun e => recent timeout w.begun e.2.lastSeenNs).map
      fun e => forwardKeyFromCT e.1 e.2) fun k present spare => ?_) (by rwa [List.length_map])
    have own := mt (plan_staleFwd running.1 k).mpr spare
    push Not at own
    obtain ⟨r,v,read,fresh,same⟩ := own.2 ((BoundedMap.mem_keys _ k).mpr present)
    refine List.mem_map.mpr ⟨(r,v),List.mem_filter.mpr ⟨read,?_⟩,same⟩
    simp [recent,fresh]
  · obtain ⟨past,fresh,forwards⟩ := swept since ended
    exact ⟨past,fresh,forwards⟩

theorem watch_idle {action : Action} (idle : collect timeout w.state action = w.state) : watch timeout w (.collect action) = w := by
  have same : step timeout w.state (.collect action) = w.state := idle
  rw [watch_same (congrArg State.collector same),same]
  rfl

theorem kept_start_collection {nowMonoNS : UInt64} (kept : Kept timeout w)
    (positive : ¬ timeout ≤ 0) (later : w.state.clock ≤ nowMonoNS) :
    Kept timeout ⟨{w.state with clock := nowMonoNS, collector := .started nowMonoNS},w.arrivals,nowMonoNS,w.swept⟩ := by
  refine ⟨kept.counted,fun _ => ⟨positive,UInt64.le_refl _⟩,rfl,fun since ended => ?_⟩
  obtain ⟨past,fresh,forwards⟩ := kept.swept since ended
  exact ⟨UInt64.le_trans past later,fresh,forwards⟩

theorem kept_readCT {nowMonoNS : UInt64} (kept : Kept timeout w) (place : w.state.collector = .started nowMonoNS) :
    Kept timeout {w with state := {w.state with collector := .ctRead nowMonoNS w.state.maps.ct.entries}} := by
  obtain ⟨counted,enabled,phase,swept⟩ := kept
  have running := enabled (by rw [place]; exact Collector.noConfusion)
  rw [place] at phase
  refine ⟨counted,fun _ => running,⟨phase,fun r v found => .inr ((BoundedMap.mem_entries _ r v).mpr found),counted _⟩,
    fun since ended => ?_⟩
  obtain ⟨past,fresh,forwards⟩ := swept since ended
  exact ⟨past,fresh,forwards⟩

theorem kept_finish (kept : Kept timeout w) (place : w.state.collector = .planned [] []) :
    Kept timeout ⟨{w.state with collector := .waiting},w.arrivals,w.begun,some w.begun⟩ := by
  obtain ⟨counted,enabled,phase,swept⟩ := kept
  have running := enabled (by rw [place]; exact Collector.noConfusion)
  rw [place] at phase
  refine ⟨counted,fun away => absurd rfl away,trivial,fun since ended => ?_⟩
  cases Option.some.inj ended
  refine ⟨running.2,fun r v found => ?_,?_⟩
  · exact (phase.1 r v found).resolve_right List.not_mem_nil
  · exact BoundedMap.spared_all w.state.maps.fwdCt ▸ phase.2

theorem kept_collect (kept : Kept timeout w) (action : Action) : Kept timeout (watch timeout w (.collect action)) := by
  by_cases idle : collect timeout w.state action = w.state
  · rwa [watch_idle idle]
  cases place : w.state.collector with
  | waiting =>
    cases action with
    | start nowMonoNS =>
      simp only [collect,place] at idle
      split at idle
      · exact absurd rfl idle
      · rename_i taken
        obtain ⟨positive,later⟩ := not_or.mp taken
        simp only [watch,step,collect,place,if_neg taken]
        exact kept_start_collection kept positive (UInt64.not_lt.mp later)
    | _ => exact absurd (by simp only [collect,place]) idle
  | started nowMonoNS =>
    cases action with
    | readCT =>
      simp only [watch,step,collect,place]
      exact kept_readCT kept place
    | _ => exact absurd (by simp only [collect,place]) idle
  | ctRead nowMonoNS ctEntries =>
    cases action with
    | readFwd =>
      simp only [watch,step,collect,place]
      exact kept_readFwd kept place
    | _ => exact absurd (by simp only [collect,place]) idle
  | planned staleCT staleFwd =>
    cases action with
    | deleteCT key =>
      simp only [collect,place] at idle
      split at idle
      · rename_i listed
        simp only [watch,step,collect,place,if_pos listed]
        exact kept_deleteCT kept place
      · exact absurd rfl idle
    | deleteFwd key =>
      cases staleCT with
      | nil =>
        simp only [collect,place] at idle
        split at idle
        · rename_i listed
          simp only [watch,step,collect,place,if_pos listed]
          exact kept_deleteFwd kept place
        · exact absurd rfl idle
      | cons => exact absurd (by simp only [collect,place]) idle
    | finish =>
      cases staleCT with
      | nil =>
        cases staleFwd with
        | nil =>
          simp only [watch,step,collect,place]
          exact kept_finish kept place
        | cons => exact absurd (by simp only [collect,place]) idle
      | cons => exact absurd (by simp only [collect,place]) idle
    | _ => exact absurd (by simp only [collect,place]) idle

theorem kept_watch (kept : Kept timeout w) (input : Input) : Kept timeout (watch timeout w input) := by
  cases input with
  | collect action => exact kept_collect kept action
  | packet h skb =>
    have same : (step timeout w.state (.packet h skb)).collector = w.state.collector := by
      simp only [step]
      split <;> rfl
    rw [watch_same same]
    by_cases early : h.ktimeGetNs < w.state.clock
    · simp only [step,noted,if_pos early]
      exact kept
    simp only [step,noted,if_neg early]
    have later := UInt64.not_lt.mp early
    cases parsed : parseTcpPacket skb with
    | none =>
      have maps : outMaps h skb w.state.maps = w.state.maps := congrArg Ctx.maps (unparsed_out parsed)
      rw [maps]
      exact kept_tick kept later rfl rfl
    | some hdr =>
      obtain ⟨r,k,leaves⟩ := @packet_leaves w.state.maps h skb hdr parsed
      exact kept_packet kept later rfl rfl leaves

theorem watch_state (timeout : Int64) (w : Watch) (input : Input) :
    (watch timeout w input).state = step timeout w.state input := by
  simp only [watch]
  split <;> rfl

end Watch

section Run
variable {timeout : Int64} {m : Maps} {inputs : List Input} {since : UInt64}

def ran (timeout : Int64) (m : Maps) (inputs : List Input) : Watch := inputs.foldl (watch timeout) (.start m)

theorem ran_state (timeout : Int64) (m : Maps) (inputs : List Input) :
    (ran timeout m inputs).state = inputs.foldl (step timeout) (begin m) :=
  (List.foldl_hom Watch.state fun w input => (watch_state timeout w input).symm).symm

theorem kept_ran (timeout : Int64) (m : Maps) (inputs : List Input) : Kept timeout (ran timeout m inputs) := by
  have always : Along (watch timeout) (Kept timeout) (.start m) inputs :=
    along_invariant (fun _ input kept => kept_watch kept input) (kept_start m)
  exact along_last always

-- However packets fall between the steps: once a collection that began at `since` has
-- ended, nothing recorded is older than it allows, and the tables are as small as that.
theorem sweep_bounds (ended : (ran timeout m inputs).swept = some since) :
    (ran timeout m inputs).state = inputs.foldl (step timeout) (begin m) ∧
    (∀ r v, (ran timeout m inputs).state.maps.ct.lookup r = some v →
      conntrackExpired since v.lastSeenNs timeout.toUInt64 = false) ∧
    (ran timeout m inputs).state.maps.ct.size ≤ (ran timeout m inputs).traffic timeout since ∧
    (ran timeout m inputs).state.maps.fwdCt.size ≤ (ran timeout m inputs).traffic timeout since ∧
    ((ran timeout m inputs).traffic timeout since < 16384 →
      (∀ r v, (ran timeout m inputs).state.maps.ct.update r v ≠ none) ∧
      ∀ k v, (ran timeout m inputs).state.maps.fwdCt.update k v ≠ none) := by
  have kept := kept_ran timeout m inputs
  obtain ⟨_,fresh,forwards⟩ := kept.swept since ended
  have entries : (ran timeout m inputs).state.maps.ct.size ≤ (ran timeout m inputs).traffic timeout since := by
    have all := BoundedMap.count_all (ran timeout m inputs).state.maps.ct (p := fun v => recent timeout since v.lastSeenNs)
      fun e member => fresh e.1 e.2 ((BoundedMap.mem_entries _ _ _).mp member)
    rw [← all]
    exact kept.counted (recent timeout since)
  refine ⟨ran_state timeout m inputs,fun r v found => ?_,entries,forwards,fun room => ⟨fun r v refused => ?_,fun k v refused => ?_⟩⟩
  · have young := fresh r v found
    rwa [recent,Bool.not_eq_true'] at young
  · have full := ((BoundedMap.update_eq_none _ r v).mp refused).2
    omega
  · have full := ((BoundedMap.update_eq_none _ k v).mp refused).2
    omega

end Run

-- One connection falls idle, another one opens between the two reads, and the first
-- one comes back after the collection.
def sweptBetween : List Input :=
  [.packet (plainHelpers 1000) (tcpFrame longLived),.collect (.start (UInt64.ofNat (idle + 2000))),.collect .readCT,
   .packet (plainHelpers (UInt64.ofNat (idle + 3000))) (tcpFrame passing),.collect .readFwd,
   .collect (.deleteCT (reverseKey (pinnedTo 0))),.collect (.deleteFwd (forwardKey longLived)),
   .collect (.deleteFwd (forwardKey passing)),.collect .finish,
   .packet (plainHelpers (UInt64.ofNat (idle + 4000))) (tcpFrame longLived)]

theorem sweptBetween_bounds : (ran (Int64.ofNat idle) oneService sweptBetween).state.maps.ct.size = 2 ∧
    (ran (Int64.ofNat idle) oneService sweptBetween).state.maps.ct.size ≤
      (ran (Int64.ofNat idle) oneService sweptBetween).traffic (Int64.ofNat idle) (UInt64.ofNat (idle + 2000)) :=
  ⟨by decide +kernel,(sweep_bounds (by decide +kernel)).2.2.1⟩

end Aipr.CollectorRace
