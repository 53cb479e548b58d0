import Aipr.FlowIsolation
import Aipr.NodeportCalls
import Aipr.Rotation

namespace Aipr.RoundRobin
open NodeportTc NodeportCalls Interaction Transition Rotation
open FlowIsolation (frontend pod snatIp longLived passing)

abbrev Packet := Helpers × Frame

def step (m : Maps) (p : Packet) : Maps := outMaps p.1 p.2 m

def slotRead (key : NodeportKey) (event : (c : MapCall) × c.Answer) : Option UInt32 :=
  match event.1 with
  | .lookupBackend k => if k.service = key then some k.slot else none
  | _ => none

def reads (key : NodeportKey) (p : Calls α) (m : Maps) : List UInt32 := (p.trace MapCall.handle m).filterMap (slotRead key)

def slotReads (key : NodeportKey) (m : Maps) (p : Packet) : List UInt32 := reads key (NodeportCalls.nodeportTc p.1 p.2) m

def selections (key : NodeportKey) : Maps → List Packet → List UInt32
  | _,[] => []
  | m,p :: rest => slotReads key m p ++ selections key (step m p) rest

def rrSlot (m : Maps) (key : NodeportKey) (count : UInt32) : UInt32 :=
  if (m.rrState.lookup key).getD 0 ≥ count then 0 else (m.rrState.lookup key).getD 0

def nextSlot (slot count : UInt32) : UInt32 := if slot + 1 ≥ count then 0 else slot + 1

inductive Turn (key : NodeportKey) (m : Maps) : List UInt32 → RrStateMap → Prop where
  | idle : Turn key m [] m.rrState
  | other (apart : service ≠ key) : Turn key m [] ((m.rrState.update service next).getD m.rrState)
  | missing (served : m.service.lookup key = some value) (counted : value.backendCount ≠ 0)
      (hole : m.backend.lookup ⟨key,rrSlot m key value.backendCount⟩ = none) :
      Turn key m [rrSlot m key value.backendCount] m.rrState
  | taken (served : m.service.lookup key = some value) (counted : value.backendCount ≠ 0)
      (found : m.backend.lookup ⟨key,rrSlot m key value.backendCount⟩ = some backend) :
      Turn key m [rrSlot m key value.backendCount]
        ((m.rrState.update key (nextSlot (rrSlot m key value.backendCount) value.backendCount)).getD m.rrState)

section Quiet

def quiet : Monitor MapCall MapCall.Answer Unit where
  allows _ c := (∀ k, c ≠ .lookupBackend k) ∧ ∀ k slot, c ≠ .updateRrState k slot
  observe _ _ _ := ()

abbrev Quiet (p : Calls α) : Prop := quiet.Safe (fun _ _ => True) () p

variable {key : NodeportKey} {m : Maps}

theorem quiet_reads (key : NodeportKey) {p : Calls α} (still : Quiet p) (m : Maps) :
    reads key p m = [] ∧ (p.run MapCall.handle m).2.rrState = m.rrState := by
  induction p generalizing m with
  | ret value => exact ⟨rfl,rfl⟩
  | call c next ih =>
    obtain ⟨⟨unread,unmoved⟩,later⟩ := still
    obtain ⟨unread',kept⟩ := ih (c.handle m).1 (later _) (c.handle m).2
    rw [reads] at unread'
    rw [reads,Program.trace_call,Program.run_call,List.filterMap_cons,unread',kept]
    cases c with
    | lookupBackend k => exact absurd rfl (unread k)
    | updateRrState k slot => exact absurd rfl (unmoved k slot)
    | _ => exact ⟨rfl,rfl⟩

theorem quiet_ask {c : MapCall} {f : c.Answer → Calls α}
    (still : (∀ k, c ≠ .lookupBackend k) ∧ ∀ k slot, c ≠ .updateRrState k slot) :
    Quiet (ask c >>= f) ↔ ∀ reply, Quiet (f reply) := by
  rw [ask,Program.perform_bind,Quiet,Monitor.safe_call]
  exact and_iff_right still

theorem quiet_bump {index : StatsIndex} {f : Unit → Calls α} : Quiet (NodeportCalls.bumpStat index >>= f) ↔ Quiet (f ()) := by
  rw [NodeportCalls.bumpStat,quiet_ask ⟨by simp,by simp⟩]
  exact ⟨fun all => all (),fun here _ => here⟩

theorem bump_quiet (index : StatsIndex) : Quiet (NodeportCalls.bumpStat index) := ⟨⟨by simp,by simp⟩,fun _ => trivial⟩

theorem quiet_pure (value : α) : Quiet (pure value : Calls α) := trivial

variable (h : Helpers) (hdr : Headers) (t : Tuple) (skb : Frame)

theorem redirect_quiet (ifindex : UInt32) : Quiet (NodeportCalls.redirectOrFallback ifindex skb) := by
  unfold NodeportCalls.redirectOrFallback
  split
  · exact quiet_bump.mpr (quiet_pure _)
  · exact quiet_bump.mpr (quiet_bump.mpr (quiet_pure _))

theorem tail_quiet (new : Tuple) (counter : StatsIndex) (ifindex : UInt32) :
    Quiet (NodeportCalls.rewriteAndRedirect h hdr new counter ifindex skb) := by
  unfold NodeportCalls.rewriteAndRedirect
  split
  · exact quiet_bump.mpr (redirect_quiet _ _)
  · exact quiet_bump.mpr (quiet_bump.mpr (quiet_pure _))

theorem established_quiet (v : NodeportFwdCtValue) : Quiet (NodeportCalls.requestEstablished h hdr t v skb) := by
  unfold NodeportCalls.requestEstablished NodeportCalls.updateConntrackEntry
  rw [quiet_bump,quiet_ask ⟨by simp,by simp⟩]
  exact fun _ => tail_quiet _ _ _ _ _ _

theorem allocate_quiet : Quiet NodeportCalls.allocateSnatPort := by
  unfold NodeportCalls.allocateSnatPort
  rw [quiet_ask ⟨by simp,by simp⟩]
  intro next
  rw [quiet_ask ⟨by simp,by simp⟩]
  exact fun _ => quiet_pure _

theorem install_quiet (serviceState : NodeportValue) (backend : NodeportBackendValue) (config : Option NodeportConfig) :
    Quiet (install h hdr t serviceState backend config skb) := by
  unfold install NodeportCalls.updateConntrackEntry
  rw [Quiet,Monitor.safe_bind]
  refine Monitor.safe_mono ?_ allocate_quiet
  rintro ⟨⟩ snatPort _
  refine (quiet_ask ⟨by simp,by simp⟩).mpr fun recorded => ?_
  cases recorded with
  | false => exact quiet_bump.mpr (quiet_bump.mpr (quiet_pure _))
  | true =>
    refine quiet_bump.mpr ((quiet_ask ⟨by simp,by simp⟩).mpr fun pinned => ?_)
    cases pinned with
    | false =>
      exact (quiet_ask ⟨by simp,by simp⟩).mpr fun _ => quiet_bump.mpr (quiet_bump.mpr (quiet_pure _))
    | true => exact quiet_bump.mpr (tail_quiet _ _ _ _ _ _)

theorem response_quiet : Quiet (NodeportCalls.handleResponse h hdr skb) := by
  unfold NodeportCalls.handleResponse NodeportCalls.updateConntrackEntry
  dsimp only
  rw [quiet_ask ⟨by simp,by simp⟩]
  intro found
  cases found with
  | none =>
    dsimp only
    split
    · exact quiet_bump.mpr (quiet_bump.mpr (quiet_bump.mpr (quiet_pure _)))
    · exact quiet_pure _
  | some w =>
    dsimp only
    rw [quiet_ask ⟨by simp,by simp⟩]
    intro _
    rw [quiet_ask ⟨by simp,by simp⟩]
    intro config
    exact quiet_bump.mpr (tail_quiet _ _ _ _ _ _)

theorem reads_before (key : NodeportKey) {p : Calls β} {f : β → Calls α} (still : ∀ value, Quiet (f value)) (m : Maps) :
    reads key (p >>= f) m = reads key p m ∧ ((p >>= f).run MapCall.handle m).2.rrState = (p.run MapCall.handle m).2.rrState := by
  obtain ⟨unread,kept⟩ := quiet_reads key (still (p.run MapCall.handle m).1) (p.run MapCall.handle m).2
  rw [reads] at unread
  rw [reads,Program.trace_bind,Program.run_bind,List.filterMap_append,unread,List.append_nil]
  exact ⟨rfl,kept⟩

theorem reads_after {p : Calls β} {f : β → Calls α} (still : Quiet p) (m : Maps) :
    reads key (p >>= f) m = reads key (f (p.run MapCall.handle m).1) (p.run MapCall.handle m).2 := by
  have unread := (quiet_reads key still m).1
  rw [reads] at unread
  rw [reads,Program.trace_bind,List.filterMap_append,unread,List.nil_append,reads]

theorem new_reads (key : NodeportKey) (serviceState : NodeportValue) (config : Option NodeportConfig) :
    reads key (NodeportCalls.requestNew h hdr t serviceState config skb) m =
      reads key (NodeportCalls.selectBackend (serviceKey t) serviceState) m ∧
    ((NodeportCalls.requestNew h hdr t serviceState config skb).run MapCall.handle m).2.rrState =
      ((NodeportCalls.selectBackend (serviceKey t) serviceState).run MapCall.handle m).2.rrState := by
  unfold NodeportCalls.requestNew
  refine reads_before key (fun selected => ?_) m
  cases selected with
  | none => exact quiet_bump.mpr (quiet_bump.mpr (quiet_bump.mpr (quiet_pure _)))
  | some backend => exact quiet_bump.mpr (install_quiet _ _ _ _ _ _ _)

end Quiet

section Turns
variable {key : NodeportKey} {m : Maps}

def Turns (key : NodeportKey) (p : Calls α) (m : Maps) : Prop :=
  Turn key m (reads key p m) (p.run MapCall.handle m).2.rrState

theorem Turn.congr {s : Maps} {reads : List UInt32} {rrState : RrStateMap} (turn : Turn key s reads rrState)
    (service : s.service = m.service) (backend : s.backend = m.backend) (state : s.rrState = m.rrState) :
    Turn key m reads rrState := by
  have slot : ∀ count, rrSlot s key count = rrSlot m key count := fun count => by rw [rrSlot,rrSlot,state]
  cases turn with
  | idle => exact state ▸ .idle
  | other apart => exact state ▸ .other apart
  | missing served counted hole =>
    rw [slot,backend] at hole
    rw [service] at served
    rw [slot,state]
    exact .missing served counted hole
  | taken served counted found =>
    rw [slot,backend] at found
    rw [service] at served
    rw [slot,state]
    exact .taken served counted found

theorem Turns.of_quiet {p : Calls α} (still : Quiet p) (m : Maps) : Turns key p m := by
  obtain ⟨unread,kept⟩ := quiet_reads key still m
  rw [Turns,unread,kept]
  exact .idle

theorem Turns.before {p : Calls β} {f : β → Calls α} (turns : Turns key p m) (still : ∀ value, Quiet (f value)) :
    Turns key (p >>= f) m := by
  obtain ⟨same,left⟩ := reads_before key (p := p) still m
  rw [Turns,same,left]
  exact turns

theorem Turns.after {p : Calls β} {f : β → Calls α} (still : Quiet p)
    (service : (p.run MapCall.handle m).2.service = m.service) (backend : (p.run MapCall.handle m).2.backend = m.backend)
    (turns : Turns key (f (p.run MapCall.handle m).1) (p.run MapCall.handle m).2) : Turns key (p >>= f) m := by
  rw [Turns,reads_after still,Program.run_bind]
  exact turns.congr service backend (quiet_reads key still m).2

theorem select_turns {service : NodeportKey} {value : NodeportValue} (served : m.service.lookup service = some value) :
    Turns key (NodeportCalls.selectBackend service value) m := by
  unfold Turns reads NodeportCalls.selectBackend
  split
  · exact .idle
  · rename_i counted
    simp +instances only [ask,Program.perform_bind,Program.trace_call,Program.run_call,MapCall.handle,List.filterMap_cons,slotRead]
    by_cases own : service = key
    · subst service
      simp only [if_true]
      cases found : m.backend.lookup _ with
      | none => exact .missing served counted found
      | some backend => exact .taken served counted found
    · simp only [own,if_false]
      cases m.backend.lookup _ with
      | none => exact .idle
      | some backend => exact .other own

variable (h : Helpers) (hdr : Headers) (skb : Frame)

theorem new_turns {t : Tuple} {serviceState : NodeportValue} (served : m.service.lookup (serviceKey t) = some serviceState)
    (config : Option NodeportConfig) : Turns key (NodeportCalls.requestNew h hdr t serviceState config skb) m := by
  obtain ⟨selects,left⟩ := new_reads (m := m) h hdr t skb key serviceState config
  rw [Turns,selects,left]
  exact select_turns served

theorem request_turns : Turns key (NodeportCalls.handleRequest h hdr skb) m := by
  unfold Turns reads NodeportCalls.handleRequest
  simp +instances only [ask,Program.perform_bind,Program.trace_call,Program.run_call,MapCall.handle,List.filterMap_cons,slotRead]
  cases served : m.service.lookup (serviceKey (loadTuple skb hdr)) with
  | none => exact .idle
  | some serviceState =>
    simp +instances only [NodeportCalls.bumpStat,ask,Program.perform_bind,Program.trace_call,Program.run_call,MapCall.handle,
      List.filterMap_cons,bumpStat_fwdCt]
    cases m.fwdCt.lookup (forwardKey (loadTuple skb hdr)) with
    | some v =>
      exact (Turns.of_quiet (established_quiet h hdr (loadTuple skb hdr) skb v) (m.bumpStat .nodeportHit)).congr rfl rfl rfl
    | none =>
      exact (new_turns (m := m.bumpStat .nodeportHit) h hdr skb served m.config).congr rfl rfl rfl

theorem packet_turn (key : NodeportKey) (p : Packet) (m : Maps) : Turn key m (slotReads key m p) (step m p).rrState := by
  obtain ⟨h,skb⟩ := p
  have left : (step m (h,skb)).rrState = ((NodeportCalls.nodeportTc h skb).run MapCall.handle m).2.rrState :=
    congrArg (fun out => out.2.maps.rrState) (nodeportTc_atOnce h skb m).symm
  rw [left]
  change Turns key (NodeportCalls.nodeportTc h skb) m
  unfold NodeportCalls.nodeportTc
  cases parseTcpPacket skb with
  | none => exact .idle
  | some hdr =>
    have response := response_atOnce h hdr skb (m.bumpStat .tcpPackets)
    have control := handleResponse_control h hdr ⟨skb,m.bumpStat .tcpPackets,none⟩
    rw [← response] at control
    refine Turns.after (bump_quiet .tcpPackets) rfl rfl ?_
    refine Turns.after (response_quiet h hdr skb) control.service control.backend ?_
    unfold unlessTaken
    split
    · exact .idle
    · refine (request_turns h hdr skb).before fun request => ?_
      split <;> exact quiet_pure _

end Turns

-- A packet that is no reply, is for the service and has no forward entry: the only
-- kind that gets as far as selecting a backend of it.
def Opens (key : NodeportKey) (m : Maps) (p : Packet) : Prop :=
  ∃ hdr, parseTcpPacket p.2 = some hdr ∧ m.ct.lookup (responseKey (loadTuple p.2 hdr)) = none ∧
    serviceKey (loadTuple p.2 hdr) = key ∧ m.fwdCt.lookup (forwardKey (loadTuple p.2 hdr)) = none

section Opens
variable {key : NodeportKey} {m : Maps}

theorem select_reads (service : NodeportKey) (value : NodeportValue) :
    reads key (NodeportCalls.selectBackend service value) m ≠ [] ↔ service = key ∧ value.backendCount ≠ 0 := by
  unfold reads NodeportCalls.selectBackend
  split
  · rename_i none
    simp [none]
  · rename_i counted
    simp +instances only [ask,Program.perform_bind,Program.trace_call,MapCall.handle,List.filterMap_cons,slotRead]
    by_cases own : service = key
    · simp [own,counted]
    · simp only [own,if_false,false_and,iff_false,ne_eq,not_not]
      cases m.backend.lookup _ with
      | none => rfl
      | some backend => rfl

variable {value : NodeportValue} (h : Helpers) (hdr : Headers) (skb : Frame)

theorem request_reads (served : m.service.lookup key = some value) (counted : value.backendCount ≠ 0) :
    reads key (NodeportCalls.handleRequest h hdr skb) m ≠ [] ↔
      serviceKey (loadTuple skb hdr) = key ∧ m.fwdCt.lookup (forwardKey (loadTuple skb hdr)) = none := by
  unfold reads NodeportCalls.handleRequest
  simp +instances only [ask,Program.perform_bind,Program.trace_call,MapCall.handle,List.filterMap_cons,slotRead]
  cases found : m.service.lookup (serviceKey (loadTuple skb hdr)) with
  | none =>
    refine iff_of_false (fun some => some rfl) ?_
    rintro ⟨rfl,_⟩
    cases served.symm.trans found
  | some serviceState =>
    simp +instances only [NodeportCalls.bumpStat,ask,Program.perform_bind,Program.trace_call,MapCall.handle,List.filterMap_cons,
      bumpStat_fwdCt]
    cases owned : m.fwdCt.lookup (forwardKey (loadTuple skb hdr)) with
    | some v =>
      have unread := (quiet_reads key (established_quiet h hdr (loadTuple skb hdr) skb v) (m.bumpStat .nodeportHit)).1
      exact iff_of_false (not_not.mpr unread) (fun both => absurd both.2 (Option.some_ne_none v))
    | none =>
      have selects := (new_reads (m := m.bumpStat .nodeportHit) h hdr (loadTuple skb hdr) skb key serviceState
        m.config).1
      refine (iff_of_eq (congrArg (· ≠ []) selects)).trans ((select_reads _ _).trans ?_)
      constructor
      · exact fun both => ⟨both.1,rfl⟩
      · rintro ⟨rfl,_⟩
        cases served.symm.trans found
        exact ⟨rfl,counted⟩

theorem slotReads_opens (served : m.service.lookup key = some value) (counted : value.backendCount ≠ 0) (p : Packet) :
    slotReads key m p ≠ [] ↔ Opens key m p := by
  obtain ⟨h,skb⟩ := p
  unfold slotReads Opens NodeportCalls.nodeportTc
  dsimp only
  cases parsed : parseTcpPacket skb with
  | none => exact iff_of_false (fun some => some rfl) (fun ⟨_,parsed,_⟩ => by cases parsed)
  | some hdr =>
    dsimp only
    simp only [Option.some.injEq,exists_eq_left']
    have response := response_atOnce h hdr skb (m.bumpStat .tcpPackets)
    obtain ⟨⟨⟨action,left,redirect⟩,maps⟩,ran⟩ : ∃ answered,
        (NodeportCalls.handleResponse h hdr skb).run MapCall.handle (m.bumpStat .tcpPackets) = answered := ⟨_,rfl⟩
    rw [atOnce,ran] at response
    rw [reads_after (bump_quiet .tcpPackets),reads_after (response_quiet h hdr skb)]
    change reads key (unlessTaken ((NodeportCalls.handleResponse h hdr skb).run MapCall.handle (m.bumpStat .tcpPackets)).1 _)
      ((NodeportCalls.handleResponse h hdr skb).run MapCall.handle (m.bumpStat .tcpPackets)).2 ≠ [] ↔ _
    rw [ran]
    unfold NodeportTc.handleResponse at response
    dsimp only [bumpStat_ct] at response
    cases found : m.ct.lookup (responseKey (loadTuple skb hdr)) with
    | some w =>
      rw [found] at response
      have taken : action ≥ 0 := by
        have same : action = _ := congrArg Prod.fst response
        rw [same]
        exact tail_nonneg _ _ _ _ _ _
      rw [unlessTaken,if_pos taken]
      exact iff_of_false (fun some => some rfl) (fun both => absurd both.1 (Option.some_ne_none w))
    | none =>
      have declined : action = -1 ∧ maps.service = m.service ∧ maps.fwdCt = m.fwdCt := by
        rw [found] at response
        dsimp only at response
        split at response <;> cases response <;> simp
      obtain ⟨rfl,service,fwdCt⟩ := declined
      rw [unlessTaken,if_neg (show ¬ (-1 : Int) ≥ 0 by decide),(reads_before _ (fun request => ?_) maps).1,
        request_reads h hdr skb (service ▸ served) counted,fwdCt]
      · exact (and_iff_right rfl).symm
      · unfold unlessTaken
        split <;> exact quiet_pure _

end Opens

section Slots
variable {m : Maps} {key : NodeportKey} {slot count : UInt32}

theorem rrSlot_lt (counted : count ≠ 0) : rrSlot m key count < count := by
  unfold rrSlot
  split
  · exact UInt32.pos_iff_ne_zero.mpr counted
  · rename_i low
    exact UInt32.not_le.mp low

theorem rrSlot_held (held : m.rrState.lookup key = some slot) (low : slot < count) : rrSlot m key count = slot := by
  rw [rrSlot,held]
  exact if_neg (UInt32.not_le.mpr low)

theorem rrSlot_absent (absent : m.rrState.lookup key = none) : rrSlot m key count = 0 := by
  rw [rrSlot,absent]
  exact ite_self 0

-- Below the count the increment cannot overflow.
theorem nextSlot_toNat (low : slot < count) : (nextSlot slot count).toNat = (slot.toNat + 1) % count.toNat := by
  have room := UInt32.lt_iff_toNat_lt.mp low
  have fits := count.toNat_lt
  have succ : (slot + 1).toNat = slot.toNat + 1 := by
    rw [UInt32.toNat_add,UInt32.toNat_one]
    omega
  unfold nextSlot
  split
  · rename_i last
    rw [ge_iff_le,UInt32.le_iff_toNat_le,succ] at last
    rw [Nat.le_antisymm last room,Nat.mod_self,UInt32.toNat_zero]
  · rename_i inner
    rw [ge_iff_le,UInt32.le_iff_toNat_le,succ] at inner
    rw [succ,Nat.mod_eq_of_lt (by omega)]

theorem nextSlot_lt (low : slot < count) : nextSlot slot count < count := by
  rw [UInt32.lt_iff_toNat_lt,nextSlot_toNat low]
  exact Nat.mod_lt _ (Nat.lt_of_le_of_lt (Nat.zero_le _) (UInt32.lt_iff_toNat_lt.mp low))

end Slots

structure Serves (key : NodeportKey) (value : NodeportValue) (m : Maps) : Prop where
  served : m.service.lookup key = some value
  counted : value.backendCount ≠ 0
  filled : ∀ slot, slot < value.backendCount → m.backend.lookup ⟨key,slot⟩ ≠ none

theorem Serves.step {key : NodeportKey} {value : NodeportValue} {m : Maps} (serves : Serves key value m) (p : Packet) :
    Serves key value (step m p) := by
  have control := outMaps_control p.1 p.2 m
  have service : (RoundRobin.step m p).service = m.service := control.service
  have backend : (RoundRobin.step m p).backend = m.backend := control.backend
  exact ⟨service ▸ serves.served,serves.counted,backend ▸ serves.filled⟩

def Stuck (key : NodeportKey) (m : Maps) : Prop := m.rrState.lookup key = none ∧ m.rrState.size = 512

def Accepted (key : NodeportKey) (m : Maps) (p : Packet) : Prop := Opens key m p → m.rrState.Accepts key

-- Every whole round of consecutive selections takes each slot once, and no slot
-- beyond the last is read.
def Exact (n : Nat) (slots : List UInt32) : Prop :=
  (∀ earlier window later, slots = earlier ++ window ++ later → window.length = n →
    (window.map UInt32.toNat).Perm (List.range n)) ∧ ∀ slot ∈ slots, slot.toNat < n

section Runs
variable {key : NodeportKey} {value : NodeportValue} {m : Maps}

theorem stuck_of_refused (refused : ¬ m.rrState.Accepts key) : Stuck key m := by
  apply (BoundedMap.update_eq_none m.rrState key 0).mp
  exact Option.not_isSome_iff_eq_none.mp fun done => refused ((BoundedMap.update_isSome m.rrState key 0).mp done)

-- A packet for a served service either selects nothing of it, and leaves its index
-- alone, or it reads the slot the index stands at.
theorem Serves.turn (serves : Serves key value m) (p : Packet) :
    (slotReads key m p = [] ∧ (RoundRobin.step m p).rrState.lookup key = m.rrState.lookup key ∧
      (Stuck key m → Stuck key (RoundRobin.step m p))) ∨
    (slotReads key m p = [rrSlot m key value.backendCount] ∧
      (RoundRobin.step m p).rrState =
        (m.rrState.update key (nextSlot (rrSlot m key value.backendCount) value.backendCount)).getD m.rrState) := by
  have turn := packet_turn key p m
  unfold Stuck
  generalize slotReads key m p = reads,(RoundRobin.step m p).rrState = rrState at turn ⊢
  cases turn with
  | idle => exact .inl ⟨rfl,rfl,id⟩
  | other apart =>
    have same := fun next => BoundedMap.lookup_attempt m.rrState next apart.symm
    exact .inl ⟨rfl,same _,fun stuck => ⟨(same _).trans stuck.1,BoundedMap.size_attempt stuck.2 _ _⟩⟩
  | missing served counted hole =>
    cases serves.served.symm.trans served
    exact absurd hole (serves.filled _ (rrSlot_lt counted))
  | taken served counted found =>
    cases serves.served.symm.trans served
    exact .inr ⟨rfl,rfl⟩

theorem Serves.opens (serves : Serves key value m) {p : Packet} {slot : UInt32} (reads : slotReads key m p = [slot]) :
    Opens key m p :=
  (slotReads_opens serves.served serves.counted p).mp (by rw [reads]; exact List.cons_ne_nil _ _)

theorem selections_low (serves : Serves key value m) (pkts : List Packet) :
    ∀ slot ∈ selections key m pkts, slot < value.backendCount := by
  induction pkts generalizing m with
  | nil => simp [selections]
  | cons p rest ih =>
    rw [selections]
    intro slot member
    rcases List.mem_append.mp member with here | later
    · rcases serves.turn p with ⟨reads,_,_⟩ | ⟨reads,_⟩
      · rw [reads] at here
        exact absurd here List.not_mem_nil
      · rw [reads,List.mem_singleton] at here
        exact here ▸ rrSlot_lt serves.counted
    · exact ih (serves.step p) slot later

-- As long as the index is written, every selection takes up where the last one
-- left off; the first stands where the table says.
theorem selections_rotate (serves : Serves key value m) {pkts : List Packet}
    (accepted : Each RoundRobin.step (Accepted key) m pkts) :
    Rotates value.backendCount.toNat ((selections key m pkts).map UInt32.toNat) ∧
      ∀ slot, (selections key m pkts).head? = some slot → slot = rrSlot m key value.backendCount := by
  induction pkts generalizing m with
  | nil => exact ⟨rotates_nil,fun slot first => absurd first (by simp [selections])⟩
  | cons p rest ih =>
    obtain ⟨rotates,first⟩ := ih (serves.step p) accepted.2
    have low : rrSlot m key value.backendCount < value.backendCount := rrSlot_lt serves.counted
    rw [selections]
    rcases serves.turn p with ⟨reads,same,_⟩ | ⟨reads,left⟩
    · have index : rrSlot (RoundRobin.step m p) key value.backendCount = rrSlot m key value.backendCount := by
        rw [rrSlot,rrSlot,same]
      rw [reads,List.nil_append]
      exact ⟨rotates,index ▸ first⟩
    · have ready := accepted.1 (serves.opens reads)
      have held := BoundedMap.lookup_attempt_self (nextSlot (rrSlot m key value.backendCount) value.backendCount) ready
      rw [reads,List.singleton_append,List.map_cons]
      refine ⟨rotates_cons (UInt32.lt_iff_toNat_lt.mp low) (fun j second => ?_) rotates,fun slot head => ?_⟩
      · rw [List.head?_map] at second
        obtain ⟨slot,head,rfl⟩ := Option.map_eq_some_iff.mp second
        rw [first slot head,rrSlot_held (left ▸ held) (nextSlot_lt low),nextSlot_toNat low]
      · exact (Option.some.inj head).symm

theorem held_accepted (serves : Serves key value m) (held : m.rrState.lookup key ≠ none) (pkts : List Packet) :
    Each RoundRobin.step (Accepted key) m pkts := by
  induction pkts generalizing m with
  | nil => trivial
  | cons p rest ih =>
    have ready : m.rrState.Accepts key := .inl ((BoundedMap.mem_keys _ _).mpr held)
    refine ⟨fun _ => ready,ih (serves.step p) ?_⟩
    rcases serves.turn p with ⟨_,same,_⟩ | ⟨_,left⟩
    · rwa [same]
    · rw [left,BoundedMap.lookup_attempt_self _ ready]
      exact Option.some_ne_none _

theorem stuck_selections (serves : Serves key value m) (stuck : Stuck key m) (pkts : List Packet) :
    ∀ slot ∈ selections key m pkts, slot = 0 := by
  induction pkts generalizing m with
  | nil => simp [selections]
  | cons p rest ih =>
    rw [selections]
    intro slot member
    rcases serves.turn p with ⟨reads,_,still⟩ | ⟨reads,left⟩
    · rw [reads,List.nil_append] at member
      exact ih (serves.step p) (still stuck) slot member
    · rw [(BoundedMap.update_eq_none _ _ _).mpr stuck,Option.getD_none] at left
      rw [reads,List.singleton_append] at member
      rcases List.mem_cons.mp member with rfl | later
      · exact rrSlot_absent stuck.1
      · exact ih (serves.step p) (by rwa [Stuck,left]) slot later

theorem refused_selections (serves : Serves key value m) {pkts : List Packet}
    (refused : ¬ Each RoundRobin.step (Accepted key) m pkts) : ∀ slot ∈ selections key m pkts, slot = 0 := by
  induction pkts generalizing m with
  | nil => exact absurd trivial refused
  | cons p rest ih =>
    by_cases here : Accepted key m p
    · have later : ¬ Each RoundRobin.step (Accepted key) (RoundRobin.step m p) rest := fun all => refused ⟨here,all⟩
      rw [selections]
      rcases serves.turn p with ⟨reads,_,_⟩ | ⟨reads,left⟩
      · rw [reads,List.nil_append]
        exact ih (serves.step p) later
      · have ready := here (serves.opens reads)
        refine absurd (held_accepted (serves.step p) ?_ rest) later
        rw [left,BoundedMap.lookup_attempt_self _ ready]
        exact Option.some_ne_none _
    · unfold Accepted at here
      push Not at here
      exact stuck_selections serves (stuck_of_refused here.2) _

end Runs

-- Round robin is exact as long as its index is written; a service with more than
-- one backend whose index is not written once has one slot for all connections.
theorem exact_iff {key : NodeportKey} {value : NodeportValue} {m : Maps} (served : m.service.lookup key = some value)
    (counted : value.backendCount ≠ 0)
    (filled : ∀ slot, slot < value.backendCount → m.backend.lookup ⟨key,slot⟩ ≠ none) (pkts : List Packet) :
    (value.backendCount = 1 ∨ Each step (Accepted key) m pkts →
      Exact value.backendCount.toNat (selections key m pkts)) ∧
    (value.backendCount.toNat ≤ (selections key m pkts).length → Exact value.backendCount.toNat (selections key m pkts) →
      value.backendCount = 1 ∨ Each step (Accepted key) m pkts) := by
  have serves : Serves key value m := ⟨served,counted,filled⟩
  have low : ∀ slot ∈ selections key m pkts, slot.toNat < value.backendCount.toNat := fun slot member =>
    UInt32.lt_iff_toNat_lt.mp (selections_low serves pkts slot member)
  constructor
  · intro condition
    refine ⟨fun earlier window later parts whole => ?_,low⟩
    rcases condition with single | accepted
    · rw [single,UInt32.toNat_one] at low whole ⊢
      obtain ⟨slot,rfl⟩ := List.length_eq_one_iff.mp whole
      have first : slot.toNat = 0 := Nat.lt_one_iff.mp (low slot (by simp [parts]))
      rw [List.map_singleton,first]
      exact List.Perm.refl _
    · refine rotates_perm (rotates_within (selections_rotate serves accepted).1 ?_) (by rw [List.length_map,whole])
      rw [parts,List.map_append,List.map_append]
      exact List.infix_append _ _ _
  · intro enough exact
    by_contra neither
    obtain ⟨several,refused⟩ := not_or.mp neither
    have zeros := refused_selections serves refused
    have around := exact.1 [] ((selections key m pkts).take value.backendCount.toNat)
      ((selections key m pkts).drop value.backendCount.toNat) (by simp) (by simp [enough])
    have two : 1 < value.backendCount.toNat := by
      have positive : value.backendCount.toNat ≠ 0 := fun none => counted (UInt32.toNat_inj.mp none)
      have more : value.backendCount.toNat ≠ 1 := fun one => several (UInt32.toNat_inj.mp one)
      omega
    obtain ⟨slot,member,second⟩ := List.mem_map.mp (around.symm.subset (List.mem_range.mpr two))
    rw [zeros slot (List.mem_of_mem_take member),UInt32.toNat_zero] at second
    exact absurd second (by decide)

def Assigned (m : Maps) (p : Packet) : Prop :=
  ∃ hdr v, parseTcpPacket p.2 = some hdr ∧ chosen m (loadTuple p.2 hdr) = some v

def Progress (m : Maps) (pkts : List Packet) : Prop :=
  ∃ earlier p later, pkts = earlier ++ p :: later ∧ Assigned (earlier.foldl step m) p

section Holes
variable {key : NodeportKey} {value : NodeportValue} {m : Maps}

theorem select_none (counted : value.backendCount ≠ 0) : NodeportTc.selectBackend m key value = none ↔
    m.backend.lookup ⟨key,rrSlot m key value.backendCount⟩ = none := by
  unfold NodeportTc.selectBackend
  rw [if_neg counted]
  dsimp only [lookupBackendSlot]
  split
  · rename_i hole
    exact iff_of_true rfl hole
  · rename_i backend found
    exact iff_of_false (Option.some_ne_none _) fun hole => by cases hole.symm.trans found

theorem assigned_iff (served : m.service.lookup key = some value) (counted : value.backendCount ≠ 0) {p : Packet}
    (opens : Opens key m p) : Assigned m p ↔ m.backend.lookup ⟨key,rrSlot m key value.backendCount⟩ ≠ none := by
  obtain ⟨hdr,parsed,_,rfl,unowned⟩ := opens
  have choice : chosen m (loadTuple p.2 hdr) ≠ none ↔
      m.backend.lookup ⟨serviceKey (loadTuple p.2 hdr),rrSlot m (serviceKey (loadTuple p.2 hdr)) value.backendCount⟩ ≠ none := by
    simp only [chosen,served,unowned]
    rw [ne_eq,Option.map_eq_none_iff,select_none counted]
  rw [← choice,Option.ne_none_iff_exists']
  constructor
  · rintro ⟨hdr',v,parsed',picked⟩
    cases parsed.symm.trans parsed'
    exact ⟨v,picked⟩
  · rintro ⟨v,picked⟩
    exact ⟨hdr,v,parsed,picked⟩

-- A miss leaves the index where it is, so the hole is met again.
theorem hole_stays (served : m.service.lookup key = some value)
    (hole : m.backend.lookup ⟨key,rrSlot m key value.backendCount⟩ = none) (p : Packet) :
    (RoundRobin.step m p).service.lookup key = some value ∧
      (RoundRobin.step m p).backend.lookup ⟨key,rrSlot (RoundRobin.step m p) key value.backendCount⟩ = none := by
  have control := outMaps_control p.1 p.2 m
  have service : (RoundRobin.step m p).service = m.service := control.service
  have backend : (RoundRobin.step m p).backend = m.backend := control.backend
  have same : (RoundRobin.step m p).rrState.lookup key = m.rrState.lookup key := by
    have turn := packet_turn key p m
    generalize slotReads key m p = reads,(RoundRobin.step m p).rrState = rrState at turn ⊢
    cases turn with
    | idle => rfl
    | other apart => exact BoundedMap.lookup_attempt _ _ apart.symm
    | missing => rfl
    | taken served' _ found =>
      cases served.symm.trans served'
      cases hole.symm.trans found
  rw [service,backend,rrSlot,same]
  exact ⟨served,hole⟩

theorem holes_stay (served : m.service.lookup key = some value)
    (hole : m.backend.lookup ⟨key,rrSlot m key value.backendCount⟩ = none) (pkts : List Packet) :
    (pkts.foldl RoundRobin.step m).service.lookup key = some value ∧
      (pkts.foldl RoundRobin.step m).backend.lookup ⟨key,rrSlot (pkts.foldl RoundRobin.step m) key value.backendCount⟩ = none := by
  induction pkts generalizing m with
  | nil => exact ⟨served,hole⟩
  | cons p rest ih =>
    obtain ⟨served,hole⟩ := hole_stays served hole p
    exact ih served hole

theorem hole_starves (served : m.service.lookup key = some value) (counted : value.backendCount ≠ 0)
    (hole : m.backend.lookup ⟨key,rrSlot m key value.backendCount⟩ = none) {pkts : List Packet}
    (opens : Each RoundRobin.step (Opens key) m pkts) : ¬ Progress m pkts := by
  rintro ⟨earlier,p,later,rfl,assigned⟩
  obtain ⟨served,hole⟩ := holes_stay served hole earlier
  exact (assigned_iff served counted (each_append.mp opens).2.1).mp assigned hole

end Holes

-- Of as many new connections as there are slots one gets a backend exactly when
-- the slot the index stands at is filled, whatever the others are.
theorem progress_iff {key : NodeportKey} {value : NodeportValue} {m : Maps} {pkts : List Packet}
    (served : m.service.lookup key = some value) (counted : value.backendCount ≠ 0)
    (whole : pkts.length = value.backendCount.toNat) (opens : Each step (Opens key) m pkts) :
    Progress m pkts ↔ m.backend.lookup ⟨key,rrSlot m key value.backendCount⟩ ≠ none := by
  constructor
  · exact fun progress hole => hole_starves served counted hole opens progress
  · intro filled
    cases pkts with
    | nil => exact absurd (UInt32.toNat_inj.mp whole.symm) counted
    | cons p rest => exact ⟨[],p,rest,rfl,(assigned_iff served counted opens.1).mpr filled⟩

section Examples

def twoPods (slots : List UInt32) (rrState : RrStateMap) : Maps :=
  {Maps.empty with service := (BoundedMap.empty.update frontend ⟨2,0,snatIp⟩).getD .empty,
                   backend := slots.foldl (fun table slot => (table.update ⟨frontend,slot⟩ pod).getD table) .empty,
                   rrState := rrState}

def twoClients : List Packet := [(plainHelpers 0,tcpFrame longLived),(plainHelpers 0,tcpFrame passing)]

theorem twoPods_filled (rrState : RrStateMap) (slot : UInt32) (low : slot < 2) :
    (twoPods [0,1] rrState).backend.lookup ⟨frontend,slot⟩ ≠ none := by
  have either : slot = 0 ∨ slot = 1 := by
    rw [UInt32.lt_iff_toNat_lt] at low
    rw [← UInt32.toNat_inj,← UInt32.toNat_inj]
    have two : (2 : UInt32).toNat = 2 := rfl
    have one : (1 : UInt32).toNat = 1 := rfl
    have zero : (0 : UInt32).toNat = 0 := rfl
    omega
  rcases either with rfl | rfl
  · exact (by decide : (twoPods [0,1] .empty).backend.lookup ⟨frontend,0⟩ ≠ none)
  · exact (by decide : (twoPods [0,1] .empty).backend.lookup ⟨frontend,1⟩ ≠ none)

def otherService (i : Nat) : NodeportKey := ⟨⟨10,0,UInt8.ofNat (i / 256),UInt8.ofNat i⟩,htons 30080,ipprotoTcp,0⟩

theorem otherService_injective {i j : Nat} (low : i < 512) (low' : j < 512) (same : otherService i = otherService j) : i = j := by
  have high := congrArg (fun k => k.address.b2.toNat) same
  have last := congrArg (fun k => k.address.b3.toNat) same
  simp only [otherService,UInt8.toNat_ofNat'] at high last
  omega

def crowdedTable : RrStateMap where
  table := ⟨(List.range 512).map fun i => ⟨otherService i,0⟩,by
    rw [List.NodupKeys,List.keys,List.map_map]
    refine List.Nodup.map_on (fun i low j low' same => ?_) List.nodup_range
    exact otherService_injective (List.mem_range.mp low) (List.mem_range.mp low') same⟩
  bounded := by simp [AList.keys,List.keys]

theorem crowdedTable_selections : selections frontend (twoPods [0,1] crowdedTable) twoClients = [0,0] := by
  decide +kernel

def shrunk : RrStateMap := (BoundedMap.empty.update frontend 9).getD .empty

theorem shrunk_exact : Exact 2 (selections frontend (twoPods [0,1] shrunk) twoClients) :=
  have served : (twoPods [0,1] shrunk).service.lookup frontend = some ⟨2,0,snatIp⟩ := rfl
  (exact_iff served (by decide) (twoPods_filled shrunk) twoClients).1
    (.inr ⟨fun _ => by decide,fun _ => by decide,trivial⟩)

theorem crowded_repeats : ¬ ∀ (key : NodeportKey) (value : NodeportValue) (m : Maps), m.service.lookup key = some value →
    value.backendCount ≠ 0 → (∀ slot, slot < value.backendCount → m.backend.lookup ⟨key,slot⟩ ≠ none) →
    ∀ pkts, Exact value.backendCount.toNat (selections key m pkts) := by
  intro always
  have exact := always frontend ⟨2,0,snatIp⟩ (twoPods [0,1] crowdedTable) rfl (by decide) (twoPods_filled crowdedTable) twoClients
  rw [crowdedTable_selections] at exact
  have round := exact.1 [] [0,0] [] rfl rfl
  exact absurd (round.symm.subset (List.mem_range.mpr (show 1 < 2 by decide))) (by decide)

theorem twoClients_open (slots : List UInt32) (listed : slots = [0] ∨ slots = [1]) :
    Each step (Opens frontend) (twoPods slots .empty) twoClients := by
  rcases listed with rfl | rfl
  · exact ⟨⟨_,tcpFrame_parse longLived,rfl,rfl,rfl⟩,⟨_,tcpFrame_parse passing,by decide,rfl,by decide⟩,trivial⟩
  · exact ⟨⟨_,tcpFrame_parse longLived,rfl,rfl,rfl⟩,⟨_,tcpFrame_parse passing,by decide,rfl,by decide⟩,trivial⟩

theorem firstSlot_progress : Progress (twoPods [0] .empty) twoClients :=
  have served : (twoPods [0] .empty).service.lookup frontend = some ⟨2,0,snatIp⟩ := rfl
  (progress_iff served (by decide) rfl (twoClients_open [0] (.inl rfl))).mpr (by decide)

theorem secondSlot_starves : ¬ ∀ (key : NodeportKey) (value : NodeportValue) (m : Maps) (pkts : List Packet),
    m.service.lookup key = some value → value.backendCount ≠ 0 →
    (∃ slot, slot < value.backendCount ∧ m.backend.lookup ⟨key,slot⟩ ≠ none) →
    pkts.length = value.backendCount.toNat → Each step (Opens key) m pkts → Progress m pkts := by
  intro always
  have opens := twoClients_open [1] (.inr rfl)
  have served : (twoPods [1] .empty).service.lookup frontend = some ⟨2,0,snatIp⟩ := rfl
  exact hole_starves served (by decide) (by decide) opens
    (always frontend ⟨2,0,snatIp⟩ (twoPods [1] .empty) twoClients served (by decide) ⟨1,by decide,by decide⟩ rfl opens)

end Examples
end Aipr.RoundRobin
