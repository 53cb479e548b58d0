import Aipr.NodeportCalls
import Aipr.FlowIsolation

namespace Aipr.NodeportCalls
open NodeportTc Interaction

abbrev Stats := StatsIndex → Nat

def tally (stats : Stats) (event : (c : MapCall) × c.Answer) : Stats :=
  match event.1 with
  | .bumpStat index => fun other => if other = index then stats other + 1 else stats other
  | _ => stats

-- Counters after any number of packets, each of them processed with whatever the
-- maps answered and whatever the packet helpers did.
inductive Counted : Stats → Prop where
  | zeroed : Counted fun _ => 0
  | packet {events : List ((c : MapCall) × c.Answer)} (before : Counted stats)
      (made : (nodeportTc h skb).Traces events result) : Counted (events.foldl tally stats)

structure Conserved (s : Stats) : Prop where
  requests : s .nodeportHit = s .fwdCtHit + s .backendSelected + s .backendLookupMiss
  selections : s .rrUpdate = s .backendSelected
  translations : s .revnatHit + s .fwdCtHit + s .newConn = s .responseRewrite + s .requestRewrite + s .rewriteFail
  redirects : s .requestRewrite + s .responseRewrite = s .redirectOk + s .redirectFail
  misses : s .mapMiss = s .ctLookupMiss + s .backendLookupMiss + (s .backendSelected - s .newConn)
  fallbacks : s .fallbackPass = s .mapMiss + s .rewriteFail + s .redirectFail
  connected : s .newConn ≤ s .snatInstall
  recorded : s .snatInstall ≤ s .backendSelected
  taken : s .nodeportHit + s .revnatHit ≤ s .tcpPackets

-- The two sides of every law against each other. Inside the program they may
-- differ; the fields say by how much.
structure Ledger where
  requests : Int
  selections : Int
  translations : Int
  redirects : Int
  misses : Int
  fallbacks : Int
  unpinned : Int
  unrecorded : Int
  untaken : Int

def ledger (s : Stats) : Ledger where
  requests := s .nodeportHit - s .fwdCtHit - s .backendSelected - s .backendLookupMiss
  selections := s .rrUpdate - s .backendSelected
  translations := s .revnatHit + s .fwdCtHit + s .newConn - s .responseRewrite - s .requestRewrite - s .rewriteFail
  redirects := s .requestRewrite + s .responseRewrite - s .redirectOk - s .redirectFail
  misses := s .backendSelected - s .newConn + s .ctLookupMiss + s .backendLookupMiss - s .mapMiss
  fallbacks := s .mapMiss + s .rewriteFail + s .redirectFail - s .fallbackPass
  unpinned := s .snatInstall - s .newConn
  unrecorded := s .backendSelected - s .snatInstall
  untaken := s .tcpPackets - s .nodeportHit - s .revnatHit

def Ledger.post (l : Ledger) : StatsIndex → Ledger
  | .tcpPackets => {l with untaken := l.untaken + 1}
  | .nodeportHit => {l with requests := l.requests + 1, untaken := l.untaken - 1}
  | .backendSelected =>
    {l with requests := l.requests - 1, selections := l.selections - 1, misses := l.misses + 1,
            unrecorded := l.unrecorded + 1}
  | .backendLookupMiss => {l with requests := l.requests - 1, misses := l.misses + 1}
  | .rrUpdate => {l with selections := l.selections + 1}
  | .snatInstall => {l with unpinned := l.unpinned + 1, unrecorded := l.unrecorded - 1}
  | .requestRewrite | .responseRewrite => {l with translations := l.translations - 1, redirects := l.redirects + 1}
  | .revnatHit => {l with translations := l.translations + 1, untaken := l.untaken - 1}
  | .ctLookupMiss => {l with misses := l.misses + 1}
  | .sameNodeSkip => l
  | .fwdCtHit => {l with requests := l.requests - 1, translations := l.translations + 1}
  | .newConn => {l with translations := l.translations + 1, misses := l.misses - 1, unpinned := l.unpinned - 1}
  | .mapMiss => {l with misses := l.misses - 1, fallbacks := l.fallbacks + 1}
  | .rewriteFail => {l with translations := l.translations - 1, fallbacks := l.fallbacks + 1}
  | .redirectOk => {l with redirects := l.redirects - 1}
  | .redirectFail => {l with redirects := l.redirects - 1, fallbacks := l.fallbacks + 1}
  | .fallbackPass => {l with fallbacks := l.fallbacks - 1}

structure Settled (l : Ledger) : Prop where
  requests : l.requests = 0
  selections : l.selections = 0
  translations : l.translations = 0
  redirects : l.redirects = 0
  misses : l.misses = 0
  fallbacks : l.fallbacks = 0
  unpinned : 0 ≤ l.unpinned
  unrecorded : 0 ≤ l.unrecorded
  untaken : 0 ≤ l.untaken

theorem conserved_settled (s : Stats) : Conserved s ↔ Settled (ledger s) := by
  constructor
  · intro kept
    obtain ⟨requests,selections,translations,redirects,misses,fallbacks,connected,recorded,taken⟩ := kept
    constructor <;> dsimp only [ledger] <;> omega
  · intro settled
    obtain ⟨requests,selections,translations,redirects,misses,fallbacks,unpinned,unrecorded,untaken⟩ := settled
    dsimp only [ledger] at *
    constructor <;> omega

theorem ledger_tally (stats : Stats) (index : StatsIndex) :
    ledger (tally stats ⟨.bumpStat index,()⟩) = (ledger stats).post index := by
  cases index <;> simp [ledger,tally,Ledger.post] <;> omega

def books : Monitor MapCall MapCall.Answer Ledger where
  allows _ _ := True
  observe l c _ := match c with
    | .bumpStat index => l.post index
    | _ => l

theorem ledger_events (stats : Stats) (events : List ((c : MapCall) × c.Answer)) :
    events.foldl (fun l event => books.observe l event.1 event.2) (ledger stats) = ledger (events.foldl tally stats) := by
  induction events generalizing stats with
  | nil => rfl
  | cons event rest ih =>
    rw [List.foldl_cons,List.foldl_cons,← ih]
    congr 1
    obtain ⟨c,reply⟩ := event
    cases c with
    | bumpStat index => exact (ledger_tally stats index).symm
    | _ => rfl

section Books
variable {done : Ledger → α → Prop} {l : Ledger}

theorem books_bump {index : StatsIndex} {f : Unit → Calls α} :
    books.Safe done l (bumpStat index >>= f) ↔ books.Safe done (l.post index) (f ()) :=
  ⟨fun safe => safe.2 (),fun safe => ⟨trivial,fun _ => safe⟩⟩

theorem books_ask {c : MapCall} {f : c.Answer → Calls α} (quiet : ∀ index, c ≠ .bumpStat index) :
    books.Safe done l (ask c >>= f) ↔ ∀ reply, books.Safe done l (f reply) := by
  have same : ∀ reply, books.observe l c reply = l := by
    intro reply
    cases c with
    | bumpStat index => exact absurd rfl (quiet index)
    | _ => rfl
  rw [ask,Program.perform_bind,Monitor.safe_call]
  simp only [same]
  exact and_iff_right trivial

end Books

def Costs (p : Calls Result) (l after : Ledger) : Prop :=
  books.Safe (fun g result => result.action ≥ 0 ∧ g = after) l p

section Costs
variable (l : Ledger)

theorem redirect_costs (ifindex : UInt32) (skb : Frame) :
    Costs (redirectOrFallback ifindex skb) l {l with redirects := l.redirects - 1} := by
  unfold redirectOrFallback Costs
  split
  · rw [books_bump,Monitor.safe_pure]
    exact ⟨by simp [tcActRedirect],rfl⟩
  · rw [books_bump,books_bump,Monitor.safe_pure]
    exact ⟨by simp [tcActOk],by simp [Ledger.post]⟩

theorem tail_costs (h : Helpers) (hdr : Headers) (new : Tuple) (counter : StatsIndex) (ifindex : UInt32) (skb : Frame)
    (counts : counter = .requestRewrite ∨ counter = .responseRewrite) :
    Costs (rewriteAndRedirect h hdr new counter ifindex skb) l {l with translations := l.translations - 1} := by
  have posted : l.post counter = {l with translations := l.translations - 1, redirects := l.redirects + 1} := by
    rcases counts with rfl | rfl <;> rfl
  unfold rewriteAndRedirect Costs
  split
  · rw [books_bump,posted]
    simpa [Costs] using redirect_costs {l with translations := l.translations - 1, redirects := l.redirects + 1} ifindex _
  · rw [books_bump,books_bump,Monitor.safe_pure]
    exact ⟨by simp [tcActOk],by simp [Ledger.post]⟩

theorem established_costs (h : Helpers) (hdr : Headers) (t : Tuple) (v : NodeportFwdCtValue) (skb : Frame) :
    Costs (requestEstablished h hdr t v skb) l {l with requests := l.requests - 1} := by
  unfold requestEstablished Costs updateConntrackEntry
  rw [books_bump,books_ask (by simp)]
  intro _
  simpa [Costs,Ledger.post] using
    tail_costs (l.post .fwdCtHit) h hdr (forwardTarget v) .requestRewrite v.egressIfindex skb (.inl rfl)

theorem select_costs (service : NodeportKey) (serviceMeta : NodeportValue) :
    books.Safe (fun g selected => g = match selected with
      | none => l
      | some _ => {l with selections := l.selections + 1}) l (selectBackend service serviceMeta) := by
  unfold selectBackend
  split
  · rfl
  · rw [books_ask (by simp)]
    intro rrSlot
    rw [books_ask (by simp)]
    intro found
    cases found with
    | none => rfl
    | some backend =>
      rw [books_ask (by simp)]
      intro _
      rw [books_bump]
      rfl

-- What an installation may leave open: a reverse entry without a forward one, a
-- backend without an entry.
structure Ahead (l g : Ledger) : Prop where
  unpinned : l.unpinned ≤ g.unpinned
  unrecorded : l.unrecorded ≤ g.unrecorded
  others : g = {l with unpinned := g.unpinned, unrecorded := g.unrecorded}

theorem allocate_costs : books.Safe (fun g _ => g = l) l allocateSnatPort := by
  unfold allocateSnatPort
  rw [books_ask (by simp)]
  intro next
  rw [books_ask (by simp)]
  intro _
  rfl

theorem install_costs (h : Helpers) (hdr : Headers) (t : Tuple) (serviceState : NodeportValue)
    (backend : NodeportBackendValue) (config : Option NodeportConfig) (skb : Frame) :
    books.Safe (fun g _ => Ahead {l with misses := l.misses - 1, unrecorded := l.unrecorded - 1} g) l
      (install h hdr t serviceState backend config skb) := by
  unfold install updateConntrackEntry
  rw [Monitor.safe_bind]
  refine Monitor.safe_mono ?_ (allocate_costs l)
  rintro _ snatPort rfl
  rw [books_ask (by simp)]
  intro recorded
  cases recorded with
  | false =>
    dsimp only
    rw [books_bump,books_bump,Monitor.safe_pure]
    exact ⟨Int.le_refl _,Int.sub_le_self _ (by decide),by simp [Ledger.post]⟩
  | true =>
    dsimp only
    rw [books_bump,books_ask (by simp)]
    intro pinned
    cases pinned with
    | false =>
      dsimp only
      rw [books_ask (by simp)]
      intro _
      rw [books_bump,books_bump,Monitor.safe_pure]
      exact ⟨Int.le_add_of_nonneg_right (by decide),Int.le_refl _,by simp [Ledger.post]⟩
    | true =>
      dsimp only
      rw [books_bump]
      refine Monitor.safe_mono ?_ (tail_costs _ h hdr _ .requestRewrite _ skb (.inl rfl))
      rintro _ _ ⟨_,rfl⟩
      constructor <;> simp [Ledger.post]

theorem new_costs (h : Helpers) (hdr : Headers) (t : Tuple) (serviceState : NodeportValue)
    (config : Option NodeportConfig) (skb : Frame) :
    books.Safe (fun g _ => Ahead {l with requests := l.requests - 1} g) l
      (requestNew h hdr t serviceState config skb) := by
  unfold requestNew
  rw [Monitor.safe_bind]
  refine Monitor.safe_mono ?_ (select_costs l (serviceKey t) serviceState)
  rintro _ selected rfl
  cases selected with
  | none =>
    dsimp only
    rw [books_bump,books_bump,books_bump,Monitor.safe_pure]
    constructor <;> simp [Ledger.post]
  | some backend =>
    dsimp only
    rw [books_bump]
    refine Monitor.safe_mono ?_ (install_costs _ h hdr t serviceState backend config skb)
    intro g _ ahead
    simpa [Ledger.post] using ahead

theorem request_costs (h : Helpers) (hdr : Headers) (skb : Frame) :
    books.Safe (fun g _ => Ahead l g ∨ Ahead {l with untaken := l.untaken - 1} g) l (handleRequest h hdr skb) := by
  unfold handleRequest
  rw [books_ask (by simp)]
  intro served
  cases served with
  | none => exact .inl ⟨Int.le_refl _,Int.le_refl _,rfl⟩
  | some serviceState =>
    dsimp only
    rw [books_bump,books_ask (by simp)]
    intro config
    rw [books_ask (by simp)]
    intro owned
    cases owned with
    | some v =>
      refine Monitor.safe_mono ?_ (established_costs _ h hdr (loadTuple skb hdr) v skb)
      rintro _ _ ⟨_,rfl⟩
      exact .inr (by constructor <;> simp [Ledger.post])
    | none =>
      refine Monitor.safe_mono ?_ (new_costs _ h hdr (loadTuple skb hdr) serviceState config skb)
      intro g _ ahead
      exact .inr (by simpa [Ledger.post] using ahead)

theorem response_costs (h : Helpers) (hdr : Headers) (skb : Frame) :
    books.Safe (fun g result => if result.action ≥ 0 then g = {l with untaken := l.untaken - 1} else g = l) l
      (handleResponse h hdr skb) := by
  unfold handleResponse
  rw [books_ask (by simp)]
  intro found
  cases found with
  | none =>
    dsimp only
    split
    · rw [books_bump,books_bump,books_bump,Monitor.safe_pure,if_neg (by simp)]
      simp [Ledger.post]
    · rw [Monitor.safe_pure,if_neg (by simp)]
  | some ctState =>
    unfold updateConntrackEntry
    dsimp only
    rw [books_ask (by simp)]
    intro _
    rw [books_ask (by simp)]
    intro config
    rw [books_bump]
    refine Monitor.safe_mono ?_ (tail_costs _ h hdr (replyTarget ctState) .responseRewrite _ skb (.inr rfl))
    rintro _ _ ⟨nonneg,rfl⟩
    rw [if_pos nonneg]
    simp [Ledger.post]

end Costs

theorem Settled.ahead (settled : Settled l) (ahead : Ahead l g) : Settled g := by
  obtain ⟨unpinned,unrecorded,others⟩ := ahead
  rw [others]
  exact {settled with
    unpinned := Int.le_trans settled.unpinned unpinned, unrecorded := Int.le_trans settled.unrecorded unrecorded}

theorem packet_settled (h : Helpers) (skb : Frame) (settled : Settled l) :
    books.Safe (fun g _ => Settled g) l (nodeportTc h skb) := by
  unfold nodeportTc
  cases parseTcpPacket skb with
  | none => exact settled
  | some hdr =>
    have untaken := settled.untaken
    have arrived : Settled (l.post .tcpPackets) := {settled with untaken := by simp only [Ledger.post]; omega}
    have taken : Settled {(l.post .tcpPackets) with untaken := (l.post .tcpPackets).untaken - 1} :=
      {settled with untaken := by simp only [Ledger.post]; omega}
    dsimp only
    rw [books_bump,Monitor.safe_bind]
    refine Monitor.safe_mono ?_ (response_costs _ h hdr skb)
    intro g response answered
    unfold unlessTaken
    split
    · rename_i mine
      rw [if_pos mine] at answered
      rw [answered]
      exact taken
    · rename_i declined
      rw [if_neg declined] at answered
      rw [answered,Monitor.safe_bind]
      refine Monitor.safe_mono ?_ (request_costs _ h hdr skb)
      intro g request answered
      have kept : Settled g := answered.elim arrived.ahead taken.ahead
      split <;> exact kept

theorem counters_conserved (counted : Counted stats) : Conserved stats := by
  rw [conserved_settled]
  induction counted with
  | zeroed => constructor <;> decide
  | packet before made settled =>
    rw [← ledger_events]
    exact Monitor.safe_traces (packet_settled _ _ settled) made

theorem stats_events (events : List ((c : MapCall) × c.Answer)) (m : Maps) :
    (events.foldl (fun m event => (event.1.handle m).2) m).stats = events.foldl tally m.stats := by
  induction events generalizing m with
  | nil => rfl
  | cons event rest ih =>
    rw [List.foldl_cons,List.foldl_cons,ih]
    obtain ⟨c,reply⟩ := event
    cases c <;> rfl

theorem counted_outMaps (h : Helpers) (skb : Frame) {m : Maps} (before : Counted m.stats) :
    Counted (outMaps h skb m).stats := by
  obtain ⟨events,made,left⟩ := Program.traces_run MapCall.handle (nodeportTc h skb) m
  have same : ((nodeportTc h skb).run MapCall.handle m).2 = outMaps h skb m :=
    congrArg (fun out => out.2.maps) (nodeportTc_atOnce h skb m)
  rw [← same,left,stats_events]
  exact .packet before made

theorem counted_run (packets : List (Helpers × Frame)) {m : Maps} (before : Counted m.stats) :
    Counted (packets.foldl (fun m (h,skb) => outMaps h skb m) m).stats := by
  induction packets generalizing m with
  | nil => exact before
  | cons packet rest ih => exact ih (counted_outMaps packet.1 packet.2 before)

-- A client connects, sends on and is answered; the packet of another one cannot be
-- rewritten.
def conversation : List (Helpers × Frame) :=
  [(plainHelpers 0,tcpFrame FlowIsolation.longLived),(plainHelpers 1,tcpFrame FlowIsolation.longLived),
   (plainHelpers 2,tcpFrame ⟨FlowIsolation.pod.address,FlowIsolation.snatIp,FlowIsolation.pod.port,htons 40000⟩),
   ({plainHelpers 3 with fails := fun _ => true},tcpFrame FlowIsolation.passing)]

def served : Maps := conversation.foldl (fun m (h,skb) => outMaps h skb m) {FlowIsolation.oneService with config := some ⟨2,3,4,1⟩}

theorem conversation_conserved :
    ([.newConn,.fwdCtHit,.revnatHit,.redirectOk,.rewriteFail,.fallbackPass].map served.stats) = [2,1,1,3,1,1] ∧ Conserved served.stats :=
  ⟨by decide +kernel,counters_conserved (counted_run conversation .zeroed)⟩

end Aipr.NodeportCalls
