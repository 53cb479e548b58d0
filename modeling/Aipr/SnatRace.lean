import Mathlib.Logic.Function.Basic
import Aipr.NodeportCalls
import Aipr.FlowIsolation

namespace Aipr.NodeportCalls.SnatRace
open NodeportTc FlowIsolation Interaction Transition

section Counter

-- How far the counter is into the range; out of range it starts again.
def offset (next : Option UInt32) : Nat :=
  match next with
  | none => 0
  | some next => if next < nodeportSnatMin ∨ next > nodeportSnatMax then 0 else next.toNat - 40000

def portAt (n : Nat) : Be16 := htons (UInt16.ofNat (40000 + n % 21000))

theorem offset_low (next : Option UInt32) : offset next < 21000 := by
  have least : nodeportSnatMin.toNat = 40000 := rfl
  have most : nodeportSnatMax.toNat = 60999 := rfl
  unfold offset
  split
  · decide
  · split
    · decide
    · rename_i inside
      rw [gt_iff_lt,UInt32.lt_iff_toNat_lt,UInt32.lt_iff_toNat_lt,least,most] at inside
      omega

theorem offset_ofNat {n : Nat} (low : n < 21000) : offset (some (UInt32.ofNat (40000 + n))) = n := by
  have value : (UInt32.ofNat (40000 + n)).toNat = 40000 + n := by
    rw [UInt32.toNat_ofNat']
    omega
  have least : nodeportSnatMin.toNat = 40000 := rfl
  have most : nodeportSnatMax.toNat = 60999 := rfl
  have inside : ¬ (UInt32.ofNat (40000 + n) < nodeportSnatMin ∨ UInt32.ofNat (40000 + n) > nodeportSnatMax) := by
    rw [gt_iff_lt,UInt32.lt_iff_toNat_lt,UInt32.lt_iff_toNat_lt,value,least,most]
    omega
  rw [offset,if_neg inside,value]
  omega

theorem allocate_offset (next : Option UInt32) : NodeportTc.allocateSnatPort next =
    (portAt (offset next),UInt32.ofNat (40000 + (offset next + 1) % 21000)) := by
  have low := offset_low next
  rw [portAt,Nat.mod_eq_of_lt low,← allocate_wraps low]
  cases next with
  | none => rfl
  | some next =>
    by_cases outside : next < nodeportSnatMin ∨ next > nodeportSnatMax
    · have restart : offset (some next) = 0 := if_pos outside
      rw [restart]
      simp only [NodeportTc.allocateSnatPort,if_pos outside]
      rfl
    · have inside := outside
      have least : nodeportSnatMin.toNat = 40000 := rfl
      rw [gt_iff_lt,UInt32.lt_iff_toNat_lt,UInt32.lt_iff_toNat_lt,least] at inside
      have place : offset (some next) = next.toNat - 40000 := if_neg outside
      have same : UInt32.ofNat (40000 + offset (some next)) = next := by
        rw [place,show 40000 + (next.toNat - 40000) = next.toNat by omega,UInt32.ofNat_toNat]
      rw [same]

theorem allocate_next (next : Option UInt32) : offset (some (NodeportTc.allocateSnatPort next).2) = (offset next + 1) % 21000 := by
  rw [allocate_offset]
  exact offset_ofNat (Nat.mod_lt _ (by decide))

theorem portAt_injective {m n : Nat} (same : portAt m = portAt n) : m % 21000 = n % 21000 := by
  have ports := UInt16.toNat_inj.mpr (htons_injective same)
  rw [UInt16.toNat_ofNat',UInt16.toNat_ofNat'] at ports
  omega

end Counter

section Watch

inductive Phase where
  | before
  | read (next : Option UInt32)
  | holds (port : Be16)
  | spent

def Phase.midway : Phase → Prop
  | .read _ => True
  | _ => False

-- The counter is read once and then written back by the very next call, and only
-- the port so obtained is installed.
def watch : Monitor MapCall MapCall.Answer Phase where
  allows phase c :=
    match phase,c with
    | .read next,c => c = .updateSnatPort (NodeportTc.allocateSnatPort next).2
    | phase,.lookupSnatPort => phase = .before
    | _,.updateSnatPort _ => False
    | phase,.updateFwdCt _ value => phase = .holds value.snatPort
    | _,_ => True
  observe phase c reply :=
    match phase,c,reply with
    | .read next,_,_ => .holds (NodeportTc.allocateSnatPort next).1
    | _,.lookupSnatPort,next => .read next
    | _,.updateFwdCt _ _,_ => .spent
    | phase,_,_ => phase

def quiet : MapCall → Bool
  | .lookupSnatPort | .updateSnatPort _ | .updateFwdCt _ _ => false
  | _ => true

variable {phase : Phase} {c : MapCall}

theorem watch_quiet (other : quiet c = true) (settled : ¬ phase.midway) :
    watch.allows phase c ∧ ∀ reply, watch.observe phase c reply = phase := by
  cases phase with
  | read next => exact absurd trivial settled
  | before | holds port | spent =>
    cases c with
    | lookupSnatPort => cases other
    | updateSnatPort next => cases other
    | updateFwdCt key value => cases other
    | _ => exact ⟨trivial,fun _ => rfl⟩

theorem watch_ask {done : Phase → α → Prop} {f : c.Answer → Calls α} (other : quiet c = true) (settled : ¬ phase.midway) :
    watch.Safe done phase (ask c >>= f) ↔ ∀ reply, watch.Safe done phase (f reply) := by
  obtain ⟨allowed,same⟩ := watch_quiet other settled
  rw [ask,Program.perform_bind,Monitor.safe_call]
  simp only [same]
  exact and_iff_right allowed

def Keeps (p : Calls α) : Prop := ∀ phase : Phase, ¬ phase.midway → watch.Safe (fun g _ => g = phase) phase p

theorem keeps_pure (value : α) : Keeps (pure value) := fun _ _ => rfl

theorem keeps_ask {f : c.Answer → Calls α} (other : quiet c = true) (rest : ∀ reply, Keeps (f reply)) :
    Keeps (ask c >>= f) := by
  intro phase settled
  rw [watch_ask other settled]
  exact fun reply => rest reply phase settled

theorem redirect_keeps (ifindex : UInt32) (skb : Frame) : Keeps (redirectOrFallback ifindex skb) := by
  unfold redirectOrFallback
  split
  · exact keeps_ask rfl fun _ => keeps_pure _
  · exact keeps_ask rfl fun _ => keeps_ask rfl fun _ => keeps_pure _

theorem tail_keeps (h : Helpers) (hdr : Headers) (new : Tuple) (counter : StatsIndex) (ifindex : UInt32) (skb : Frame) :
    Keeps (rewriteAndRedirect h hdr new counter ifindex skb) := by
  unfold rewriteAndRedirect
  split
  · exact keeps_ask rfl fun _ => redirect_keeps _ _
  · exact keeps_ask rfl fun _ => keeps_ask rfl fun _ => keeps_pure _

theorem established_keeps (h : Helpers) (hdr : Headers) (t : Tuple) (v : NodeportFwdCtValue) (skb : Frame) :
    Keeps (requestEstablished h hdr t v skb) :=
  keeps_ask rfl fun _ => keeps_ask rfl fun _ => tail_keeps _ _ _ _ _ _

theorem select_keeps (service : NodeportKey) (serviceMeta : NodeportValue) : Keeps (selectBackend service serviceMeta) := by
  unfold selectBackend
  split
  · exact keeps_pure _
  · refine keeps_ask rfl fun rrSlot => keeps_ask rfl fun found => ?_
    cases found with
    | none => exact keeps_pure _
    | some backend => exact keeps_ask rfl fun _ => keeps_ask rfl fun _ => keeps_pure _

theorem response_keeps (h : Helpers) (hdr : Headers) (skb : Frame) : Keeps (handleResponse h hdr skb) := by
  refine keeps_ask rfl fun found => ?_
  cases found with
  | none =>
    dsimp only
    split
    · exact keeps_ask rfl fun _ => keeps_ask rfl fun _ => keeps_ask rfl fun _ => keeps_pure _
    · exact keeps_pure _
  | some ctState =>
    exact keeps_ask rfl fun _ => keeps_ask rfl fun _ => keeps_ask rfl fun _ => tail_keeps _ _ _ _ _ _

theorem allocate_draws : watch.Safe (fun g port => g = .holds port) .before allocateSnatPort :=
  ⟨rfl,fun _ => ⟨rfl,fun _ => rfl⟩⟩

theorem keeps_settles {p : Calls α} (keeps : Keeps p) (settled : ¬ phase.midway) :
    watch.Safe (fun g _ => ¬ g.midway) phase p :=
  by
  refine Monitor.safe_mono ?_ (keeps phase settled)
  rintro _ _ rfl
  exact settled

theorem install_watched (h : Helpers) (hdr : Headers) (t : Tuple) (serviceState : NodeportValue)
    (backend : NodeportBackendValue) (config : Option NodeportConfig) (skb : Frame) :
    watch.Safe (fun g _ => ¬ g.midway) .before (install h hdr t serviceState backend config skb) := by
  unfold install
  rw [Monitor.safe_bind]
  refine Monitor.safe_mono ?_ allocate_draws
  rintro _ port rfl
  refine ⟨trivial,fun recorded => ?_⟩
  cases recorded with
  | false =>
    exact keeps_settles (keeps_ask rfl fun _ => keeps_ask rfl fun _ => keeps_pure _) id
  | true =>
    refine ⟨trivial,fun _ => ⟨rfl,fun pinned => ?_⟩⟩
    cases pinned with
    | false =>
      exact keeps_settles (keeps_ask rfl fun _ => keeps_ask rfl fun _ => keeps_ask rfl fun _ => keeps_pure _) id
    | true => exact keeps_settles (keeps_ask rfl fun _ => tail_keeps _ _ _ _ _ _) id

theorem new_watched (h : Helpers) (hdr : Headers) (t : Tuple) (serviceState : NodeportValue)
    (config : Option NodeportConfig) (skb : Frame) :
    watch.Safe (fun g _ => ¬ g.midway) .before (requestNew h hdr t serviceState config skb) := by
  unfold requestNew
  rw [Monitor.safe_bind]
  refine Monitor.safe_mono ?_ (select_keeps _ _ .before id)
  rintro _ selected rfl
  cases selected with
  | none =>
    exact keeps_settles (keeps_ask rfl fun _ => keeps_ask rfl fun _ => keeps_ask rfl fun _ => keeps_pure _) id
  | some backend => exact ⟨trivial,fun _ => install_watched h hdr t serviceState backend config skb⟩

theorem request_watched (h : Helpers) (hdr : Headers) (skb : Frame) :
    watch.Safe (fun g _ => ¬ g.midway) .before (handleRequest h hdr skb) := by
  refine ⟨trivial,fun served => ?_⟩
  cases served with
  | none => exact id
  | some serviceState =>
    refine ⟨trivial,fun _ => ⟨trivial,fun config => ⟨trivial,fun owned => ?_⟩⟩⟩
    cases owned with
    | some fwdState => exact keeps_settles (established_keeps _ _ _ _ _) id
    | none => exact new_watched _ _ _ _ _ _

theorem packet_watched (h : Helpers) (skb : Frame) : watch.Safe (fun g _ => ¬ g.midway) .before (nodeportTc h skb) := by
  unfold nodeportTc
  cases parseTcpPacket skb with
  | none => exact id
  | some hdr =>
    dsimp only
    rw [bumpStat,watch_ask rfl id]
    intro _
    rw [Monitor.safe_bind]
    refine Monitor.safe_mono ?_ (response_keeps h hdr skb .before id)
    rintro _ response rfl
    unfold unlessTaken
    split
    · exact id
    · rw [Monitor.safe_bind]
      refine Monitor.safe_mono ?_ (request_watched h hdr skb)
      intro g request settled
      split
      · exact settled
      · exact settled

end Watch

section System
variable {ω : Type} [DecidableEq ω]

-- How often the counter was written back, which time was the CPU's last, and these
-- numbers with the ports of the connections installed, newest first.
structure Record (ω : Type) where
  allocations : Nat
  ticket : ω → Nat
  installs : List (Nat × Be16)

structure State (ω : Type) where
  maps : Maps
  running : ω → Option (Calls Result)
  record : Record ω

-- A packet comes to an idle CPU; a CPU makes its next call.
inductive Input (ω : Type) where
  | arrive (cpu : ω) (h : Helpers) (skb : Frame)
  | run (cpu : ω)

def Record.note (r : Record ω) (cpu : ω) : (c : MapCall) → c.Answer → Record ω
  | .updateSnatPort _,_ =>
    {r with allocations := r.allocations + 1, ticket := Function.update r.ticket cpu r.allocations}
  | .updateFwdCt _ value,true => {r with installs := (r.ticket cpu,value.snatPort) :: r.installs}
  | _,_ => r

def step (s : State ω) : Input ω → State ω
  | .arrive cpu h skb =>
    match s.running cpu with
    | none => {s with running := Function.update s.running cpu (some (nodeportTc h skb))}
    | some _ => s
  | .run cpu =>
    match s.running cpu with
    | none => s
    | some (.ret _) => {s with running := Function.update s.running cpu none}
    | some (.call c next) =>
      ⟨(c.handle s.maps).2,Function.update s.running cpu (some (next (c.handle s.maps).1)),
        s.record.note cpu c (c.handle s.maps).1⟩

def start (m : Maps) : State ω := ⟨m,fun _ => none,⟨0,fun _ => 0,[]⟩⟩

def reads (s : State ω) (cpu : ω) : Bool :=
  match s.running cpu with
  | some (.call .lookupSnatPort _) => true
  | _ => false

def writes (s : State ω) (cpu : ω) : Bool :=
  match s.running cpu with
  | some (.call (.updateSnatPort _) _) => true
  | _ => false

-- Connections of the same port have at least 20999 other allocations between theirs.
def Spread (s : State ω) : Prop :=
  s.record.installs.Pairwise fun later earlier => later.2 = earlier.2 →
    earlier.1 + 21000 ≤ later.1 ∨ later.1 + 21000 ≤ earlier.1

-- The counter is read while no other CPU is about to write it back.
def Exclusive (s : State ω) : Input ω → Prop
  | .arrive _ _ _ => True
  | .run cpu => reads s cpu = true → ∀ other, other ≠ cpu → writes s other = false

instance (s : State (Fin n)) : (input : Input (Fin n)) → Decidable (Exclusive s input)
  | .arrive _ _ _ => inferInstanceAs (Decidable True)
  | .run cpu => inferInstanceAs (Decidable (reads s cpu = true → ∀ other, other ≠ cpu → writes s other = false))

structure Booked (origin next : Option UInt32) (r : Record ω) (phase : ω → Phase) : Prop where
  counter : offset next = (offset origin + r.allocations) % 21000
  read : ∀ cpu value, phase cpu = .read value → value = next
  alone : ∀ cpu other, (phase cpu).midway → (phase other).midway → cpu = other
  holds : ∀ cpu port, phase cpu = .holds port → r.ticket cpu < r.allocations ∧
    port = portAt (offset origin + r.ticket cpu) ∧ r.ticket cpu ∉ r.installs.map Prod.fst
  apart : ∀ cpu other port port', phase cpu = .holds port → phase other = .holds port' →
    r.ticket cpu = r.ticket other → cpu = other
  installs : ∀ entry ∈ r.installs, entry.1 < r.allocations ∧ entry.2 = portAt (offset origin + entry.1)
  distinct : (r.installs.map Prod.fst).Nodup

section Booked
variable {origin next : Option UInt32} {r : Record ω} {phase : ω → Phase} {cpu : ω}

theorem update_phase {after : Phase} {other : ω} (kind : Phase → Prop) (found : kind (Function.update phase cpu after other)) :
    (other = cpu ∧ kind after) ∨ (other ≠ cpu ∧ kind (phase other)) := by
  by_cases same : other = cpu
  · rw [same,Function.update_self] at found
    exact .inl ⟨same,found⟩
  · rw [Function.update_of_ne same] at found
    exact .inr ⟨same,found⟩

theorem midway_read {after : Phase} (midway : after.midway) : ∃ value, after = .read value := by
  cases after with
  | read value => exact ⟨value,rfl⟩
  | before | holds port | spent => cases midway

theorem Booked.move (booked : Booked origin next r phase) {after : Phase} (free : ∀ port, after ≠ .holds port)
    (reads : ∀ value, after = .read value → value = next ∧ ∀ other, other ≠ cpu → ¬ (phase other).midway) :
    Booked origin next r (Function.update phase cpu after) := by
  constructor
  · exact booked.counter
  · intro other value found
    rcases update_phase (· = .read value) found with ⟨_,here⟩ | ⟨_,found⟩
    · exact (reads value here).1
    · exact booked.read other value found
  · intro one two first second
    rcases update_phase Phase.midway first with ⟨here,reading⟩ | ⟨apart,first⟩
    · rcases update_phase Phase.midway second with ⟨there,_⟩ | ⟨apart,second⟩
      · rw [here,there]
      · obtain ⟨value,same⟩ := midway_read reading
        exact absurd second ((reads value same).2 two apart)
    · rcases update_phase Phase.midway second with ⟨_,reading⟩ | ⟨_,second⟩
      · obtain ⟨value,same⟩ := midway_read reading
        exact absurd first ((reads value same).2 one apart)
      · exact booked.alone one two first second
  · intro other port found
    rcases update_phase (· = .holds port) found with ⟨_,held⟩ | ⟨_,found⟩
    · exact absurd held (free port)
    · exact booked.holds other port found
  · intro one two port port' first second
    rcases update_phase (· = .holds port) first with ⟨_,held⟩ | ⟨_,first⟩
    · exact absurd held (free port)
    · rcases update_phase (· = .holds port') second with ⟨_,held⟩ | ⟨_,second⟩
      · exact absurd held (free port')
      · exact booked.apart one two port port' first second
  · exact booked.installs
  · exact booked.distinct

-- The counter is written back by the one CPU that has read it, and a number that
-- nobody has had comes with the port.
theorem Booked.allocate (booked : Booked origin next r phase) {value : Option UInt32} (reading : phase cpu = .read value) :
    Booked origin (some (NodeportTc.allocateSnatPort value).2)
      {r with allocations := r.allocations + 1, ticket := Function.update r.ticket cpu r.allocations}
      (Function.update phase cpu (.holds (NodeportTc.allocateSnatPort value).1)) := by
  have current := booked.read cpu value reading
  have sole : ∀ other, other ≠ cpu → ¬ (phase other).midway := by
    intro other apart midway
    exact apart (booked.alone other cpu midway (reading ▸ trivial))
  have ticket : ∀ {other}, other ≠ cpu → Function.update r.ticket cpu r.allocations other = r.ticket other :=
    fun apart => Function.update_of_ne apart _ _
  have old : ∀ n ∈ r.installs.map Prod.fst, n < r.allocations := by
    intro n member
    obtain ⟨entry,listed,rfl⟩ := List.mem_map.mp member
    exact (booked.installs entry listed).1
  constructor
  · rw [allocate_next,current,booked.counter,Nat.mod_add_mod]
    rfl
  · intro other value' found
    rcases update_phase (· = .read value') found with ⟨_,impossible⟩ | ⟨apart,found⟩
    · cases impossible
    · exact absurd (found ▸ trivial) (sole other apart)
  · intro one two first _
    rcases update_phase Phase.midway first with ⟨_,impossible⟩ | ⟨apart,first⟩
    · cases impossible
    · exact absurd first (sole one apart)
  · intro other port found
    rcases update_phase (· = .holds port) found with ⟨rfl,held⟩ | ⟨apart,found⟩
    · cases held
      dsimp only
      rw [Function.update_self]
      refine ⟨Nat.lt_succ_self _,?_,fun member => Nat.lt_irrefl _ (old _ member)⟩
      rw [allocate_offset,current,booked.counter,portAt,portAt,Nat.mod_mod]
    · obtain ⟨low,same,fresh⟩ := booked.holds other port found
      dsimp only
      rw [ticket apart]
      exact ⟨Nat.lt_succ_of_lt low,same,fresh⟩
  · intro one two port port' first second same
    dsimp only at same
    rcases update_phase (· = .holds port) first with ⟨rfl,_⟩ | ⟨apart,first⟩
    · rcases update_phase (· = .holds port') second with ⟨there,_⟩ | ⟨apart,second⟩
      · exact there.symm
      · rw [Function.update_self,ticket apart] at same
        exact absurd same (Nat.ne_of_gt (booked.holds two port' second).1)
    · rcases update_phase (· = .holds port') second with ⟨there,_⟩ | ⟨apart',second⟩
      · rw [there,Function.update_self,ticket apart] at same
        exact absurd same (Nat.ne_of_lt (booked.holds one port first).1)
      · rw [ticket apart,ticket apart'] at same
        exact booked.apart one two port port' first second same
  · intro entry listed
    obtain ⟨low,same⟩ := booked.installs entry listed
    exact ⟨Nat.lt_succ_of_lt low,same⟩
  · exact booked.distinct

theorem Booked.install (booked : Booked origin next r phase) {port : Be16} (holding : phase cpu = .holds port) :
    Booked origin next {r with installs := (r.ticket cpu,port) :: r.installs} (Function.update phase cpu .spent) := by
  obtain ⟨low,same,fresh⟩ := booked.holds cpu port holding
  have rest : Booked origin next r (Function.update phase cpu .spent) :=
    booked.move (fun port held => by cases held) fun value read => by cases read
  constructor
  · exact rest.counter
  · exact rest.read
  · exact rest.alone
  · intro other port' found
    obtain ⟨low',same',fresh'⟩ := rest.holds other port' found
    refine ⟨low',same',fun member => ?_⟩
    rcases List.mem_cons.mp member with shared | old
    · rcases update_phase (· = .holds port') found with ⟨_,impossible⟩ | ⟨apart,found⟩
      · cases impossible
      · exact apart (booked.apart other cpu port' port found holding shared)
    · exact fresh' old
  · exact rest.apart
  · intro entry listed
    rcases List.mem_cons.mp listed with rfl | old
    · exact ⟨low,same⟩
    · exact rest.installs entry old
  · exact List.nodup_cons.mpr ⟨fresh,rest.distinct⟩

theorem quiet_note {c : MapCall} (other : quiet c = true) (r : Record ω) (cpu : ω) (m : Maps) (reply : c.Answer) :
    r.note cpu c reply = r ∧ (c.handle m).2.snatPort = m.snatPort := by
  cases c with
  | lookupSnatPort => cases other
  | updateSnatPort next => cases other
  | updateFwdCt key value => cases other
  | _ => exact ⟨rfl,rfl⟩

theorem Booked.call {m : Maps} (booked : Booked origin m.snatPort r phase) {c : MapCall} (allowed : watch.allows (phase cpu) c)
    (exclusive : c = .lookupSnatPort → ∀ other, other ≠ cpu → ¬ (phase other).midway) :
    Booked origin (c.handle m).2.snatPort (r.note cpu c (c.handle m).1)
      (Function.update phase cpu (watch.observe (phase cpu) c (c.handle m).1)) := by
  by_cases midway : (phase cpu).midway
  · obtain ⟨value,reading⟩ := midway_read midway
    rw [reading] at allowed ⊢
    cases allowed
    exact booked.allocate reading
  · by_cases other : quiet c = true
    · obtain ⟨note,counter⟩ := quiet_note other r cpu m (c.handle m).1
      rw [note,counter,(watch_quiet other midway).2,Function.update_eq_self]
      exact booked
    · cases current : phase cpu with
      | read value => exact absurd (current ▸ trivial) midway
      | before =>
        rw [current] at allowed
        cases c with
        | lookupSnatPort =>
          refine booked.move (fun port held => by cases held) fun value read => ?_
          cases read
          exact ⟨rfl,exclusive rfl⟩
        | updateSnatPort next => cases allowed
        | updateFwdCt key value => cases allowed
        | _ => exact absurd rfl other
      | holds port =>
        rw [current] at allowed
        cases c with
        | lookupSnatPort => cases allowed
        | updateSnatPort next => cases allowed
        | updateFwdCt key value =>
          cases allowed
          cases pinned : m.fwdCt.update key value with
          | none =>
            simp only [MapCall.handle,pinned]
            exact booked.move (fun port held => by cases held) fun value read => by cases read
          | some fwdCt =>
            simp only [MapCall.handle,pinned]
            exact booked.install current
        | _ => exact absurd rfl other
      | spent =>
        rw [current] at allowed
        cases c with
        | lookupSnatPort => cases allowed
        | updateSnatPort next => cases allowed
        | updateFwdCt key value => cases allowed
        | _ => exact absurd rfl other

end Booked

def Follows : Phase → Option (Calls Result) → Prop
  | phase,none => phase = .before
  | phase,some p => watch.Safe (fun g _ => ¬ g.midway) phase p

structure Valid (origin : Option UInt32) (s : State ω) (phase : ω → Phase) : Prop where
  follows : ∀ cpu, Follows (phase cpu) (s.running cpu)
  booked : Booked origin s.maps.snatPort s.record phase

section Valid
variable {origin : Option UInt32} {s : State ω} {phase : ω → Phase} {cpu : ω}

omit [DecidableEq ω] in
theorem valid_start (m : Maps) : Valid m.snatPort (start m : State ω) fun _ => .before := by
  refine ⟨fun _ => rfl,?_⟩
  constructor
  · exact (Nat.mod_eq_of_lt (offset_low _)).symm
  · exact fun _ _ impossible => by cases impossible
  · exact fun _ _ impossible _ => by cases impossible
  · exact fun _ _ impossible => by cases impossible
  · exact fun _ _ _ _ impossible _ _ => by cases impossible
  · exact fun _ impossible => by cases impossible
  · exact List.nodup_nil

theorem follows_update {running : ω → Option (Calls Result)} (follows : ∀ cpu, Follows (phase cpu) (running cpu))
    {after : Phase} {rest : Option (Calls Result)} (own : Follows after rest) (other : ω) :
    Follows (Function.update phase cpu after other) (Function.update running cpu rest other) := by
  by_cases same : other = cpu
  · rw [same,Function.update_self,Function.update_self]
    exact own
  · rw [Function.update_of_ne same,Function.update_of_ne same]
    exact follows other

omit [DecidableEq ω] in
-- A CPU that has read the counter is about to write it back.
theorem midway_writes (valid : Valid origin s phase) (midway : (phase cpu).midway) : writes s cpu = true := by
  obtain ⟨value,reading⟩ := midway_read midway
  have follows := valid.follows cpu
  rw [reading] at follows
  unfold writes
  cases rest : s.running cpu with
  | none =>
    rw [rest] at follows
    cases follows
  | some p =>
    rw [rest] at follows
    cases p with
    | ret result => exact absurd trivial follows
    | call c next =>
      cases follows.1
      rfl

theorem valid_step (input : Input ω) (valid : ∃ phase, Valid origin s phase) (exclusive : Exclusive s input) :
    ∃ phase, Valid origin (step s input) phase := by
  obtain ⟨phase,valid⟩ := valid
  cases input with
  | arrive cpu h skb =>
    have own := valid.follows cpu
    cases rest : s.running cpu with
    | some p =>
      simp only [step,rest]
      exact ⟨phase,valid⟩
    | none =>
      rw [rest] at own
      simp only [step,rest]
      have same : Function.update phase cpu .before = phase := by
        rw [← show phase cpu = .before from own,Function.update_eq_self]
      refine ⟨Function.update phase cpu .before,?_,same.symm ▸ valid.booked⟩
      exact fun other => follows_update valid.follows (show Follows .before (some _) from packet_watched h skb) other
  | run cpu =>
    have own := valid.follows cpu
    cases rest : s.running cpu with
    | none =>
      simp only [step,rest]
      exact ⟨phase,valid⟩
    | some p =>
      rw [rest] at own
      cases p with
      | ret result =>
        simp only [step,rest]
        refine ⟨Function.update phase cpu .before,?_,
          valid.booked.move (fun port held => by cases held) fun value read => by cases read⟩
        exact fun other => follows_update valid.follows (show Follows .before none from rfl) other
      | call c next =>
        simp only [step,rest]
        refine ⟨_,fun other => follows_update valid.follows (show Follows _ (some _) from own.2 _) other,
          valid.booked.call own.1 fun reading other apart midway => ?_⟩
        have waits := midway_writes valid midway
        have pending : reads s cpu = true := by
          cases reading
          rw [reads,rest]
        rw [exclusive pending other apart] at waits
        cases waits

omit [DecidableEq ω] in
theorem valid_spread (valid : Valid origin s phase) : Spread s := by
  have distinct := List.pairwise_map.mp valid.booked.distinct
  refine List.Pairwise.imp_of_mem (fun {later earlier} last first differ same => ?_) distinct
  have one := (valid.booked.installs later last).2
  have two := (valid.booked.installs earlier first).2
  have equal := portAt_injective (one.symm.trans (same.trans two))
  omega

-- Whatever the calls of the CPUs are interleaved with, as long as nobody reads the
-- counter between another's read and write.
theorem ports_spread (m : Maps) (inputs : List (Input ω)) (exclusive : Each step Exclusive (start m) inputs) :
    Along step Spread (start m) inputs := by
  have valid : Along step (fun s => ∃ phase, Valid m.snatPort s phase) (start m) inputs :=
    along_of_each (fun _ input => valid_step input) ⟨_,valid_start m⟩ exclusive
  refine along_mono ?_ valid
  rintro s ⟨phase,valid⟩
  exact valid_spread valid

end Valid
end System

def arrivals : List (Input (Fin 2)) :=
  [.arrive 0 (plainHelpers 0) (tcpFrame longLived),.arrive 1 (plainHelpers 0) (tcpFrame passing)]

def runs (cpu : Fin 2) (calls : Nat) : List (Input (Fin 2)) := List.replicate calls (.run cpu)

def inTurn : List (Input (Fin 2)) := arrivals ++ runs 0 20 ++ runs 1 20

theorem inTurn_spread :
    (inTurn.foldl step (start oneService)).record.installs = [(1,htons 40001),(0,htons 40000)] ∧
      Along step Spread (start oneService) inTurn :=
  ⟨by decide,ports_spread oneService inTurn (by decide)⟩

-- Both read the counter before either writes it back.
def raced : List (Input (Fin 2)) := arrivals ++ runs 0 12 ++ runs 1 12 ++ runs 0 4 ++ runs 1 4

theorem raced_collides : ¬ Along step Spread (start oneService) raced := by
  intro spread
  have installs : (raced.foldl step (start oneService)).record.installs = [(1,htons 40000),(0,htons 40000)] := by decide
  have last := along_last spread
  rw [Spread,installs] at last
  exact absurd last (by decide)

end Aipr.NodeportCalls.SnatRace
