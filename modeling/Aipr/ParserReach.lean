import Aipr.FlowIsolation
import Aipr.Interaction

namespace Aipr.ParserReach
open NodeportTc Interaction

-- parse_tcp_packet as the bytes it asks for: what it does next depends on the
-- length of the frame and on the bytes read so far.
abbrev Reads := Program Nat fun _ => UInt8

def read (i : Nat) : Reads UInt8 := Program.perform i

def parseReads (dataEnd : Nat) : Reads (Option Headers) :=
  let ip := sizeofEthhdr
  if dataEnd < sizeofEthhdr then return none
  else do
    let b0 ← read 12
    let b1 ← read 13
    if (⟨b0,b1⟩ : Be16) ≠ ethPIp then return none
    else if dataEnd < ip + sizeofIphdr then return none
    else do
      let versionIhl ← read ip
      if versionIhl.toNat / 16 ≠ 4 then return none
      else do
        let protocol ← read (ip+9)
        if protocol ≠ ipprotoTcp then return none
        else
          let ipHdrLen := versionIhl.toNat % 16 * 4
          if ipHdrLen < sizeofIphdr then return none
          else if dataEnd < ip + ipHdrLen then return none
          else
            let tcp := ip + ipHdrLen
            if dataEnd < tcp + sizeofTcphdr then return none
            else do
              let doff ← read (tcp+12)
              let tcpHdrLen := doff.toNat / 16 * 4
              if tcpHdrLen < sizeofTcphdr then return none
              else if dataEnd < tcp + tcpHdrLen then return none
              else return some ⟨ip,tcp⟩

def readByte (data : Frame) (i : Nat) : UInt8 × Frame := (byteAt data i,data)

section Run
variable {α : Type} (data : Frame)

theorem run_read (i : Nat) (f : UInt8 → Reads α) :
    (read i >>= f).run readByte data = (f (byteAt data i)).run readByte data := rfl

theorem run_ite (c : Prop) [Decidable c] (p q : Reads α) :
    (if c then p else q).run readByte data = if c then p.run readByte data else q.run readByte data := by
  split <;> rfl

end Run

-- Read after read it comes to the parser as it was modelled before.
theorem parse_reads (data : Frame) : (parseReads data.length).run readByte data = (parseTcpPacket data,data) := by
  have stop : (pure none : Reads (Option Headers)).run readByte data = (none,data) := rfl
  have done : ∀ hdr, (pure (some hdr) : Reads (Option Headers)).run readByte data = (some hdr,data) := fun _ => rfl
  unfold parseReads parseTcpPacket
  simp only [run_ite,run_read,stop,done,ite_or,load16]
  simp only [← apply_ite (fun result => (result,data))]

def inside (dataEnd : Nat) : Monitor Nat (fun _ => UInt8) Unit where
  allows _ i := i < dataEnd
  observe _ _ _ := ()

section Inside
variable {dataEnd : Nat} {α : Type}

theorem inside_read {i : Nat} {f : UInt8 → Reads α} (low : i < dataEnd)
    (next : ∀ b, (inside dataEnd).Safe (fun _ _ => True) () (f b)) : (inside dataEnd).Safe (fun _ _ => True) () (read i >>= f) :=
  ⟨low,next⟩

theorem inside_refuse {c : Prop} [Decidable c] {p : Reads (Option Headers)}
    (next : ¬ c → (inside dataEnd).Safe (fun _ _ => True) () p) :
    (inside dataEnd).Safe (fun _ _ => True) () (if c then return none else p) := by
  by_cases refused : c
  · rw [if_pos refused]
    trivial
  · rw [if_neg refused]
    exact next refused

theorem reads_inside (dataEnd : Nat) : (inside dataEnd).Safe (fun _ _ => True) () (parseReads dataEnd) := by
  simp only [parseReads,sizeofEthhdr,sizeofIphdr,sizeofTcphdr]
  refine inside_refuse fun frame => ?_
  refine inside_read (by omega) fun b0 => inside_read (by omega) fun b1 => ?_
  refine inside_refuse fun _ => inside_refuse fun header => ?_
  refine inside_read (by omega) fun versionIhl => inside_refuse fun _ => ?_
  refine inside_read (by omega) fun protocol => inside_refuse fun _ => ?_
  refine inside_refuse fun _ => inside_refuse fun _ => inside_refuse fun segment => ?_
  refine inside_read (by omega) fun doff => ?_
  exact inside_refuse fun _ => inside_refuse fun _ => trivial

end Inside

def readOffsets (data : Frame) : List Nat := ((parseReads data.length).trace readByte data).map Sigma.fst

def ipHdrLen (data : Frame) : Nat := (byteAt data 14).toNat % 16 * 4
def tcpHdrLen (data : Frame) : Nat := (byteAt data (14 + ipHdrLen data + 12)).toNat / 16 * 4

def fragOffset (data : Frame) : Nat := ntohs (load16 data 20) % 8192

structure TcpHeaders (data : Frame) : Prop where
  ethernet : 14 ≤ data.length
  ethertype : load16 data 12 = ⟨8,0⟩
  version : (byteAt data 14).toNat / 16 = 4
  ihl : 20 ≤ ipHdrLen data
  ip : 14 + ipHdrLen data ≤ data.length
  protocol : byteAt data 23 = 6
  doff : 20 ≤ tcpHdrLen data
  tcp : 14 + ipHdrLen data + tcpHdrLen data ≤ data.length

-- What stands behind the IP header of a later fragment is no TCP header.
def SegmentHead (data : Frame) : Prop := TcpHeaders data ∧ fragOffset data = 0

theorem accepts_iff (data : Frame) (hdr : Headers) :
    parseTcpPacket data = some hdr ↔ TcpHeaders data ∧ hdr = ⟨14,14 + ipHdrLen data⟩ := by
  rw [parse_exact]
  constructor
  · rintro ⟨ip,ethertype,version,protocol,tcp,ihl,doff,bound⟩
    obtain ⟨ipOffset,tcpOffset⟩ := hdr
    obtain rfl : ipOffset = 14 := ip
    obtain rfl : tcpOffset = 14 + ipHdrLen data := tcp
    have low : 20 ≤ ipHdrLen data := ihl
    have high : 14 + ipHdrLen data + tcpHdrLen data ≤ data.length := bound
    exact ⟨⟨by omega,ethertype,version,ihl,by omega,protocol,doff,bound⟩,rfl⟩
  · rintro ⟨valid,rfl⟩
    exact ⟨rfl,valid.ethertype,valid.version,valid.protocol,rfl,valid.ihl,valid.doff,valid.tcp⟩

def tupleFields (hdr : Headers) : List (Nat × Nat) := [(hdr.ip + 12,4),(hdr.ip + 16,4),(hdr.tcp,2),(hdr.tcp + 2,2)]

def Touched (h : Helpers) (data : Frame) (hdr : Headers) (new : Tuple) (i : Nat) : Prop :=
  (∃ field ∈ tupleFields hdr, field.1 ≤ i ∧ i < field.1 + field.2) ∨
    ∃ c ∈ rewriteCalls h data hdr new, ∃ skb, c.offset ≤ i ∧ i < c.offset + (c.value skb).length

theorem tupleFields_loaded {data other : Frame} {hdr : Headers}
    (same : ∀ field ∈ tupleFields hdr, ∀ i, field.1 ≤ i → i < field.1 + field.2 → byteAt other i = byteAt data i) :
    loadTuple other hdr = loadTuple data hdr := by
  simp only [tupleFields,List.forall_mem_cons,List.not_mem_nil,false_implies,implies_true,and_true] at same
  obtain ⟨saddr,daddr,sport,dport⟩ := same
  simp only [loadTuple,load32,load16]
  rw [saddr _ (by omega) (by omega),saddr _ (by omega) (by omega),saddr _ (by omega) (by omega),saddr _ (by omega) (by omega),
    daddr _ (by omega) (by omega),daddr _ (by omega) (by omega),daddr _ (by omega) (by omega),daddr _ (by omega) (by omega),
    sport _ (by omega) (by omega),sport _ (by omega) (by omega),dport _ (by omega) (by omega),dport _ (by omega) (by omega)]

section Touched
variable {data : Frame} {hdr : Headers} {h : Helpers} {new : Tuple} {i : Nat}

theorem extent_header (hdr : Headers) (call : HelperCall) :
    (hdr.ip + 10 ≤ (call.extent hdr).1 ∧ (call.extent hdr).1 + (call.extent hdr).2 ≤ hdr.ip + 20) ∨
      (hdr.tcp ≤ (call.extent hdr).1 ∧ (call.extent hdr).1 + (call.extent hdr).2 ≤ hdr.tcp + 18) := by
  cases call <;> simp only [HelperCall.extent] <;> omega

theorem touched_fixed (touched : Touched h data hdr new i) :
    (hdr.ip + 10 ≤ i ∧ i < hdr.ip + 20) ∨ (hdr.tcp ≤ i ∧ i < hdr.tcp + 18) := by
  rcases touched with ⟨field,member,low,high⟩ | ⟨c,member,skb,low,high⟩
  · simp only [tupleFields,List.mem_cons,List.not_mem_nil,or_false] at member
    rcases member with rfl | rfl | rfl | rfl <;> dsimp only at low high <;> omega
  · have extent := call_extent h data hdr new c member skb
    have header := extent_header hdr c.call
    rw [← extent] at header
    dsimp only at header
    omega

end Touched

structure Meets (data : Frame) : Prop where
  accepts : (∃ hdr, parseTcpPacket data = some hdr) ↔ SegmentHead data
  reads : ∀ i ∈ readOffsets data, i < data.length
  rewrites : ∀ hdr, parseTcpPacket data = some hdr → ∀ h new i, Touched h data hdr new i → i < data.length ∧
    ((14 ≤ i ∧ i < 14 + ipHdrLen data) ∨ (14 + ipHdrLen data ≤ i ∧ i < 14 + ipHdrLen data + tcpHdrLen data))
  fragments : fragOffset data ≠ 0 → ∀ h m, outSkb h data m = data

-- The parser does not look at the fragment offset; in all else it is exact.
theorem parser_iff (data : Frame) : Meets data ↔ (TcpHeaders data → fragOffset data = 0) := by
  have accepted : (∃ hdr, parseTcpPacket data = some hdr) ↔ TcpHeaders data := by
    simp only [accepts_iff]
    exact ⟨fun ⟨_,valid,_⟩ => valid,fun valid => ⟨_,valid,rfl⟩⟩
  constructor
  · intro meets valid
    exact (meets.accepts.mp (accepted.mpr valid)).2
  · intro whole
    refine ⟨accepted.trans ⟨fun valid => ⟨valid,whole valid⟩,And.left⟩,?_,?_,?_⟩
    · intro i member
      obtain ⟨event,made,rfl⟩ := List.mem_map.mp member
      exact Monitor.safe_trace (reads_inside data.length) readByte data event made
    · intro hdr parsed h new i touched
      obtain ⟨valid,rfl⟩ := (accepts_iff data hdr).mp parsed
      have fixed := touched_fixed touched
      have ihl := valid.ihl
      have doff := valid.doff
      have tcp := valid.tcp
      dsimp only at fixed
      omega
    · intro later h m
      have unparsed : parseTcpPacket data = none := by
        rw [Option.eq_none_iff_forall_ne_some]
        exact fun hdr parsed => later (whole (accepted.mp ⟨hdr,parsed⟩))
      rw [outSkb,unparsed_out unparsed]

-- The middle of a large packet to the frontend, whose data happens to begin like a
-- TCP header that names the service's port.
def middle : Frame := (tcpFrame FlowIsolation.longLived).set 21 185

theorem middle_translated : ¬ ∀ data, Meets data := by
  intro always
  have kept := (always middle).fragments (by decide) (plainHelpers 0) FlowIsolation.oneService
  revert kept
  decide

end Aipr.ParserReach
