import Aipr.NodeportMaps

namespace Aipr.NodeportTc

-- The linear part of the skb, from `data` to `data_end`.
abbrev Frame := List UInt8

def byteAt (skb : Frame) (i : Nat) : UInt8 := skb.getD i 0
def load16 (skb : Frame) (i : Nat) : Be16 := ⟨byteAt skb i,byteAt skb (i+1)⟩
def load32 (skb : Frame) (i : Nat) : Be32 := ⟨byteAt skb i,byteAt skb (i+1),byteAt skb (i+2),byteAt skb (i+3)⟩

def storeBytes (skb : Frame) (offset : Nat) : List UInt8 → Frame
  | [] => skb
  | b :: rest => storeBytes (skb.set offset b) (offset+1) rest

@[simp] theorem length_storeBytes (skb : Frame) (offset : Nat) (bytes : List UInt8) :
    (storeBytes skb offset bytes).length = skb.length := by
  induction bytes generalizing skb offset with
  | nil => rfl
  | cons b rest ih => simp [storeBytes,ih]

theorem byteAt_set (skb : Frame) (offset i : Nat) (b : UInt8) :
    byteAt (skb.set offset b) i = if i = offset ∧ i < skb.length then b else byteAt skb i := by
  simp only [byteAt,List.getD_eq_getElem?_getD,List.getElem?_set]
  by_cases same : offset = i
  · subst i
    by_cases inside : offset < skb.length
    · simp [inside]
    · simp [inside]
  · have different : ¬ i = offset := fun equal => same equal.symm
    simp [same,different]

theorem byteAt_storeBytes_outside (skb : Frame) (offset i : Nat) (bytes : List UInt8)
    (outside : i < offset ∨ offset + bytes.length ≤ i) : byteAt (storeBytes skb offset bytes) i = byteAt skb i := by
  induction bytes generalizing skb offset with
  | nil => rfl
  | cons b rest ih =>
    rw [List.length_cons] at outside
    rw [storeBytes,ih _ _ (by omega),byteAt_set,if_neg (by omega)]

theorem byteAt_storeBytes_head (skb : Frame) (offset : Nat) (b : UInt8) (rest : List UInt8)
    (inside : offset < skb.length) : byteAt (storeBytes skb offset (b :: rest)) offset = b := by
  rw [storeBytes,byteAt_storeBytes_outside _ _ _ _ (by omega),byteAt_set,if_pos ⟨rfl,inside⟩]

theorem load16_store (skb : Frame) (offset : Nat) (x : Be16) (inside : offset + 2 ≤ skb.length) :
    load16 (storeBytes skb offset x.bytes) offset = x := by
  have one : byteAt (storeBytes skb offset x.bytes) (offset+1) = x.b1 :=
    byteAt_storeBytes_head (skb.set offset x.b0) (offset+1) x.b1 [] (by simp; omega)
  rw [load16,one,Be16.bytes,byteAt_storeBytes_head _ _ _ _ (by omega)]

theorem load32_store (skb : Frame) (offset : Nat) (x : Be32) (inside : offset + 4 ≤ skb.length) :
    load32 (storeBytes skb offset x.bytes) offset = x := by
  have one : byteAt (storeBytes skb offset x.bytes) (offset+1) = x.b1 :=
    byteAt_storeBytes_head (skb.set offset x.b0) (offset+1) x.b1 [x.b2,x.b3] (by simp; omega)
  have two : byteAt (storeBytes skb offset x.bytes) (offset+2) = x.b2 :=
    byteAt_storeBytes_head ((skb.set offset x.b0).set (offset+1) x.b1) (offset+2) x.b2 [x.b3] (by simp; omega)
  have three : byteAt (storeBytes skb offset x.bytes) (offset+3) = x.b3 :=
    byteAt_storeBytes_head (((skb.set offset x.b0).set (offset+1) x.b1).set (offset+2) x.b2) (offset+3) x.b3 []
      (by simp; omega)
  rw [load32,one,two,three,Be32.bytes,byteAt_storeBytes_head _ _ _ _ (by omega)]

structure Headers where
  ip : Nat
  tcp : Nat
deriving DecidableEq, Repr

abbrev sizeofEthhdr : Nat := 14
abbrev sizeofIphdr : Nat := 20
abbrev sizeofTcphdr : Nat := 20
def ethPIp : Be16 := htons 0x0800

def parseTcpPacket (data : Frame) : Option Headers :=
  let dataEnd := data.length
  let ip := sizeofEthhdr
  if dataEnd < sizeofEthhdr then none
  else if load16 data 12 ≠ ethPIp then none
  else if dataEnd < ip + sizeofIphdr then none
  else if (byteAt data ip).toNat / 16 ≠ 4 ∨ byteAt data (ip+9) ≠ ipprotoTcp then none
  else
    let ipHdrLen := (byteAt data ip).toNat % 16 * 4
    if ipHdrLen < sizeofIphdr then none
    else if dataEnd < ip + ipHdrLen then none
    else
      let tcp := ip + ipHdrLen
      if dataEnd < tcp + sizeofTcphdr then none
      else
        let tcpHdrLen := (byteAt data (tcp+12)).toNat / 16 * 4
        if tcpHdrLen < sizeofTcphdr then none
        else if dataEnd < tcp + tcpHdrLen then none
        else some ⟨ip,tcp⟩

structure Parsed (data : Frame) (hdr : Headers) : Prop where
  ip : hdr.ip = sizeofEthhdr
  ethertype : load16 data 12 = ethPIp
  version : (byteAt data 14).toNat / 16 = 4
  protocol : byteAt data 23 = ipprotoTcp
  tcp : hdr.tcp = 14 + (byteAt data 14).toNat % 16 * 4
  ihl : 20 ≤ (byteAt data 14).toNat % 16 * 4
  doff : 20 ≤ (byteAt data (hdr.tcp+12)).toNat / 16 * 4
  inside : hdr.tcp + (byteAt data (hdr.tcp+12)).toNat / 16 * 4 ≤ data.length

theorem parse_sound {data : Frame} {hdr : Headers} (parsed : parseTcpPacket data = some hdr) :
    Parsed data hdr := by
  simp only [parseTcpPacket,sizeofEthhdr,sizeofIphdr,sizeofTcphdr,Option.ite_none_left_eq_some,not_or,not_not,not_lt] at parsed
  obtain ⟨-,ethertype,-,⟨version,protocol⟩,ihl,-,-,doff,bound,same⟩ := parsed
  cases Option.some.inj same
  exact ⟨rfl,ethertype,version,protocol,rfl,ihl,doff,bound⟩

theorem parse_complete {data : Frame} {hdr : Headers} (valid : Parsed data hdr) :
    parseTcpPacket data = some hdr := by
  obtain ⟨ip,tcp⟩ := hdr
  obtain ⟨rfl,ethertype,version,protocol,rfl,ihl,doff,bound⟩ := valid
  dsimp only at doff bound
  have frame : ¬ data.length < 14 := by omega
  have header : ¬ data.length < 14 + 20 := by omega
  have fields : ¬ ((byteAt data 14).toNat / 16 ≠ 4 ∨ byteAt data (14+9) ≠ ipprotoTcp) := by
    simp [version,protocol]
  have options : ¬ data.length < 14 + (byteAt data 14).toNat % 16 * 4 := by omega
  have segment : ¬ data.length < 14 + (byteAt data 14).toNat % 16 * 4 + 20 := by omega
  simp only [parseTcpPacket,sizeofEthhdr,sizeofIphdr,sizeofTcphdr]
  rw [if_neg frame,if_neg (not_not.mpr ethertype),if_neg header,if_neg fields,if_neg (Nat.not_lt.mpr ihl),
    if_neg options,if_neg segment,if_neg (Nat.not_lt.mpr doff),if_neg (Nat.not_lt.mpr bound)]

theorem parse_exact (data : Frame) (hdr : Headers) :
    parseTcpPacket data = some hdr ↔ Parsed data hdr := ⟨parse_sound,parse_complete⟩

structure Tuple where
  saddr : Be32
  daddr : Be32
  sport : Be16
  dport : Be16
deriving DecidableEq, Repr

def Tuple.mirror (t : Tuple) : Tuple := ⟨t.daddr,t.saddr,t.dport,t.sport⟩

def loadTuple (skb : Frame) (hdr : Headers) : Tuple :=
  ⟨load32 skb (hdr.ip+12),load32 skb (hdr.ip+16),load16 skb hdr.tcp,load16 skb (hdr.tcp+2)⟩

inductive HelperCall where
  | storeSaddr | storeDaddr | storeSport | storeDport
  | l3Saddr | l3Daddr | l4Saddr | l4Daddr | l4Sport | l4Dport
deriving DecidableEq, Repr

-- What the kernel answers: the clock, the packet-writing helpers that fail, and what the
-- checksum helpers put in place of the old checksum.
structure Helpers where
  ktimeGetNs : UInt64
  fails : HelperCall → Bool
  l3CsumReplace : Be16 → List UInt8 → List UInt8 → Be16
  l4CsumReplace : Bool → Be16 → List UInt8 → List UInt8 → Be16

def Helpers.Succeed (h : Helpers) : Prop := ∀ call, h.fails call = false

structure Call where
  needed : Bool
  call : HelperCall
  offset : Nat
  value : Frame → List UInt8

-- A failing helper leaves the packet as the calls before it made it.
def runCalls (h : Helpers) : List Call → Frame → Int × Frame
  | [],skb => (0,skb)
  | c :: rest,skb =>
    if c.needed then
      if h.fails c.call then (-1,skb) else runCalls h rest (storeBytes skb c.offset (c.value skb))
    else runCalls h rest skb

def storeCalls (skb : Frame) (hdr : Headers) (new : Tuple) : List Call :=
  let old := loadTuple skb hdr
  [⟨old.saddr ≠ new.saddr,.storeSaddr,hdr.ip + 12,fun _ => new.saddr.bytes⟩,
   ⟨old.daddr ≠ new.daddr,.storeDaddr,hdr.ip + 16,fun _ => new.daddr.bytes⟩,
   ⟨old.sport ≠ new.sport,.storeSport,hdr.tcp,fun _ => new.sport.bytes⟩,
   ⟨old.dport ≠ new.dport,.storeDport,hdr.tcp + 2,fun _ => new.dport.bytes⟩]

def csumCalls (h : Helpers) (skb : Frame) (hdr : Headers) (new : Tuple) : List Call :=
  let old := loadTuple skb hdr
  let ipCheck := hdr.ip + 10
  let tcpCheck := hdr.tcp + 16
  let l3 (off : Nat) (before after : List UInt8) (skb : Frame) :=
    (h.l3CsumReplace (load16 skb off) before after).bytes
  let l4 (off : Nat) (pseudo : Bool) (before after : List UInt8) (skb : Frame) :=
    (h.l4CsumReplace pseudo (load16 skb off) before after).bytes
  [⟨old.saddr ≠ new.saddr,.l3Saddr,ipCheck,l3 ipCheck old.saddr.bytes new.saddr.bytes⟩,
   ⟨old.daddr ≠ new.daddr,.l3Daddr,ipCheck,l3 ipCheck old.daddr.bytes new.daddr.bytes⟩,
   ⟨old.saddr ≠ new.saddr,.l4Saddr,tcpCheck,l4 tcpCheck true old.saddr.bytes new.saddr.bytes⟩,
   ⟨old.daddr ≠ new.daddr,.l4Daddr,tcpCheck,l4 tcpCheck true old.daddr.bytes new.daddr.bytes⟩,
   ⟨old.sport ≠ new.sport,.l4Sport,tcpCheck,l4 tcpCheck false old.sport.bytes new.sport.bytes⟩,
   ⟨old.dport ≠ new.dport,.l4Dport,tcpCheck,l4 tcpCheck false old.dport.bytes new.dport.bytes⟩]

-- All fields are stored before the first checksum is corrected.
def rewriteCalls (h : Helpers) (skb : Frame) (hdr : Headers) (new : Tuple) : List Call :=
  storeCalls skb hdr new ++ csumCalls h skb hdr new

def rewriteTuple (h : Helpers) (skb : Frame) (hdr : Headers) (new : Tuple) : Int × Frame :=
  runCalls h (rewriteCalls h skb hdr new) skb

theorem rewrite_succeeds {h : Helpers} (works : h.Succeed) (skb : Frame) (hdr : Headers) (new : Tuple) :
    (rewriteTuple h skb hdr new).1 = 0 := by
  have all : ∀ calls skb, (runCalls h calls skb).1 = 0 := by
    intro calls
    induction calls with
    | nil => intro skb; rfl
    | cons c rest ih =>
      intro skb
      rw [runCalls]
      split
      · rw [works c.call]
        exact ih _
      · exact ih _
  exact all _ _

def Call.apply (c : Call) (skb : Frame) : Frame :=
  if c.needed then storeBytes skb c.offset (c.value skb) else skb

def Call.Spares (c : Call) (offset width : Nat) : Prop :=
  ∀ skb, c.offset + (c.value skb).length ≤ offset ∨ offset + width ≤ c.offset

theorem length_apply (c : Call) (skb : Frame) : (c.apply skb).length = skb.length := by
  unfold Call.apply
  split <;> simp

theorem byteAt_apply {c : Call} {offset width : Nat} (spares : c.Spares offset width) (skb : Frame) (i : Nat)
    (low : offset ≤ i) (high : i < offset + width) : byteAt (c.apply skb) i = byteAt skb i := by
  unfold Call.apply
  split
  · apply byteAt_storeBytes_outside
    have apart := spares skb
    omega
  · rfl

theorem length_runCalls (h : Helpers) (calls : List Call) (skb : Frame) :
    (runCalls h calls skb).2.length = skb.length := by
  induction calls generalizing skb with
  | nil => rfl
  | cons c rest ih =>
    rw [runCalls]
    split
    · split
      · rfl
      · rw [ih,length_storeBytes]
    · exact ih _

theorem byteAt_runCalls (h : Helpers) (calls : List Call) (offset width : Nat)
    (spares : ∀ c ∈ calls, c.Spares offset width) (skb : Frame) (i : Nat)
    (low : offset ≤ i) (high : i < offset + width) : byteAt (runCalls h calls skb).2 i = byteAt skb i := by
  induction calls generalizing skb with
  | nil => rfl
  | cons c rest ih =>
    have tail := ih (fun other member => spares other (List.mem_cons_of_mem _ member))
    have stored := byteAt_apply (spares c List.mem_cons_self) skb i low high
    unfold Call.apply at stored
    rw [runCalls]
    split
    · rename_i needed
      rw [if_pos needed] at stored
      split
      · rfl
      · rw [tail,stored]
    · exact tail _

theorem runCalls_ok {h : Helpers} {calls : List Call} {skb : Frame} (done : (runCalls h calls skb).1 = 0) :
    (runCalls h calls skb).2 = calls.foldl (fun skb c => c.apply skb) skb := by
  induction calls generalizing skb with
  | nil => rfl
  | cons c rest ih =>
    rw [runCalls] at done ⊢
    rw [List.foldl_cons,Call.apply]
    split at done
    · rename_i needed
      split at done
      · cases done
      · rename_i works
        rw [if_pos needed,if_neg works,if_pos needed]
        exact ih done
    · rename_i skipped
      rw [if_neg skipped,if_neg skipped]
      exact ih done

theorem length_applied (calls : List Call) (skb : Frame) :
    (calls.foldl (fun skb c => c.apply skb) skb).length = skb.length := by
  induction calls generalizing skb with
  | nil => rfl
  | cons c rest ih => rw [List.foldl_cons,ih,length_apply]

theorem byteAt_applied (calls : List Call) (offset width : Nat)
    (spares : ∀ c ∈ calls, c.Spares offset width) (skb : Frame) (i : Nat)
    (low : offset ≤ i) (high : i < offset + width) :
    byteAt (calls.foldl (fun skb c => c.apply skb) skb) i = byteAt skb i := by
  induction calls generalizing skb with
  | nil => rfl
  | cons c rest ih =>
    rw [List.foldl_cons,ih (fun other member => spares other (List.mem_cons_of_mem _ member)),
      byteAt_apply (spares c List.mem_cons_self) skb i low high]

theorem load32_spared {calls : List Call} {offset : Nat} (spares : ∀ c ∈ calls, c.Spares offset 4) (skb : Frame) :
    load32 (calls.foldl (fun skb c => c.apply skb) skb) offset = load32 skb offset := by
  simp only [load32]
  rw [byteAt_applied calls offset 4 spares skb offset (by omega) (by omega),
    byteAt_applied calls offset 4 spares skb (offset+1) (by omega) (by omega),
    byteAt_applied calls offset 4 spares skb (offset+2) (by omega) (by omega),
    byteAt_applied calls offset 4 spares skb (offset+3) (by omega) (by omega)]

theorem load16_spared {calls : List Call} {offset : Nat} (spares : ∀ c ∈ calls, c.Spares offset 2) (skb : Frame) :
    load16 (calls.foldl (fun skb c => c.apply skb) skb) offset = load16 skb offset := by
  simp only [load16]
  rw [byteAt_applied calls offset 2 spares skb offset (by omega) (by omega),
    byteAt_applied calls offset 2 spares skb (offset+1) (by omega) (by omega)]

-- One field of the tuple: the calls before and after its own store leave it
-- alone, and the store is skipped only when the field has its new value already.
theorem load32_applied (earlier later : List Call) {c : Call} {skb : Frame} {offset : Nat} {new : Be32}
    (before : ∀ c ∈ earlier, c.Spares offset 4) (after : ∀ c ∈ later, c.Spares offset 4)
    (here : c = ⟨load32 skb offset ≠ new,c.call,offset,fun _ => new.bytes⟩) (inside : offset + 4 ≤ skb.length) :
    load32 ((earlier ++ c :: later).foldl (fun skb c => c.apply skb) skb) offset = new := by
  rw [List.foldl_append,List.foldl_cons,load32_spared after,here,Call.apply]
  dsimp only
  split
  · exact load32_store _ _ _ (by rw [length_applied]; exact inside)
  · rename_i same
    rw [load32_spared before]
    simpa using same

theorem load16_applied (earlier later : List Call) {c : Call} {skb : Frame} {offset : Nat} {new : Be16}
    (before : ∀ c ∈ earlier, c.Spares offset 2) (after : ∀ c ∈ later, c.Spares offset 2)
    (here : c = ⟨load16 skb offset ≠ new,c.call,offset,fun _ => new.bytes⟩) (inside : offset + 2 ≤ skb.length) :
    load16 ((earlier ++ c :: later).foldl (fun skb c => c.apply skb) skb) offset = new := by
  rw [List.foldl_append,List.foldl_cons,load16_spared after,here,Call.apply]
  dsimp only
  split
  · exact load16_store _ _ _ (by rw [length_applied]; exact inside)
  · rename_i same
    rw [load16_spared before]
    simpa using same

theorem Parsed.low {skb : Frame} {hdr : Headers} (valid : Parsed skb hdr) : 34 ≤ hdr.tcp := by
  have options := valid.ihl
  rw [valid.tcp]
  omega

theorem Parsed.high {skb : Frame} {hdr : Headers} (valid : Parsed skb hdr) : hdr.tcp + 20 ≤ skb.length :=
  Nat.le_trans (Nat.add_le_add_left valid.doff _) valid.inside

theorem csum_spares (h : Helpers) (skb : Frame) (hdr : Headers) (new : Tuple) {offset width : Nat}
    (ip : offset + width ≤ hdr.ip + 10 ∨ hdr.ip + 12 ≤ offset)
    (tcp : offset + width ≤ hdr.tcp + 16 ∨ hdr.tcp + 18 ≤ offset) :
    ∀ c ∈ csumCalls h skb hdr new, c.Spares offset width := by
  intro c member
  simp only [csumCalls,List.mem_cons,List.not_mem_nil,or_false] at member
  rcases member with rfl | rfl | rfl | rfl | rfl | rfl <;>
    · intro other
      simp only [Be16.bytes,List.length_cons,List.length_nil]
      omega

theorem rewrite_spares (h : Helpers) (skb : Frame) (hdr : Headers) (new : Tuple) {offset width : Nat}
    (ip : offset + width ≤ hdr.ip + 10 ∨ hdr.ip + 20 ≤ offset)
    (ports : offset + width ≤ hdr.tcp ∨ hdr.tcp + 4 ≤ offset)
    (check : offset + width ≤ hdr.tcp + 16 ∨ hdr.tcp + 18 ≤ offset) :
    ∀ c ∈ rewriteCalls h skb hdr new, c.Spares offset width := by
  intro c member
  rcases List.mem_append.mp member with store | csum
  · simp only [storeCalls,List.mem_cons,List.not_mem_nil,or_false] at store
    rcases store with rfl | rfl | rfl | rfl <;>
      · intro other
        simp only [Be32.bytes,Be16.bytes,List.length_cons,List.length_nil]
        omega
  · exact csum_spares h skb hdr new (by omega) check c csum

theorem rewrite_parsed {skb : Frame} {hdr : Headers} (valid : Parsed skb hdr) (h : Helpers) (new : Tuple) :
    Parsed (rewriteTuple h skb hdr new).2 hdr := by
  have low := valid.low
  have ip : hdr.ip = 14 := valid.ip
  have keep : ∀ i, i < 24 ∨ (hdr.tcp + 4 ≤ i ∧ i < hdr.tcp + 16) →
      byteAt (rewriteTuple h skb hdr new).2 i = byteAt skb i := by
    intro i apart
    exact byteAt_runCalls h _ i 1 (rewrite_spares h skb hdr new (by omega) (by omega) (by omega)) skb i
      (by omega) (by omega)
  have length : (rewriteTuple h skb hdr new).2.length = skb.length := length_runCalls _ _ _
  have version := keep 14 (.inl (by omega))
  have doff := keep (hdr.tcp+12) (.inr (by omega))
  refine ⟨valid.ip,?_,?_,?_,?_,?_,?_,?_⟩
  · rw [load16,keep 12 (.inl (by omega)),keep 13 (.inl (by omega))]
    exact valid.ethertype
  · rw [version]
    exact valid.version
  · rw [keep 23 (.inl (by omega))]
    exact valid.protocol
  · rw [version]
    exact valid.tcp
  · rw [version]
    exact valid.ihl
  · rw [doff]
    exact valid.doff
  · rw [doff,length]
    exact valid.inside

def HelperCall.extent (hdr : Headers) : HelperCall → Nat × Nat
  | .storeSaddr => (hdr.ip + 12,4)
  | .storeDaddr => (hdr.ip + 16,4)
  | .storeSport => (hdr.tcp,2)
  | .storeDport => (hdr.tcp + 2,2)
  | .l3Saddr | .l3Daddr => (hdr.ip + 10,2)
  | .l4Saddr | .l4Daddr | .l4Sport | .l4Dport => (hdr.tcp + 16,2)

def HelperCall.stores : List HelperCall := [.storeSaddr,.storeDaddr,.storeSport,.storeDport]

theorem call_extent (h : Helpers) (skb : Frame) (hdr : Headers) (new : Tuple) :
    ∀ c ∈ rewriteCalls h skb hdr new, ∀ skb, (c.offset,(c.value skb).length) = c.call.extent hdr := by
  intro c member
  simp only [rewriteCalls,storeCalls,csumCalls,List.cons_append,List.nil_append,List.mem_cons,List.not_mem_nil,or_false] at member
  rcases member with rfl | rfl | rfl | rfl | rfl | rfl | rfl | rfl | rfl | rfl <;> exact fun _ => rfl

theorem extent_apart {hdr : Headers} (low : hdr.ip + 20 ≤ hdr.tcp) {field other : HelperCall}
    (store : field ∈ HelperCall.stores) (apart : other ≠ field) :
    (other.extent hdr).1 + (other.extent hdr).2 ≤ (field.extent hdr).1 ∨
      (field.extent hdr).1 + (field.extent hdr).2 ≤ (other.extent hdr).1 := by
  simp only [HelperCall.stores,List.mem_cons,List.not_mem_nil,or_false] at store
  rcases store with rfl | rfl | rfl | rfl <;> cases other <;> simp [HelperCall.extent] at apart ⊢ <;> omega

theorem others_spare {h : Helpers} {skb : Frame} {hdr : Headers} {new : Tuple} (low : hdr.ip + 20 ≤ hdr.tcp)
    {field : HelperCall} (store : field ∈ HelperCall.stores) (earlier : List Call) {later : List Call} {c : Call}
    (whole : rewriteCalls h skb hdr new = earlier ++ c :: later) (here : c.call = field) {offset width : Nat}
    (extent : field.extent hdr = (offset,width)) :
    (∀ d ∈ earlier, d.Spares offset width) ∧ ∀ d ∈ later, d.Spares offset width := by
  rw [← List.forall_mem_append]
  intro d member skb'
  have distinct : ((rewriteCalls h skb hdr new).map Call.call).Nodup := by
    change [HelperCall.storeSaddr,.storeDaddr,.storeSport,.storeDport,.l3Saddr,.l3Daddr,.l4Saddr,.l4Daddr,.l4Sport,.l4Dport].Nodup
    decide
  have among : d ∈ rewriteCalls h skb hdr new := by
    rw [whole]
    exact (List.perm_middle.mem_iff).mpr (List.mem_cons_of_mem _ member)
  rw [whole,List.map_append,List.map_cons,List.nodup_middle,← List.map_append,List.nodup_cons,here] at distinct
  have apart : d.call ≠ field := fun same => distinct.1 (same ▸ List.mem_map_of_mem member)
  have disjoint := extent_apart low store apart
  rw [extent,← call_extent h skb hdr new d among skb'] at disjoint
  exact disjoint

theorem rewrite_loaded {skb : Frame} {hdr : Headers} (valid : Parsed skb hdr) {h : Helpers} {new : Tuple}
    (done : (rewriteTuple h skb hdr new).1 = 0) : loadTuple (rewriteTuple h skb hdr new).2 hdr = new := by
  have low : hdr.ip + 20 ≤ hdr.tcp := valid.ip ▸ valid.low
  have high := valid.high
  have applied := runCalls_ok done
  have saddr : load32 (rewriteTuple h skb hdr new).2 (hdr.ip+12) = new.saddr := by
    obtain ⟨before,after⟩ := others_spare low (show .storeSaddr ∈ HelperCall.stores by decide) [] rfl rfl rfl
    rw [rewriteTuple,applied]
    exact load32_applied [] _ before after rfl (by omega)
  have daddr : load32 (rewriteTuple h skb hdr new).2 (hdr.ip+16) = new.daddr := by
    obtain ⟨before,after⟩ := others_spare low (show .storeDaddr ∈ HelperCall.stores by decide) [_] rfl rfl rfl
    rw [rewriteTuple,applied]
    exact load32_applied [_] _ before after rfl (by omega)
  have sport : load16 (rewriteTuple h skb hdr new).2 hdr.tcp = new.sport := by
    obtain ⟨before,after⟩ := others_spare low (show .storeSport ∈ HelperCall.stores by decide) [_,_] rfl rfl rfl
    rw [rewriteTuple,applied]
    exact load16_applied [_,_] _ before after rfl (by omega)
  have dport : load16 (rewriteTuple h skb hdr new).2 (hdr.tcp+2) = new.dport := by
    obtain ⟨before,after⟩ := others_spare low (show .storeDport ∈ HelperCall.stores by decide) [_,_,_] rfl rfl rfl
    rw [rewriteTuple,applied]
    exact load16_applied [_,_,_] _ before after rfl (by omega)
  simp only [loadTuple,saddr,daddr,sport,dport]

-- Helpers that never fail, on a kernel whose checksum helpers do the usual
-- one's-complement update of a plain (not offloaded) checksum.
def wordSum : List UInt8 → Nat
  | high :: low :: rest => high.toNat * 256 + low.toNat + wordSum rest
  | _ => 0

def fold16 (n : Nat) : Nat := n % 65536 + n / 65536

def csumReplace (check : Be16) (before after : List UInt8) : Be16 :=
  let removed := before.length / 2 * 65535 - wordSum before
  htons (UInt16.ofNat (65535 - fold16 (fold16 (65535 - ntohs check + removed + wordSum after))))

def plainHelpers (now : UInt64) : Helpers := ⟨now,fun _ => false,csumReplace,fun _ => csumReplace⟩

theorem plainHelpers_succeed (now : UInt64) : (plainHelpers now).Succeed := fun _ => rfl

-- The shortest packet the parser takes: no IP options, no TCP options, no data.
def tcpFrame (t : Tuple) : Frame :=
  [2,0,0,0,0,1,2,0,0,0,0,2,8,0] ++ [0x45,0,0,40,0,0,0,0,64,6,0,0] ++ t.saddr.bytes ++ t.daddr.bytes ++
    t.sport.bytes ++ t.dport.bytes ++ [0,0,0,0,0,0,0,0,0x50,2,255,255,0,0,0,0]

theorem tcpFrame_parse (t : Tuple) : parseTcpPacket (tcpFrame t) = some ⟨14,34⟩ := by
  have version : byteAt (tcpFrame t) 14 = 0x45 := rfl
  have doff : byteAt (tcpFrame t) 46 = 0x50 := rfl
  have ethertype : load16 (tcpFrame t) 12 = ⟨8,0⟩ := rfl
  refine parse_complete ⟨rfl,by rw [ethertype]; decide,by rw [version]; decide,rfl,by rw [version]; decide,
    by rw [version]; decide,by rw [doff]; decide,?_⟩
  have length : (tcpFrame t).length = 54 := rfl
  rw [doff,length]
  decide

theorem tcpFrame_tuple (t : Tuple) : loadTuple (tcpFrame t) ⟨14,34⟩ = t := rfl

end Aipr.NodeportTc
