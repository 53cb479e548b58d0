import Aipr.NodeportPacket
import Aipr.OnesComplement
import Mathlib.Data.List.GetD

namespace Aipr.Checksums
open NodeportTc OnesComplement

abbrev allOnes : Nat := 65535

-- Big-endian words; an odd byte at the end is the high half of the last one.
def words : List UInt8 → List Nat
  | high :: low :: rest => (high.toNat * 256 + low.toNat) :: words rest
  | [high] => [high.toNat * 256]
  | [] => []

def weight (bytes : List UInt8) : Nat := (words bytes).sum

-- The packet is `skb`, the linear part, and `paged`, what the skb has in pages.
def ipHeader (skb : Frame) (hdr : Headers) : List UInt8 := (skb.drop hdr.ip).take (hdr.tcp - hdr.ip)

def totLen (skb : Frame) (hdr : Headers) : Nat := ntohs (load16 skb (hdr.ip + 2))

def segment (skb : Frame) (paged : List UInt8) (hdr : Headers) : List UInt8 :=
  ((skb ++ paged).take (hdr.ip + totLen skb hdr)).drop hdr.tcp

def pseudoHeader (t : Tuple) (length : Nat) : List UInt8 :=
  t.saddr.bytes ++ t.daddr.bytes ++ [0,ipprotoTcp] ++ (htons (UInt16.ofNat length)).bytes

def IpVerifies (skb : Frame) (hdr : Headers) : Prop := Verifies allOnes (words (ipHeader skb hdr))

structure TcpVerifies (skb : Frame) (paged : List UInt8) (hdr : Headers) : Prop where
  covered : hdr.tcp + sizeofTcphdr ≤ hdr.ip + totLen skb hdr
  inside : hdr.ip + totLen skb hdr ≤ skb.length + paged.length
  sum : Verifies allOnes (words (pseudoHeader (loadTuple skb hdr) (hdr.ip + totLen skb hdr - hdr.tcp) ++ segment skb paged hdr))

-- What the checksum helpers do with a field of two or four bytes, on a checksum that is not offloaded.
def Incremental (replace : Be16 → List UInt8 → List UInt8 → Be16) : Prop :=
  ∀ check before after, before.length = after.length → (before.length = 2 ∨ before.length = 4) →
    Updated allOnes (ntohs check) (words before) (words after) (ntohs (replace check before after))

structure Incrementally (h : Helpers) : Prop where
  l3 : Incremental h.l3CsumReplace
  l4 : ∀ pseudo, Incremental (h.l4CsumReplace pseudo)

section Words
variable {bytes xs ys : List UInt8}

theorem words_getD (k : Nat) : (words bytes).getD k 0 = (bytes.getD (2*k) 0).toNat * 256 + (bytes.getD (2*k+1) 0).toNat := by
  induction bytes using words.induct generalizing k with
  | case1 high low rest ih =>
    cases k with
    | zero => rw [words,List.getD_cons_zero,Nat.mul_zero,List.getD_cons_zero,List.getD_cons_succ,List.getD_cons_zero]
    | succ k =>
      have even : 2 * (k+1) = 2 * k + 1 + 1 := by omega
      rw [words,List.getD_cons_succ,ih,even]
      simp only [List.getD_cons_succ]
  | case2 high => cases k <;> simp [words]
  | case3 => simp [words]

theorem words_low : ∀ w ∈ words bytes, w ≤ allOnes := by
  induction bytes using words.induct with
  | case1 high low rest ih =>
    have boundHigh := high.toNat_lt
    have boundLow := low.toNat_lt
    rw [words,List.forall_mem_cons]
    exact ⟨show _ ≤ 65535 by omega,ih⟩
  | case2 high =>
    have boundHigh := high.toNat_lt
    rw [words,List.forall_mem_singleton]
    change _ ≤ 65535
    omega
  | case3 => exact fun _ none => absurd none List.not_mem_nil

theorem words_agree {k : Nat} (high : xs.getD (2*k) 0 = ys.getD (2*k) 0) (low : xs.getD (2*k+1) 0 = ys.getD (2*k+1) 0) :
    (words xs).getD k 0 = (words ys).getD k 0 := by
  rw [words_getD,words_getD,high,low]

theorem weight_append (even : xs.length % 2 = 0) : weight (xs ++ ys) = weight xs + weight ys := by
  induction xs using words.induct with
  | case1 high low rest ih =>
    rw [List.length_cons,List.length_cons] at even
    have tail := ih (by omega)
    simp only [weight] at tail ⊢
    simp only [List.cons_append,words,List.sum_cons,tail]
    omega
  | case2 high => cases even
  | case3 => simp [weight,words]

theorem weight_load32 (skb : Frame) (i : Nat) : weight (load32 skb i).bytes = ntohs (load16 skb i) + ntohs (load16 skb (i+2)) := by
  simp [weight,words,Be32.bytes,load32,load16,ntohs]

theorem weight_load16 (x : Be16) : weight x.bytes = ntohs x := by
  simp [weight,words,Be16.bytes,ntohs]

end Words

section Slices
variable {skb skb' : Frame} {hdr : Headers} {paged : List UInt8}

theorem ipHeader_getD (i : Nat) : (ipHeader skb hdr).getD i 0 = if i < hdr.tcp - hdr.ip then byteAt skb (hdr.ip + i) else 0 := by
  rw [ipHeader,List.getD_eq_getElem?_getD,List.getElem?_take,List.getElem?_drop]
  split
  · rfl
  · rfl

theorem segment_getD (i : Nat) : (segment skb paged hdr).getD i 0 =
    if hdr.tcp + i < hdr.ip + totLen skb hdr then byteAt (skb ++ paged) (hdr.tcp + i) else 0 := by
  rw [segment,List.getD_eq_getElem?_getD,List.getElem?_drop,List.getElem?_take]
  split
  · rfl
  · rfl

theorem byteAt_packet (length : skb'.length = skb.length) {i : Nat} (same : byteAt skb' i = byteAt skb i) :
    byteAt (skb' ++ paged) i = byteAt (skb ++ paged) i := by
  unfold byteAt at *
  by_cases linear : i < skb.length
  · rw [List.getD_append _ _ _ _ linear,List.getD_append _ _ _ _ (length ▸ linear),same]
  · rw [List.getD_append_right _ _ _ _ (Nat.le_of_not_lt linear),
      List.getD_append_right _ _ _ _ (length ▸ Nat.le_of_not_lt linear),length]

theorem ipHeader_word {k : Nat} (within : hdr.ip + 2 * k + 2 ≤ hdr.tcp) :
    (words (ipHeader skb hdr)).getD k 0 = ntohs (load16 skb (hdr.ip + 2 * k)) := by
  rw [words_getD,ipHeader_getD,ipHeader_getD,if_pos (by omega),if_pos (by omega)]
  rfl

theorem segment_word {k : Nat} (within : hdr.tcp + 2 * k + 2 ≤ hdr.ip + totLen skb hdr) (linear : hdr.tcp + 2 * k + 2 ≤ skb.length) :
    (words (segment skb paged hdr)).getD k 0 = ntohs (load16 skb (hdr.tcp + 2 * k)) := by
  rw [words_getD,segment_getD,segment_getD,if_pos (by omega),if_pos (by omega),byteAt,byteAt,
    List.getD_append _ _ _ _ (by omega),List.getD_append _ _ _ _ (by omega)]
  rfl

theorem pseudoHeader_weight (t : Tuple) (length : Nat) (bytes : List UInt8) : weight (pseudoHeader t length ++ bytes) =
    weight t.saddr.bytes + weight t.daddr.bytes + 6 + length % 65536 + weight bytes := by
  have protocol : weight [0,ipprotoTcp] = 6 := by decide
  have address (x : Be32) : x.bytes.length = 4 := rfl
  have port (x : Be16) : x.bytes.length = 2 := rfl
  rw [pseudoHeader,weight_append (by simp [address,port]),weight_append (by simp [address]),weight_append (by simp [address]),
    weight_append (by rw [address]),protocol,weight_load16,ntohs_htons,UInt16.toNat_ofNat']

end Slices

section Calls
variable {h : Helpers} {skb : Frame} {hdr : Headers} {old new : Tuple} {o : Nat}

def field (t : Tuple) : HelperCall → List UInt8
  | .storeSaddr | .l3Saddr | .l4Saddr => t.saddr.bytes
  | .storeDaddr | .l3Daddr | .l4Daddr => t.daddr.bytes
  | .storeSport | .l4Sport => t.sport.bytes
  | .storeDport | .l4Dport => t.dport.bytes

theorem field_length (old new : Tuple) (call : HelperCall) :
    (field old call).length = (field new call).length ∧ ((field old call).length = 2 ∨ (field old call).length = 4) := by
  cases call <;> simp [field,Be32.bytes,Be16.bytes]

def Corrects (old new : Tuple) (o : Nat) (c : Call) : Prop :=
  ∀ skb, o + 2 ≤ skb.length → ntohs (load16 (c.apply skb) o) + weight (field new c.call) ≡
    ntohs (load16 skb o) + weight (field old c.call) [MOD allOnes]

theorem ntohs_le (x : Be16) : ntohs x ≤ allOnes := by
  have high := x.b0.toNat_lt
  have low := x.b1.toNat_lt
  change _ * 256 + _ ≤ 65535
  omega

theorem corrects {replace : Be16 → List UInt8 → List UInt8 → Be16} {needed : Bool} (call : HelperCall)
    (incremental : Incremental replace) (skipped : needed = false → field old call = field new call) :
    Corrects old new o ⟨needed,call,o,fun skb => (replace (load16 skb o) (field old call) (field new call)).bytes⟩ := by
  intro skb inside
  obtain ⟨length,width⟩ := field_length old new call
  cases needed with
  | false =>
    rw [skipped rfl]
    rfl
  | true =>
    change ntohs (load16 (storeBytes skb o (replace (load16 skb o) (field old call) (field new call)).bytes) o) + _ ≡ _ [MOD _]
    rw [load16_store _ _ _ inside]
    exact updated_balances (ntohs_le _) words_low words_low (incremental _ _ _ length width)

theorem corrected_run {calls : List Call} (each : ∀ c ∈ calls, Corrects old new o c) (inside : o + 2 ≤ skb.length) :
    ntohs (load16 (calls.foldl (fun skb c => c.apply skb) skb) o) + (calls.map fun c => weight (field new c.call)).sum ≡
      ntohs (load16 skb o) + (calls.map fun c => weight (field old c.call)).sum [MOD allOnes] := by
  induction calls generalizing skb with
  | nil => rfl
  | cons c rest ih =>
    have here := each c List.mem_cons_self skb inside
    have within : o + 2 ≤ (c.apply skb).length := by rw [length_apply]; exact inside
    have later := ih (fun d member => each d (List.mem_cons_of_mem _ member)) within
    rw [List.foldl_cons,List.map_cons,List.map_cons,List.sum_cons,List.sum_cons,← Nat.add_assoc,← Nat.add_assoc,
      Nat.add_right_comm]
    refine (later.add_right _).trans ?_
    rw [Nat.add_right_comm]
    exact here.add_right _

theorem l3_corrects (works : Incrementally h) : ∀ c ∈ (csumCalls h skb hdr new).take 2, Corrects (loadTuple skb hdr) new (hdr.ip + 10) c := by
  intro c member
  simp only [csumCalls,List.take_succ_cons,List.take_zero,List.mem_cons,List.not_mem_nil,or_false] at member
  rcases member with rfl | rfl
  · exact corrects .l3Saddr works.l3 fun same => congrArg Be32.bytes (by simpa using same)
  · exact corrects .l3Daddr works.l3 fun same => congrArg Be32.bytes (by simpa using same)

theorem l4_corrects (works : Incrementally h) : ∀ c ∈ (csumCalls h skb hdr new).drop 2, Corrects (loadTuple skb hdr) new (hdr.tcp + 16) c := by
  intro c member
  simp only [csumCalls,List.drop_succ_cons,List.drop_zero,List.mem_cons,List.not_mem_nil,or_false] at member
  rcases member with rfl | rfl | rfl | rfl
  · exact corrects .l4Saddr (works.l4 true) fun same => congrArg Be32.bytes (by simpa using same)
  · exact corrects .l4Daddr (works.l4 true) fun same => congrArg Be32.bytes (by simpa using same)
  · exact corrects .l4Sport (works.l4 false) fun same => congrArg Be16.bytes (by simpa using same)
  · exact corrects .l4Dport (works.l4 false) fun same => congrArg Be16.bytes (by simpa using same)

end Calls

section Run
variable {h : Helpers} {skb : Frame} {hdr : Headers} {new : Tuple} {o : Nat}

theorem call_spares {c : Call} {width : Nat} (member : c ∈ rewriteCalls h skb hdr new)
    (apart : o + width ≤ (c.call.extent hdr).1 ∨ (c.call.extent hdr).1 + (c.call.extent hdr).2 ≤ o) : c.Spares o width := by
  intro skb'
  rw [← call_extent h skb hdr new c member skb'] at apart
  exact apart.symm

theorem checked {earlier here later : List Call} (whole : rewriteCalls h skb hdr new = earlier ++ (here ++ later))
    (before : ∀ c ∈ earlier, c.Spares o 2) (after : ∀ c ∈ later, c.Spares o 2)
    (each : ∀ c ∈ here, Corrects (loadTuple skb hdr) new o c) (inside : o + 2 ≤ skb.length)
    (done : (rewriteTuple h skb hdr new).1 = 0) :
    ntohs (load16 (rewriteTuple h skb hdr new).2 o) + (here.map fun c => weight (field new c.call)).sum ≡
      ntohs (load16 skb o) + (here.map fun c => weight (field (loadTuple skb hdr) c.call)).sum [MOD allOnes] := by
  have kept : load16 (earlier.foldl (fun skb c => c.apply skb) skb) o = load16 skb o := load16_spared before skb
  rw [rewriteTuple,runCalls_ok done,whole,List.foldl_append,List.foldl_append,load16_spared after,← kept]
  exact corrected_run each (by rw [length_applied]; exact inside)

theorem stores_spare (h : Helpers) (valid : Parsed skb hdr) (check : o = hdr.ip + 10 ∨ o = hdr.tcp + 16) :
    ∀ c ∈ storeCalls skb hdr new, c.Spares o 2 := by
  have ip : hdr.ip = 14 := valid.ip
  have low := valid.low
  intro c member
  refine call_spares (h := h) (List.mem_append_left _ member) ?_
  simp only [storeCalls,List.mem_cons,List.not_mem_nil,or_false] at member
  rcases member with rfl | rfl | rfl | rfl <;> simp only [HelperCall.extent] <;> omega

theorem l3_spare (valid : Parsed skb hdr) : ∀ c ∈ (csumCalls h skb hdr new).take 2, c.Spares (hdr.tcp + 16) 2 := by
  have ip : hdr.ip = 14 := valid.ip
  have low := valid.low
  intro c member
  refine call_spares (List.mem_append_right _ (List.mem_of_mem_take member)) ?_
  simp only [csumCalls,List.take_succ_cons,List.take_zero,List.mem_cons,List.not_mem_nil,or_false] at member
  rcases member with rfl | rfl <;> simp only [HelperCall.extent] <;> omega

theorem l4_spare (valid : Parsed skb hdr) : ∀ c ∈ (csumCalls h skb hdr new).drop 2, c.Spares (hdr.ip + 10) 2 := by
  have ip : hdr.ip = 14 := valid.ip
  have low := valid.low
  intro c member
  refine call_spares (List.mem_append_right _ (List.mem_of_mem_drop member)) ?_
  simp only [csumCalls,List.drop_succ_cons,List.drop_zero,List.mem_cons,List.not_mem_nil,or_false] at member
  rcases member with rfl | rfl | rfl | rfl <;> simp only [HelperCall.extent] <;> omega

theorem ip_check (works : Incrementally h) (valid : Parsed skb hdr) (done : (rewriteTuple h skb hdr new).1 = 0) :
    ntohs (load16 (rewriteTuple h skb hdr new).2 (hdr.ip + 10)) + (weight new.saddr.bytes + weight new.daddr.bytes) ≡
      ntohs (load16 skb (hdr.ip + 10)) +
        (weight (loadTuple skb hdr).saddr.bytes + weight (loadTuple skb hdr).daddr.bytes) [MOD allOnes] := by
  have ip : hdr.ip = 14 := valid.ip
  have low := valid.low
  have high := valid.high
  have whole : rewriteCalls h skb hdr new =
      storeCalls skb hdr new ++ ((csumCalls h skb hdr new).take 2 ++ (csumCalls h skb hdr new).drop 2) := rfl
  have balance := checked whole (stores_spare h valid (.inl rfl)) (l4_spare valid) (l3_corrects works) (by omega) done
  simpa only [csumCalls,List.take_succ_cons,List.take_zero,List.map_cons,List.map_nil,List.sum_cons,List.sum_nil,
    Nat.add_zero,field] using balance

theorem tcp_check (works : Incrementally h) (valid : Parsed skb hdr) (done : (rewriteTuple h skb hdr new).1 = 0) :
    ntohs (load16 (rewriteTuple h skb hdr new).2 (hdr.tcp + 16)) +
        (weight new.saddr.bytes + (weight new.daddr.bytes + (weight new.sport.bytes + weight new.dport.bytes))) ≡
      ntohs (load16 skb (hdr.tcp + 16)) + (weight (loadTuple skb hdr).saddr.bytes + (weight (loadTuple skb hdr).daddr.bytes +
        (weight (loadTuple skb hdr).sport.bytes + weight (loadTuple skb hdr).dport.bytes))) [MOD allOnes] := by
  have high := valid.high
  have whole : rewriteCalls h skb hdr new =
      (storeCalls skb hdr new ++ (csumCalls h skb hdr new).take 2) ++ ((csumCalls h skb hdr new).drop 2 ++ []) := rfl
  have balance := checked whole (List.forall_mem_append.mpr ⟨stores_spare h valid (.inr rfl),l3_spare valid⟩)
    (fun _ none => absurd none List.not_mem_nil) (l4_corrects works) (by omega) done
  simpa only [csumCalls,List.drop_succ_cons,List.drop_zero,List.map_cons,List.map_nil,List.sum_cons,List.sum_nil,
    Nat.add_zero,field] using balance

theorem rewrite_elsewhere {i : Nat} (ip : i < hdr.ip + 10 ∨ hdr.ip + 20 ≤ i) (ports : i < hdr.tcp ∨ hdr.tcp + 4 ≤ i)
    (check : i < hdr.tcp + 16 ∨ hdr.tcp + 18 ≤ i) : byteAt (rewriteTuple h skb hdr new).2 i = byteAt skb i :=
  byteAt_runCalls h _ i 1 (rewrite_spares h skb hdr new (by omega) (by omega) (by omega)) skb i (by omega) (by omega)

theorem rewrite_totLen (valid : Parsed skb hdr) : totLen (rewriteTuple h skb hdr new).2 hdr = totLen skb hdr := by
  have ip : hdr.ip = 14 := valid.ip
  have low := valid.low
  simp only [totLen,load16]
  rw [rewrite_elsewhere (by omega) (by omega) (by omega),rewrite_elsewhere (by omega) (by omega) (by omega)]

theorem ipHeader_agree (valid : Parsed skb hdr) {i : Nat} (elsewhere : i < 10 ∨ 20 ≤ i) :
    (ipHeader skb hdr).getD i 0 = (ipHeader (rewriteTuple h skb hdr new).2 hdr).getD i 0 := by
  have ip : hdr.ip = 14 := valid.ip
  have low := valid.low
  rw [ipHeader_getD,ipHeader_getD]
  split
  · exact (rewrite_elsewhere (by omega) (by omega) (by omega)).symm
  · rfl

theorem segment_agree (valid : Parsed skb hdr) (paged : List UInt8) {i : Nat} (elsewhere : (4 ≤ i ∧ i < 16) ∨ 18 ≤ i) :
    (segment skb paged hdr).getD i 0 = (segment (rewriteTuple h skb hdr new).2 paged hdr).getD i 0 := by
  have ip : hdr.ip = 14 := valid.ip
  have low := valid.low
  have length : (rewriteTuple h skb hdr new).2.length = skb.length := length_runCalls _ _ _
  rw [segment_getD,segment_getD,rewrite_totLen valid,
    byteAt_packet length (rewrite_elsewhere (by omega) (by omega) (by omega))]

theorem ipHeader_balance (works : Incrementally h) (valid : Parsed skb hdr) (done : (rewriteTuple h skb hdr new).1 = 0) :
    weight (ipHeader (rewriteTuple h skb hdr new).2 hdr) ≡ weight (ipHeader skb hdr) [MOD allOnes] := by
  have ip : hdr.ip = 14 := valid.ip
  have low := valid.low
  have loaded := rewrite_loaded valid done
  have balance := ip_check works valid done
  have agree : ∀ k ∉ ({5,6,7,8,9} : Finset Nat),
      (words (ipHeader skb hdr)).getD k 0 = (words (ipHeader (rewriteTuple h skb hdr new).2 hdr)).getD k 0 := by
    intro k elsewhere
    simp only [Finset.mem_insert,Finset.mem_singleton,not_or] at elsewhere
    exact words_agree (ipHeader_agree valid (by omega)) (ipHeader_agree valid (by omega))
  have fields (skb : Frame) : ∑ k ∈ ({5,6,7,8,9} : Finset Nat), (words (ipHeader skb hdr)).getD k 0 =
      ntohs (load16 skb (hdr.ip + 10)) + (weight (loadTuple skb hdr).saddr.bytes + weight (loadTuple skb hdr).daddr.bytes) := by
    simp only [loadTuple,weight_load32]
    rw [Finset.sum_insert (by decide),Finset.sum_insert (by decide),Finset.sum_insert (by decide),Finset.sum_insert (by decide),
      Finset.sum_singleton,ipHeader_word (by omega),ipHeader_word (by omega),ipHeader_word (by omega),ipHeader_word (by omega),
      ipHeader_word (by omega),Nat.add_assoc (ntohs (load16 skb (hdr.ip + 12)))]
  have replaced := sum_replaced _ agree
  rw [fields,fields,loaded] at replaced
  refine Nat.ModEq.add_right_cancel' _ (Nat.ModEq.trans ?_ (balance.add_left (weight (ipHeader skb hdr))))
  exact congrArg (· % allOnes) replaced

theorem segment_replaced (paged : List UInt8) (valid : Parsed skb hdr) (covered : hdr.tcp + 20 ≤ hdr.ip + totLen skb hdr)
    (done : (rewriteTuple h skb hdr new).1 = 0) :
    weight (segment (rewriteTuple h skb hdr new).2 paged hdr) + (weight (loadTuple skb hdr).sport.bytes +
        (weight (loadTuple skb hdr).dport.bytes + ntohs (load16 skb (hdr.tcp + 16)))) =
      weight (segment skb paged hdr) +
        (weight new.sport.bytes + (weight new.dport.bytes + ntohs (load16 (rewriteTuple h skb hdr new).2 (hdr.tcp + 16)))) := by
  have high := valid.high
  have length : (rewriteTuple h skb hdr new).2.length = skb.length := length_runCalls _ _ _
  have loaded := rewrite_loaded valid done
  have agree : ∀ k ∉ ({0,1,8} : Finset Nat),
      (words (segment skb paged hdr)).getD k 0 = (words (segment (rewriteTuple h skb hdr new).2 paged hdr)).getD k 0 := by
    intro k elsewhere
    simp only [Finset.mem_insert,Finset.mem_singleton,not_or] at elsewhere
    exact words_agree (segment_agree valid paged (by omega)) (segment_agree valid paged (by omega))
  have fields (skb : Frame) (covered : hdr.tcp + 20 ≤ hdr.ip + totLen skb hdr) (high : hdr.tcp + 20 ≤ skb.length) :
      ∑ k ∈ ({0,1,8} : Finset Nat), (words (segment skb paged hdr)).getD k 0 =
        weight (loadTuple skb hdr).sport.bytes + (weight (loadTuple skb hdr).dport.bytes + ntohs (load16 skb (hdr.tcp + 16))) := by
    simp only [loadTuple,weight_load16]
    rw [Finset.sum_insert (by decide),Finset.sum_insert (by decide),Finset.sum_singleton,segment_word (by omega) (by omega),
      segment_word (by omega) (by omega),segment_word (by omega) (by omega)]
    rfl
  have replaced := sum_replaced _ agree
  rw [fields skb covered high,fields _ (by rw [rewrite_totLen valid]; exact covered) (by omega),loaded] at replaced
  exact replaced

theorem covered_balance {paged : List UInt8} (works : Incrementally h) (valid : Parsed skb hdr)
    (covered : hdr.tcp + 20 ≤ hdr.ip + totLen skb hdr) (done : (rewriteTuple h skb hdr new).1 = 0) (length : Nat) :
    weight (pseudoHeader new length ++ segment (rewriteTuple h skb hdr new).2 paged hdr) ≡
      weight (pseudoHeader (loadTuple skb hdr) length ++ segment skb paged hdr) [MOD allOnes] := by
  have balance := tcp_check works valid done
  have replaced := segment_replaced paged valid covered done
  rw [pseudoHeader_weight,pseudoHeader_weight]
  refine Nat.ModEq.add_right_cancel' (weight (loadTuple skb hdr).sport.bytes +
    (weight (loadTuple skb hdr).dport.bytes + ntohs (load16 skb (hdr.tcp + 16)))) ?_
  have shifted := balance.add_left (6 + length % 65536 + weight (segment skb paged hdr))
  refine Eq.trans (congrArg (· % allOnes) ?_) (shifted.trans (congrArg (· % allOnes) ?_))
  · omega
  · omega

theorem ipHeader_live (valid : Parsed skb hdr) : weight (ipHeader skb hdr) ≠ 0 := by
  intro zero
  have ip : hdr.ip = 14 := valid.ip
  have low := valid.low
  have version := valid.version
  rw [weight,sum_eq_range (Nat.le_succ _),Finset.sum_eq_zero_iff] at zero
  have first := zero 0 (Finset.mem_range.mpr (Nat.zero_lt_succ _))
  rw [ipHeader_word (by omega),Nat.mul_zero,Nat.add_zero,ip,ntohs,load16] at first
  dsimp only at first
  omega

theorem ipVerifies_iff (valid : Parsed skb hdr) : IpVerifies skb hdr ↔ weight (ipHeader skb hdr) ≡ 0 [MOD allOnes] :=
  verifies_iff words_low (ipHeader_live valid)

theorem pseudoHeader_verifies (t : Tuple) (length : Nat) (bytes : List UInt8) :
    Verifies allOnes (words (pseudoHeader t length ++ bytes)) ↔ weight (pseudoHeader t length ++ bytes) ≡ 0 [MOD allOnes] := by
  have live : weight (pseudoHeader t length ++ bytes) ≠ 0 := by
    rw [pseudoHeader_weight]
    omega
  exact verifies_iff words_low live

end Run

theorem checksums_kept {h : Helpers} {skb : Frame} {hdr : Headers} {new : Tuple} {paged : List UInt8} (works : Incrementally h)
    (parsed : parseTcpPacket skb = some hdr) (ip : IpVerifies skb hdr) (tcp : TcpVerifies skb paged hdr)
    (done : (rewriteTuple h skb hdr new).1 = 0) :
    IpVerifies (rewriteTuple h skb hdr new).2 hdr ∧ TcpVerifies (rewriteTuple h skb hdr new).2 paged hdr ∧
    loadTuple (rewriteTuple h skb hdr new).2 hdr = new ∧ (rewriteTuple h skb hdr new).2.length = skb.length ∧
    ∀ i, (i < hdr.ip + 10 ∨ hdr.ip + 20 ≤ i) → (i < hdr.tcp ∨ hdr.tcp + 4 ≤ i) → (i < hdr.tcp + 16 ∨ hdr.tcp + 18 ≤ i) →
      byteAt (rewriteTuple h skb hdr new).2 i = byteAt skb i := by
  have valid := parse_sound parsed
  have length : (rewriteTuple h skb hdr new).2.length = skb.length := length_runCalls _ _ _
  have loaded := rewrite_loaded valid done
  have total : totLen (rewriteTuple h skb hdr new).2 hdr = totLen skb hdr := rewrite_totLen valid
  refine ⟨?_,⟨?_,?_,?_⟩,loaded,length,fun i => rewrite_elsewhere⟩
  · rw [ipVerifies_iff (rewrite_parsed valid h new)]
    exact (ipHeader_balance works valid done).trans ((ipVerifies_iff valid).mp ip)
  · rw [total]
    exact tcp.covered
  · rw [total,length]
    exact tcp.inside
  · rw [total,loaded,pseudoHeader_verifies]
    exact (covered_balance works valid tcp.covered done _).trans ((pseudoHeader_verifies _ _ _).mp tcp.sum)

section Plain

theorem fold16_modEq (n : Nat) : fold16 n ≡ n [MOD allOnes] := by
  change (n % 65536 + n / 65536) % 65535 = n % 65535
  omega

theorem wordSum_weight {bytes : List UInt8} (even : bytes.length % 2 = 0) : wordSum bytes = weight bytes := by
  induction bytes using words.induct with
  | case1 high low rest ih =>
    rw [List.length_cons,List.length_cons] at even
    rw [wordSum,ih (by omega)]
    simp only [weight,words,List.sum_cons]
  | case2 high => cases even
  | case3 => rfl

theorem complements_weight (bytes : List UInt8) (even : bytes.length % 2 = 0) :
    ((words bytes).map (complement allOnes)).sum + weight bytes = bytes.length / 2 * 65535 := by
  induction bytes using words.induct with
  | case1 high low rest ih =>
    have boundHigh := high.toNat_lt
    have boundLow := low.toNat_lt
    rw [List.length_cons,List.length_cons] at even ⊢
    have tail := ih (by omega)
    rw [weight] at tail ⊢
    rw [words,List.map_cons,List.sum_cons,List.sum_cons]
    change 65535 - _ + _ + _ = _
    omega
  | case2 high => cases even
  | case3 => rfl

theorem csumReplace_incremental : Incremental csumReplace := by
  intro check before after length width
  have removed := complements_weight before (by omega)
  have added := complements_weight after (by omega)
  have low := ntohs_le check
  have folded : fold16 (fold16 (65535 - ntohs check + (before.length / 2 * 65535 - weight before) + weight after)) ≤ 65535 := by
    unfold fold16
    omega
  have summed : (complement allOnes (ntohs check) :: ((words before).map (complement allOnes) ++ words after)).sum =
      65535 - ntohs check + (before.length / 2 * 65535 - weight before) + weight after := by
    rw [List.sum_cons,List.sum_append]
    change 65535 - ntohs check + (_ + weight after) = _
    omega
  have replaced : ntohs (csumReplace check before after) = complement allOnes
      (fold16 (fold16 (65535 - ntohs check + (before.length / 2 * 65535 - weight before) + weight after))) := by
    rw [csumReplace,wordSum_weight (by omega),wordSum_weight (by omega),ntohs_htons,UInt16.toNat_ofNat',complement]
    exact Nat.mod_eq_of_lt (by omega)
  rw [Updated,replaced]
  refine same_complement (same_of_modEq folded (sum_le (updated_le words_low)) ?_)
  exact ((fold16_modEq _).trans (fold16_modEq _)).trans (summed ▸ sum_modEq.symm)

end Plain

section Examples

-- A packet with options in both headers; its payload has an odd length and ends in
-- pages, with padding after it.
def hello : Frame :=
  [2,0,0,0,0,1,2,0,0,0,0,2,8,0] ++ [0x46,0,0,51,0,1,0x40,0,64,6,0x7d,0x5e,192,168,1,10,192,168,56,10,1,1,1,0] ++
    [0x9c,0x40,0x75,0x80,0,0,0,7,0,0,0,9,0x60,0x18,255,255,0x48,0x25,0,0,1,1,1,0,104]

def helloPaged : List UInt8 := [105,33,0,0]

def helloTarget : Tuple := ⟨⟨192,168,56,10⟩,⟨10,244,1,5⟩,⟨0x9c,0x40⟩,htons 8080⟩

theorem hello_kept : IpVerifies (rewriteTuple (plainHelpers 0) hello ⟨14,38⟩ helloTarget).2 ⟨14,38⟩ ∧
    TcpVerifies (rewriteTuple (plainHelpers 0) hello ⟨14,38⟩ helloTarget).2 helloPaged ⟨14,38⟩ := by
  have works : Incrementally (plainHelpers 0) := ⟨csumReplace_incremental,fun _ => csumReplace_incremental⟩
  have parsed : parseTcpPacket hello = some ⟨14,38⟩ := by decide
  have ip : IpVerifies hello ⟨14,38⟩ := by
    change sum allOnes (words (ipHeader hello ⟨14,38⟩)) = allOnes
    decide
  have total : totLen hello ⟨14,38⟩ = 51 := by decide
  have tcp : TcpVerifies hello helloPaged ⟨14,38⟩ := by
    refine ⟨by rw [total]; decide,by rw [total]; decide,?_⟩
    rw [total]
    change sum allOnes (words (pseudoHeader (loadTuple hello ⟨14,38⟩) 27 ++ segment hello helloPaged ⟨14,38⟩)) = allOnes
    decide
  have kept := checksums_kept works parsed ip tcp (rewrite_succeeds (plainHelpers_succeed 0) hello ⟨14,38⟩ helloTarget)
  exact ⟨kept.1,kept.2.1⟩

end Examples
end Aipr.Checksums
