import Aipr.NodeportPacket

namespace Aipr.RewriteFailure
open NodeportTc

def FailsFirst (h : Helpers) (calls : List Call) : Prop :=
  (∃ c ∈ calls, c.needed = true ∧ h.fails c.call = true) → ∃ c, calls.find? Call.needed = some c ∧ h.fails c.call = true

theorem runCalls_failed {h : Helpers} (calls : List Call) (skb : Frame) :
    (runCalls h calls skb).1 = -1 ↔ ∃ c ∈ calls, c.needed = true ∧ h.fails c.call = true := by
  induction calls generalizing skb with
  | nil => simp [runCalls]
  | cons c rest ih =>
    rw [runCalls,List.exists_mem_cons_iff]
    split
    · rename_i needed
      split
      · rename_i fails
        exact iff_of_true rfl (.inl ⟨needed,fails⟩)
      · rename_i works
        rw [ih,or_iff_right fun here => works here.2]
    · rename_i skipped
      rw [ih,or_iff_right fun here => skipped here.1]

theorem runCalls_skip {h : Helpers} {earlier : List Call} (idle : ∀ c ∈ earlier, c.needed = false) (later : List Call)
    (skb : Frame) : runCalls h (earlier ++ later) skb = runCalls h later skb := by
  induction earlier with
  | nil => rfl
  | cons c rest ih =>
    rw [List.cons_append,runCalls,if_neg (by rw [idle c List.mem_cons_self]; exact Bool.false_ne_true)]
    exact ih fun other member => idle other (List.mem_cons_of_mem _ member)

-- The first call that is needed changes something the later ones cannot undo.
theorem intact_iff {h : Helpers} {earlier later : List Call} {c : Call} {skb : Frame} (read : Frame → β)
    (idle : ∀ c ∈ earlier, c.needed = false) (needed : c.needed = true)
    (changed : read (storeBytes skb c.offset (c.value skb)) ≠ read skb)
    (kept : ∀ skb, read (runCalls h later skb).2 = read skb) :
    ((runCalls h (earlier ++ c :: later) skb).1 = -1 → (runCalls h (earlier ++ c :: later) skb).2 = skb) ↔
      FailsFirst h (earlier ++ c :: later) := by
  have first : (earlier ++ c :: later).find? Call.needed = some c := by
    rw [List.find?_append,List.find?_eq_none.mpr fun d member => by rw [idle d member]; exact Bool.false_ne_true]
    rw [Option.none_or,List.find?_cons_of_pos needed]
  rw [FailsFirst,← runCalls_failed _ skb,first,runCalls_skip idle]
  cases fails : h.fails c.call with
  | true =>
    refine iff_of_true ?_ fun _ => ⟨c,rfl,fails⟩
    rw [runCalls,if_pos needed,if_pos fails]
    exact fun _ => rfl
  | false =>
    have touched : (runCalls h (c :: later) skb).2 ≠ skb := by
      rw [runCalls,if_pos needed,if_neg (by rw [fails]; exact Bool.false_ne_true)]
      intro same
      rw [← kept,same] at changed
      exact changed rfl
    have works : ¬ ∃ d, some c = some d ∧ h.fails d.call = true := by
      rintro ⟨d,same,failed⟩
      cases same
      rw [fails] at failed
      cases failed
    exact imp_congr_right fun _ => iff_of_false touched works

theorem load32_runCalls (h : Helpers) {calls : List Call} {offset : Nat} (spares : ∀ c ∈ calls, c.Spares offset 4)
    (skb : Frame) : load32 (runCalls h calls skb).2 offset = load32 skb offset := by
  have kept := byteAt_runCalls h calls offset 4 spares skb
  rw [load32,kept offset (by omega) (by omega),kept (offset+1) (by omega) (by omega),
    kept (offset+2) (by omega) (by omega),kept (offset+3) (by omega) (by omega),load32]

theorem load16_runCalls (h : Helpers) {calls : List Call} {offset : Nat} (spares : ∀ c ∈ calls, c.Spares offset 2)
    (skb : Frame) : load16 (runCalls h calls skb).2 offset = load16 skb offset := by
  have kept := byteAt_runCalls h calls offset 2 spares skb
  rw [load16,kept offset (by omega) (by omega),kept (offset+1) (by omega) (by omega),load16]

section Rewrite
variable {h : Helpers} {skb : Frame} {hdr : Headers} {new : Tuple} {earlier later : List Call} {c : Call} {offset : Nat}

theorem address_intact (low : hdr.ip + 20 ≤ hdr.tcp) (whole : rewriteCalls h skb hdr new = earlier ++ c :: later)
    (store : c.call ∈ HelperCall.stores) (extent : c.call.extent hdr = (offset,4)) {address : Be32}
    (writes : c = ⟨load32 skb offset ≠ address,c.call,offset,fun _ => address.bytes⟩) (inside : offset + 4 ≤ skb.length)
    (idle : ∀ c ∈ earlier, c.needed = false) (differs : load32 skb offset ≠ address) :
    ((rewriteTuple h skb hdr new).1 = -1 → (rewriteTuple h skb hdr new).2 = skb) ↔
      FailsFirst h (rewriteCalls h skb hdr new) := by
  have spared := (others_spare low store earlier whole rfl extent).2
  rw [rewriteTuple,whole]
  refine intact_iff (fun skb => load32 skb offset) idle ?_ ?_ (load32_runCalls h spared)
  · rw [writes]
    exact decide_eq_true differs
  · rw [writes]
    change load32 (storeBytes skb offset address.bytes) offset ≠ _
    rw [load32_store _ _ _ inside]
    exact Ne.symm differs

theorem port_intact (low : hdr.ip + 20 ≤ hdr.tcp) (whole : rewriteCalls h skb hdr new = earlier ++ c :: later)
    (store : c.call ∈ HelperCall.stores) (extent : c.call.extent hdr = (offset,2)) {port : Be16}
    (writes : c = ⟨load16 skb offset ≠ port,c.call,offset,fun _ => port.bytes⟩) (inside : offset + 2 ≤ skb.length)
    (idle : ∀ c ∈ earlier, c.needed = false) (differs : load16 skb offset ≠ port) :
    ((rewriteTuple h skb hdr new).1 = -1 → (rewriteTuple h skb hdr new).2 = skb) ↔
      FailsFirst h (rewriteCalls h skb hdr new) := by
  have spared := (others_spare low store earlier whole rfl extent).2
  rw [rewriteTuple,whole]
  refine intact_iff (fun skb => load16 skb offset) idle ?_ ?_ (load16_runCalls h spared)
  · rw [writes]
    exact decide_eq_true differs
  · rw [writes]
    change load16 (storeBytes skb offset port.bytes) offset ≠ _
    rw [load16_store _ _ _ inside]
    exact Ne.symm differs

theorem rewrite_unneeded (same : loadTuple skb hdr = new) : ∀ c ∈ rewriteCalls h skb hdr new, c.needed = false := by
  intro c member
  simp only [rewriteCalls,storeCalls,csumCalls,List.cons_append,List.nil_append,List.mem_cons,List.not_mem_nil,or_false,same]
    at member
  rcases member with rfl | rfl | rfl | rfl | rfl | rfl | rfl | rfl | rfl | rfl <;> simp

-- rewrite_tuple gives up with the packet as it was exactly when it gives up at
-- its first call, which is the store of the first field that changes.
theorem rewrite_intact_iff (parsed : parseTcpPacket skb = some hdr) (h : Helpers) (new : Tuple) :
    ((rewriteTuple h skb hdr new).1 = -1 → (rewriteTuple h skb hdr new).2 = skb) ↔
      FailsFirst h (rewriteCalls h skb hdr new) := by
  have valid := parse_sound parsed
  have low : hdr.ip + 20 ≤ hdr.tcp := valid.ip ▸ valid.low
  have high := valid.high
  by_cases saddr : (loadTuple skb hdr).saddr = new.saddr
  · by_cases daddr : (loadTuple skb hdr).daddr = new.daddr
    · by_cases sport : (loadTuple skb hdr).sport = new.sport
      · by_cases dport : (loadTuple skb hdr).dport = new.dport
        · have same : loadTuple skb hdr = new := by
            cases new
            exact (Tuple.mk.injEq ..).mpr ⟨saddr,daddr,sport,dport⟩
          have unneeded : ¬ ∃ c ∈ rewriteCalls h skb hdr new, c.needed = true ∧ h.fails c.call = true := by
            rintro ⟨c,member,needed,_⟩
            rw [rewrite_unneeded same c member] at needed
            cases needed
          exact iff_of_true (fun failed => absurd ((runCalls_failed _ _).mp failed) unneeded) fun failed => absurd failed unneeded
        · have whole : rewriteCalls h skb hdr new = [_,_,_] ++ _ :: _ := rfl
          exact port_intact low whole (by simp [HelperCall.stores]) rfl rfl (by omega) (by simp [saddr,daddr,sport]) dport
      · have whole : rewriteCalls h skb hdr new = [_,_] ++ _ :: _ := rfl
        exact port_intact low whole (by simp [HelperCall.stores]) rfl rfl (by omega) (by simp [saddr,daddr]) sport
    · have whole : rewriteCalls h skb hdr new = [_] ++ _ :: _ := rfl
      exact address_intact low whole (by simp [HelperCall.stores]) rfl rfl (by omega) (by simp [saddr]) daddr
  · have whole : rewriteCalls h skb hdr new = [] ++ _ :: _ := rfl
    exact address_intact low whole (by simp [HelperCall.stores]) rfl rfl (by omega) (by simp) saddr

end Rewrite

def request : Tuple := ⟨⟨192,168,56,100⟩,⟨192,168,56,10⟩,htons 50000,htons 30080⟩
def translated : Tuple := ⟨⟨192,168,56,10⟩,⟨10,244,1,5⟩,htons 40000,htons 8080⟩

def failing (call : HelperCall) : Helpers := {plainHelpers 0 with fails := fun other => other = call}

theorem saddr_refused_intact :
    (rewriteTuple (failing .storeSaddr) (tcpFrame request) ⟨14,34⟩ translated).1 = -1 ∧
      (rewriteTuple (failing .storeSaddr) (tcpFrame request) ⟨14,34⟩ translated).2 = tcpFrame request :=
  ⟨rfl,(rewrite_intact_iff (tcpFrame_parse request) (failing .storeSaddr) translated).mpr (fun _ => ⟨_,rfl,rfl⟩) rfl⟩

theorem daddr_refused_torn : ¬ ∀ (h : Helpers) (skb : Frame) (hdr : Headers) (new : Tuple), parseTcpPacket skb = some hdr →
    (rewriteTuple h skb hdr new).1 = -1 → (rewriteTuple h skb hdr new).2 = skb := by
  intro intact
  have same := intact (failing .storeDaddr) (tcpFrame request) ⟨14,34⟩ translated (tcpFrame_parse request) rfl
  exact absurd same (by decide)

end Aipr.RewriteFailure
