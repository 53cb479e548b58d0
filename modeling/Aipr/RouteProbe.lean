import Aipr.InnerList

namespace Aipr.EnvDetect
open Syncer

def number (x : Be32) : UInt32 := ofBytesLE x.b3 x.b2 x.b1 x.b0

def address (value : UInt32) : Be32 :=
  ⟨UInt8.ofNat (value.toNat / 16777216),UInt8.ofNat (value.toNat / 65536),UInt8.ofNat (value.toNat / 256),UInt8.ofNat value.toNat⟩

def prefixText (x : Be32) (len : Nat) : String := String.ofList (dotted x) ++ "/" ++ toString len

-- The addresses of a prefix agree in all but the host bits; the first of them is
-- the network, the last the broadcast address.
def Inside (x : Be32) (len : Nat) (other : Be32) : Prop :=
  (number other).toNat / 2^(32-len) = (number x).toNat / 2^(32-len)

def network (x : Be32) (len : Nat) : Nat := (number x).toNat / 2^(32-len) * 2^(32-len)

def broadcast (x : Be32) (len : Nat) : Nat := network x len + (2^(32-len)-1)

theorem number_address (value : UInt32) : number (address value) = value := ofBytesLE_bytesLE value

theorem uint32ToIPv4_dotted (value : UInt32) : uint32ToIPv4 value = String.ofList (dotted (address value)) := rfl

section Parse

theorem parseBits_text {len : Nat} (low : len ≤ 32) : parseBits (toString len).toList = some len ∧ '/' ∉ (toString len).toList := by
  have all : ∀ len : Fin 33, parseBits (toString len.val).toList = some len.val ∧ '/' ∉ (toString len.val).toList := by decide
  exact all ⟨len,by omega⟩

theorem lastField {front back : List Char} (plain : '/' ∉ back) :
    ((front ++ '/' :: back).reverse.takeWhile (· ≠ '/')).reverse = back := by
  have others : ∀ c ∈ back.reverse, decide (c ≠ '/') = true := by
    intro c member
    rw [decide_eq_true_eq]
    rintro rfl
    exact plain (List.mem_reverse.mp member)
  have turned : (front ++ '/' :: back).reverse = back.reverse ++ '/' :: front.reverse := by
    rw [List.reverse_append,List.reverse_cons,List.append_assoc,List.singleton_append]
  rw [turned,List.takeWhile_append_of_pos others,List.takeWhile_cons_of_neg (by decide),List.append_nil,List.reverse_reverse]

theorem parsePrefix_text (x : Be32) {len : Nat} (low : len ≤ 32) : parsePrefix (prefixText x len) = some (number x,len) := by
  obtain ⟨bits,plain⟩ := parseBits_text low
  have text : (prefixText x len).toList = dotted x ++ '/' :: (toString len).toList := by
    simp [prefixText]
  have slash : '/' ∈ dotted x ++ '/' :: (toString len).toList := List.mem_append_right _ List.mem_cons_self
  have front : (dotted x ++ '/' :: (toString len).toList).take
      ((dotted x ++ '/' :: (toString len).toList).length-(toString len).toList.length-1) = dotted x := by
    rw [List.length_append,List.length_cons]
    exact List.take_left' (by omega)
  unfold parsePrefix
  dsimp only
  rw [text,lastField plain,if_neg (not_not_intro slash),front,dotted_read,bits]
  rfl

end Parse

section Probe
variable {addr : UInt32} {ones : Nat}

-- The sum for the broadcast address wraps when the network ends with the address space,
-- and the subtraction takes it back.
theorem broadcast_value (addr : UInt32) {hostBits : Nat} (low : hostBits ≤ 32) (wide : 0 < hostBits) :
    (addr-UInt32.ofNat (addr.toNat % 2^hostBits)+UInt32.ofNat (2^hostBits)-1).toNat =
      addr.toNat-addr.toNat % 2^hostBits+(2^hostBits-1) := by
  have two : 2^1 ≤ 2^hostBits := Nat.pow_le_pow_right (by decide) wide
  have one : UInt32.ofNat (2^hostBits)-1 = UInt32.ofNat (2^hostBits-1) := by
    apply UInt32.toNat_inj.mp
    have bound : 2^hostBits ≤ 2^32 := Nat.pow_le_pow_right (by decide) low
    rw [UInt32.toNat_sub,UInt32.toNat_ofNat',UInt32.toNat_ofNat']
    change (2^32-1+2^hostBits % 2^32) % 2^32 = _
    omega
  have inside : 2^hostBits-1 < 2^hostBits := by omega
  rw [UInt32.sub_eq_add_neg _ 1,UInt32.add_assoc,← UInt32.sub_eq_add_neg,one]
  exact network_value addr low inside

theorem probe_third (fits : ones ≤ 30) :
    (probeAddress addr ones).toNat = addr.toNat-addr.toNat % 2^(32-ones)+2 := by
  have low : 32-ones ≤ 32 := Nat.sub_le 32 ones
  have four : 2^2 ≤ 2^(32-ones) := Nat.pow_le_pow_right (by decide) (by omega)
  have inside : 2 < 2^(32-ones) := by omega
  have candidate := network_value addr low inside
  have last := broadcast_value addr low (by omega)
  have below : addr-UInt32.ofNat (addr.toNat % 2^(32-ones))+2 <
      addr-UInt32.ofNat (addr.toNat % 2^(32-ones))+UInt32.ofNat (2^(32-ones))-1 := by
    rw [UInt32.lt_iff_toNat_lt,last]
    change (addr-UInt32.ofNat (addr.toNat % 2^(32-ones))+UInt32.ofNat 2).toNat < _
    rw [candidate]
    omega
  unfold probeAddress
  dsimp only
  rw [if_neg (by omega),if_pos ⟨by omega,below⟩]
  exact candidate

end Probe

def probe (x : Be32) (len : Nat) : Be32 := address (probeAddress (number x) len)

theorem probe_text (x : Be32) {len : Nat} (low : len ≤ 32) :
    probeAddressForCIDR (prefixText x len) = some (String.ofList (dotted (probe x len))) := by
  rw [probeAddressForCIDR,parsePrefix_text x low]
  exact congrArg some (uint32ToIPv4_dotted _)

theorem inside_probe (x : Be32) (len : Nat) : Inside x len (probe x len) := by
  rw [Inside,probe,number_address]
  exact probe_in_network (number x) len

-- The probed address lies inside the prefix, and is a host's address where it has one.
theorem probed_inside (x : Be32) (len : Nat) (low : len ≤ 32) :
    ∃ probed, probeAddressForCIDR (prefixText x len) = some (String.ofList (dotted probed)) ∧ Inside x len probed ∧
      (len ≤ 30 → (number probed).toNat ≠ network x len ∧ (number probed).toNat ≠ broadcast x len) := by
  refine ⟨probe x len,probe_text x low,inside_probe x len,?_⟩
  intro fits
  have four : 2^2 ≤ 2^(32-len) := Nat.pow_le_pow_right (by decide) (by omega)
  have start : network x len = (number x).toNat-(number x).toNat % 2^(32-len) := by
    have parts := Nat.div_add_mod (number x).toNat (2^(32-len))
    rw [network,Nat.mul_comm]
    omega
  rw [broadcast,probe,number_address,probe_third fits,start]
  omega

theorem probed_inside_whole : (0 ≤ 32) ∧ ∃ probed,
    probeAddressForCIDR (prefixText ⟨255,255,255,255⟩ 0) = some (String.ofList (dotted probed)) ∧
      Inside ⟨255,255,255,255⟩ 0 probed ∧ (0 ≤ 30 → (number probed).toNat ≠ network ⟨255,255,255,255⟩ 0 ∧
        (number probed).toNat ≠ broadcast ⟨255,255,255,255⟩ 0) :=
  ⟨by decide,probed_inside ⟨255,255,255,255⟩ 0 (by decide)⟩

example : probeAddressForCIDR "255.255.255.255/30" = some "255.255.255.254" := by decide

theorem targets_inside {prefixes : List (Be32 × Nat)} (low : ∀ p ∈ prefixes, p.2 ≤ 32) {target : String}
    (member : target ∈ cidrProbeTargets (prefixes.map fun p => prefixText p.1 p.2)) :
    ∃ p ∈ prefixes, ∃ probed, target = String.ofList (dotted probed) ∧ Inside p.1 p.2 probed := by
  rw [cidrProbeTargets,dedupeStrings,List.mem_insertionSort] at member
  obtain ⟨-,text,listed,rfl⟩ := mem_distinctNames member
  obtain ⟨cidr,given,probed⟩ := List.mem_filterMap.mp listed
  obtain ⟨p,own,rfl⟩ := List.mem_map.mp given
  rw [probe_text p.1 (low p own)] at probed
  cases probed
  refine ⟨p,own,probe p.1 p.2,?_,inside_probe p.1 p.2⟩
  rw [trimmed,String.toList_ofList,trimSpace_plain fun c inside => (dotted_plain _ inside).1]

end Aipr.EnvDetect
