namespace Aipr

-- Network-order fields as the bytes they are in memory; only `ntohs` and `htons` turn
-- them into numbers.
structure Be16 where
  b0 : UInt8
  b1 : UInt8
deriving DecidableEq, Repr, Inhabited

structure Be32 where
  b0 : UInt8
  b1 : UInt8
  b2 : UInt8
  b3 : UInt8
deriving DecidableEq, Repr, Inhabited

def Be16.bytes (x : Be16) : List UInt8 := [x.b0,x.b1]
def Be32.bytes (x : Be32) : List UInt8 := [x.b0,x.b1,x.b2,x.b3]

def ntohs (x : Be16) : Nat := x.b0.toNat * 256 + x.b1.toNat

theorem ntohs_injective {x y : Be16} (same : ntohs x = ntohs y) : x = y := by
  obtain ⟨x0,x1⟩ := x
  obtain ⟨y0,y1⟩ := y
  have boundX := x1.toNat_lt
  have boundY := y1.toNat_lt
  simp only [ntohs] at same
  have high : x0 = y0 := UInt8.toNat_inj.mp (by omega)
  have low : x1 = y1 := UInt8.toNat_inj.mp (by omega)
  rw [high,low]

def htons (n : UInt16) : Be16 := ⟨UInt8.ofNat (n.toNat / 256),UInt8.ofNat (n.toNat % 256)⟩

theorem ntohs_htons (n : UInt16) : ntohs (htons n) = n.toNat := by
  have bound := n.toNat_lt
  simp only [ntohs,htons,UInt8.toNat_ofNat']
  omega

theorem htons_injective {m n : UInt16} (same : htons m = htons n) : m = n := by
  have equal := congrArg ntohs same
  rw [ntohs_htons,ntohs_htons] at equal
  exact UInt16.toNat_inj.mp equal

-- A `__u32` as a little-endian host stores it.
def bytesLE (n : UInt32) : List UInt8 :=
  [UInt8.ofNat n.toNat,UInt8.ofNat (n.toNat / 256),UInt8.ofNat (n.toNat / 65536),UInt8.ofNat (n.toNat / 16777216)]

def ofBytesLE (b0 b1 b2 b3 : UInt8) : UInt32 :=
  UInt32.ofNat (b0.toNat + 256 * b1.toNat + 65536 * b2.toNat + 16777216 * b3.toNat)

theorem ofBytesLE_bytesLE (n : UInt32) :
    ofBytesLE (UInt8.ofNat n.toNat) (UInt8.ofNat (n.toNat / 256)) (UInt8.ofNat (n.toNat / 65536))
      (UInt8.ofNat (n.toNat / 16777216)) = n := by
  have bound := n.toNat_lt
  apply UInt32.toNat_inj.mp
  simp only [ofBytesLE,UInt8.toNat_ofNat',UInt32.toNat_ofNat']
  omega

end Aipr
