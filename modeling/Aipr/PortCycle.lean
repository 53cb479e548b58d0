import Aipr.SnatRace
import Aipr.Rotation

namespace Aipr.NodeportCalls.PortCycle
open NodeportTc Interaction Rotation SnatRace

def draw (m : Maps) : Be16 × Maps := NodeportCalls.allocateSnatPort.run MapCall.handle m

def draws : Nat → Maps → List Be16
  | 0,_ => []
  | calls+1,m => (draw m).1 :: draws calls (draw m).2

def port (next : Option UInt32) : UInt32 :=
  match next with
  | none => nodeportSnatMin
  | some next => if next < nodeportSnatMin ∨ next > nodeportSnatMax then nodeportSnatMin else next

theorem draw_cell (m : Maps) : draw m =
    ((NodeportTc.allocateSnatPort m.snatPort).1,{m with snatPort := some (NodeportTc.allocateSnatPort m.snatPort).2}) := rfl

theorem allocate_port (next : Option UInt32) : (NodeportTc.allocateSnatPort next).1 = htons (port next).toUInt16 := by
  cases next with
  | none => rfl
  | some next => rfl

theorem draw_port (m : Maps) : (draw m).1 = portAt (offset m.snatPort) := by
  rw [draw_cell,allocate_offset]

theorem portAt_range {i j : Nat} (same : i % 21000 = j % 21000) (calls : Nat) :
    (List.range' i calls).map portAt = (List.range' j calls).map portAt := by
  have around : ∀ i, (List.range' i calls).map portAt = ((List.range' i calls).map (· % 21000)).map portAt := by
    intro i
    rw [List.map_map]
    apply List.map_congr_left
    intro n _
    simp [portAt]
  rw [around i,around j,range_mod same]

theorem draws_range (calls : Nat) (m : Maps) : draws calls m = (List.range' (offset m.snatPort) calls).map portAt := by
  induction calls generalizing m with
  | zero => rfl
  | succ calls ih =>
    have turned : offset (draw m).2.snatPort = (offset m.snatPort + 1) % 21000 := allocate_next m.snatPort
    have later : draws calls (draw m).2 = (List.range' (offset m.snatPort + 1) calls).map portAt := by
      rw [ih,turned]
      exact portAt_range (Nat.mod_mod _ _) calls
    rw [draws,draw_port,later,List.range'_succ,List.map_cons]

theorem draws_window (earlier calls : Nat) (m : Maps) : (draws (earlier + calls) m).drop earlier =
    (List.range' (offset m.snatPort + earlier) calls).map portAt := by
  have parts := List.range'_append_1 (s := offset m.snatPort) (m := earlier) (n := calls)
  rw [draws_range,← parts,List.map_append]
  apply List.drop_left'
  rw [List.length_map,List.length_range']

theorem portAt_number (n : Nat) : ntohs (portAt n) = 40000 + n % 21000 := by
  rw [portAt,ntohs_htons,UInt16.toNat_ofNat']
  omega

theorem window_numbers (i : Nat) : (((List.range' i 21000).map portAt).map ntohs).Perm (List.range' 40000 21000) := by
  have numbers : ((List.range' i 21000).map portAt).map ntohs = ((List.range' i 21000).map (· % 21000)).map (40000 + ·) := by
    rw [List.map_map,List.map_map]
    apply List.map_congr_left
    intro n _
    exact portAt_number n
  rw [numbers,List.range'_eq_map_range (s := 40000)]
  exact (around_perm i 21000).map _

theorem port_number (next : Option UInt32) : ntohs (NodeportTc.allocateSnatPort next).1 = (port next).toNat := by
  have low : nodeportSnatMin.toNat = 40000 := rfl
  have high : nodeportSnatMax.toNat = 60999 := rfl
  have fits : (port next).toNat < 65536 := by
    unfold port
    split
    · rw [low]
      decide
    · split
      · rw [low]
        decide
      · rename_i inside
        rw [not_or,UInt32.not_lt,gt_iff_lt,UInt32.not_lt,UInt32.le_iff_toNat_le,UInt32.le_iff_toNat_le] at inside
        omega
  rw [allocate_port,ntohs_htons,UInt32.toNat_toUInt16]
  exact Nat.mod_eq_of_lt fits

-- Whatever the cell holds at first, any 21000 calls in a row hand out every port of
-- the range once, and no conversion cuts a port off.
theorem ports_cycle (m : Maps) (earlier : Nat) :
    (((draws (earlier + 21000) m).drop earlier).map ntohs).Perm (List.range' 40000 21000) ∧
      ((draws (earlier + 21000) m).drop earlier).Nodup ∧
      ∀ next, ntohs (NodeportTc.allocateSnatPort next).1 = (port next).toNat := by
  have numbers := window_numbers (offset m.snatPort + earlier)
  rw [← draws_window] at numbers
  have distinct := numbers.nodup_iff.mpr List.nodup_range'
  exact ⟨numbers,List.Nodup.of_map ntohs distinct,port_number⟩

end Aipr.NodeportCalls.PortCycle
