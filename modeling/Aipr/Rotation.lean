import Mathlib.Data.List.Chain
import Mathlib.Order.Interval.Finset.Nat

namespace Aipr.Rotation

def Rotates (n : Nat) (turns : List Nat) : Prop := (∀ i ∈ turns, i < n) ∧ turns.IsChain fun i j => j = (i + 1) % n

variable {n : Nat}

theorem rotates_nil : Rotates n [] := ⟨fun _ member => absurd member List.not_mem_nil,.nil⟩

theorem rotates_cons {i : Nat} {rest : List Nat} (low : i < n) (next : ∀ j, rest.head? = some j → j = (i + 1) % n)
    (rotates : Rotates n rest) : Rotates n (i :: rest) := by
  refine ⟨fun j member => ?_,List.isChain_cons.mpr ⟨fun j first => next j first,rotates.2⟩⟩
  rcases List.mem_cons.mp member with rfl | later
  · exact low
  · exact rotates.1 j later

theorem rotates_within {turns window : List Nat} (rotates : Rotates n turns) (within : window <:+: turns) : Rotates n window :=
  ⟨fun i member => rotates.1 i (within.subset member), List.IsChain.infix rotates.2 within⟩

theorem range_mod {i j : Nat} (same : i % n = j % n) (k : Nat) :
    (List.range' i k).map (· % n) = (List.range' j k).map (· % n) := by
  rw [List.range'_eq_map_range,List.range'_eq_map_range,List.map_map,List.map_map]
  refine List.map_congr_left fun step _ => ?_
  change (i + step) % n = (j + step) % n
  rw [Nat.add_mod,same,← Nat.add_mod]

theorem rotates_range {i : Nat} {rest : List Nat} (rotates : Rotates n (i :: rest)) :
    i :: rest = (List.range' i (rest.length + 1)).map (· % n) := by
  induction rest generalizing i with
  | nil => simp [Nat.mod_eq_of_lt (rotates.1 i List.mem_cons_self)]
  | cons j rest ih =>
    have tail : Rotates n (j :: rest) := rotates_within rotates (List.suffix_cons i _).isInfix
    have next : j = (i + 1) % n := (List.isChain_cons_cons.mp rotates.2).1
    have shifted : j % n = (i + 1) % n := by rw [next,Nat.mod_mod]
    rw [List.length_cons,ih tail,range_mod shifted,List.range'_succ (s := i),List.map_cons,
      Nat.mod_eq_of_lt (rotates.1 i List.mem_cons_self)]

theorem around_perm (i n : Nat) : ((List.range' i n).map (· % n)).Perm (List.range n) := by
  have around := Nat.multiset_Ico_map_mod i n
  rw [Multiset.Ico,Nat.Ico_eq_range',Nat.add_sub_cancel_left] at around
  exact Multiset.coe_eq_coe.mp around

theorem rotates_perm {window : List Nat} (rotates : Rotates n window) (whole : window.length = n) :
    window.Perm (List.range n) := by
  cases window with
  | nil =>
    rw [List.length_nil] at whole
    rw [← whole]
    exact List.Perm.refl _
  | cons i rest =>
    rw [List.length_cons] at whole
    rw [rotates_range rotates,whole]
    exact around_perm i n

end Aipr.Rotation
