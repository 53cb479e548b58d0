import Mathlib.Algebra.BigOperators.Intervals
import Mathlib.Algebra.BigOperators.Group.Finset.Basic
import Mathlib.Data.Nat.ModEq

namespace Aipr.OnesComplement

section Numbers
variable (ones : Nat)

def add (a b : Nat) : Nat := if a + b ≤ ones then a + b else a + b - ones

def complement (a : Nat) : Nat := ones - a

def sum (words : List Nat) : Nat := words.foldr (add ones) 0

-- Equal as numbers, whichever zero it is.
def Same (a b : Nat) : Prop := a = b ∨ (a = 0 ∧ b = ones) ∨ (a = ones ∧ b = 0)

def Verifies (words : List Nat) : Prop := sum ones words = ones

def Updated (check : Nat) (before after : List Nat) (check' : Nat) : Prop :=
  Same ones check' (complement ones (sum ones (complement ones check :: (before.map (complement ones) ++ after))))

end Numbers

section Residues
variable {ones a b check check' : Nat} {words before after : List Nat}

theorem add_modEq : add ones a b ≡ a + b [MOD ones] := by
  unfold add
  split
  · rfl
  · rename_i carried
    exact (Nat.mod_eq_sub_mod (Nat.le_of_not_le carried)).symm

theorem add_le (low : a ≤ ones) (low' : b ≤ ones) : add ones a b ≤ ones := by
  unfold add
  split <;> omega

theorem add_eq_zero : add ones a b = 0 ↔ a = 0 ∧ b = 0 := by
  unfold add
  split <;> omega

theorem sum_cons (word : Nat) : sum ones (word :: words) = add ones word (sum ones words) := rfl

theorem sum_modEq : sum ones words ≡ words.sum [MOD ones] := by
  induction words with
  | nil => rfl
  | cons word rest ih =>
    rw [sum_cons,List.sum_cons]
    exact add_modEq.trans (ih.add_left word)

theorem sum_le (low : ∀ w ∈ words, w ≤ ones) : sum ones words ≤ ones := by
  induction words with
  | nil => exact Nat.zero_le ones
  | cons word rest ih =>
    rw [sum_cons]
    exact add_le (low word List.mem_cons_self) (ih fun w member => low w (List.mem_cons_of_mem _ member))

theorem sum_eq_zero : sum ones words = 0 ↔ ∀ w ∈ words, w = 0 := by
  induction words with
  | nil => simp [sum]
  | cons word rest ih => rw [sum_cons,add_eq_zero,ih,List.forall_mem_cons]

theorem complement_modEq (low : a ≤ ones) : a + complement ones a ≡ 0 [MOD ones] := by
  rw [complement,Nat.add_sub_cancel' low]
  exact Nat.mod_self ones

theorem complements_modEq (low : ∀ w ∈ words, w ≤ ones) : words.sum + (words.map (complement ones)).sum ≡ 0 [MOD ones] := by
  induction words with
  | nil => rfl
  | cons word rest ih =>
    have both := (complement_modEq (low word List.mem_cons_self)).add (ih fun w member => low w (List.mem_cons_of_mem _ member))
    rw [List.sum_cons,List.map_cons,List.sum_cons,Nat.add_add_add_comm]
    exact both

theorem same_modEq (same : Same ones a b) : a ≡ b [MOD ones] := by
  rcases same with rfl | ⟨rfl,rfl⟩ | ⟨rfl,rfl⟩
  · rfl
  · exact (Nat.mod_self _).symm
  · exact Nat.mod_self _

theorem same_of_modEq (low : a ≤ ones) (low' : b ≤ ones) (balanced : a ≡ b [MOD ones]) : Same ones a b := by
  rcases Nat.lt_or_eq_of_le low with below | rfl
  · rcases Nat.lt_or_eq_of_le low' with below' | rfl
    · exact .inl (balanced.eq_of_lt_of_lt below below')
    · exact .inr (.inl ⟨Nat.eq_zero_of_dvd_of_lt ((Nat.modEq_zero_iff_dvd).mp (balanced.trans (Nat.mod_self _))) below,rfl⟩)
  · rcases Nat.lt_or_eq_of_le low' with below' | rfl
    · exact .inr (.inr ⟨rfl,Nat.eq_zero_of_dvd_of_lt ((Nat.modEq_zero_iff_dvd).mp (balanced.symm.trans (Nat.mod_self _))) below'⟩)
    · exact .inl rfl

theorem same_complement (same : Same ones a b) : Same ones (complement ones a) (complement ones b) := by
  unfold complement
  rcases same with rfl | ⟨rfl,rfl⟩ | ⟨rfl,rfl⟩
  · exact .inl rfl
  · exact .inr (.inr ⟨Nat.sub_zero _,Nat.sub_self _⟩)
  · exact .inr (.inl ⟨Nat.sub_self _,Nat.sub_zero _⟩)

-- Unless all the words are zero, all ones is the only zero their sum can be.
theorem verifies_iff (low : ∀ w ∈ words, w ≤ ones) (live : words.sum ≠ 0) : Verifies ones words ↔ words.sum ≡ 0 [MOD ones] := by
  have nonzero : sum ones words ≠ 0 := fun zero => live (List.sum_eq_zero (sum_eq_zero.mp zero))
  rw [Verifies]
  constructor
  · intro verified
    refine sum_modEq.symm.trans ?_
    rw [verified]
    exact Nat.mod_self ones
  · intro balanced
    have divides : ones ∣ sum ones words := (Nat.modEq_zero_iff_dvd).mp (sum_modEq.trans balanced)
    exact Nat.le_antisymm (sum_le low) (Nat.le_of_dvd (Nat.pos_of_ne_zero nonzero) divides)

theorem updated_le (lowAfter : ∀ w ∈ after, w ≤ ones) :
    ∀ w ∈ complement ones check :: (before.map (complement ones) ++ after), w ≤ ones := by
  refine List.forall_mem_cons.mpr ⟨Nat.sub_le _ _,List.forall_mem_append.mpr ⟨fun w member => ?_,lowAfter⟩⟩
  obtain ⟨v,_,rfl⟩ := List.mem_map.mp member
  exact Nat.sub_le _ _

theorem updated_balances (low : check ≤ ones) (lowBefore : ∀ w ∈ before, w ≤ ones) (lowAfter : ∀ w ∈ after, w ≤ ones)
    (updated : Updated ones check before after check') : check' + after.sum ≡ check + before.sum [MOD ones] := by
  refine Nat.ModEq.add_right_cancel' (complement ones check + (before.map (complement ones)).sum) ?_
  calc check' + after.sum + (complement ones check + (before.map (complement ones)).sum)
      = check' + (complement ones check :: (before.map (complement ones) ++ after)).sum := by
        rw [List.sum_cons,List.sum_append]
        omega
    _ ≡ check' + sum ones (complement ones check :: (before.map (complement ones) ++ after)) [MOD ones] :=
        sum_modEq.symm.add_left check'
    _ ≡ 0 [MOD ones] := by
        refine ((same_modEq updated).add_right _).trans ?_
        rw [Nat.add_comm]
        exact complement_modEq (sum_le (updated_le lowAfter))
    _ ≡ check + complement ones check + (before.sum + (before.map (complement ones)).sum) [MOD ones] :=
        ((complement_modEq low).add (complements_modEq lowBefore)).symm
    _ = check + before.sum + (complement ones check + (before.map (complement ones)).sum) := Nat.add_add_add_comm ..

end Residues

section Places
variable {xs ys : List Nat}

theorem sum_eq_range {n : Nat} (long : xs.length ≤ n) : xs.sum = ∑ k ∈ Finset.range n, xs.getD k 0 := by
  induction xs generalizing n with
  | nil => simp
  | cons x rest ih =>
    obtain ⟨n,rfl⟩ := Nat.exists_eq_add_of_lt (Nat.lt_of_lt_of_le (Nat.zero_lt_succ rest.length) long)
    rw [List.length_cons] at long
    rw [Nat.zero_add,Finset.sum_range_succ',List.sum_cons,ih (n := n) (by omega),Nat.add_comm]
    rfl

-- Lists that agree but at some places differ in their sums by what is there.
theorem sum_replaced (places : Finset Nat) (same : ∀ k ∉ places, xs.getD k 0 = ys.getD k 0) :
    ys.sum + ∑ k ∈ places, xs.getD k 0 = xs.sum + ∑ k ∈ places, ys.getD k 0 := by
  obtain ⟨n,within,longX,longY⟩ : ∃ n, places ⊆ Finset.range n ∧ xs.length ≤ n ∧ ys.length ≤ n := by
    refine ⟨xs.length + ys.length + (places.sup id + 1),fun k member => ?_,by omega,by omega⟩
    have below : k ≤ places.sup id := Finset.le_sup (f := id) member
    exact Finset.mem_range.mpr (by omega)
  have elsewhere : ∑ k ∈ Finset.range n \ places, xs.getD k 0 = ∑ k ∈ Finset.range n \ places, ys.getD k 0 :=
    Finset.sum_congr rfl fun k member => same k (Finset.mem_sdiff.mp member).2
  rw [sum_eq_range longX,sum_eq_range longY,← Finset.sum_sdiff within,← Finset.sum_sdiff within,elsewhere,Nat.add_right_comm]

end Places
end Aipr.OnesComplement
