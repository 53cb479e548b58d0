import Mathlib.Data.List.Nodup
import Mathlib.Data.List.Perm.Basic

namespace Aipr.FirstPerKey

variable {α κ : Type} [DecidableEq κ] (key : α → κ)

def firsts : List κ → List α → List α
  | _,[] => []
  | seen,x :: rest => if key x ∈ seen then firsts seen rest else x :: firsts (key x :: seen) rest

def keep (found : List κ × List α) (x : α) : List κ × List α :=
  if key x ∈ found.1 then found else (key x :: found.1,found.2 ++ [x])

variable {key} {seen : List κ} {l l' : List α} {x y : α}

theorem foldl_keep (found : List κ × List α) (l : List α) :
    (l.foldl (keep key) found).2 = found.2 ++ firsts key found.1 l := by
  induction l generalizing found with
  | nil => exact (List.append_nil _).symm
  | cons x rest ih =>
    rw [List.foldl_cons,ih,keep,firsts]
    split
    · rfl
    · exact List.append_assoc _ _ _

theorem mem_of_firsts (member : x ∈ firsts key seen l) : x ∈ l ∧ key x ∉ seen := by
  induction l generalizing seen with
  | nil => cases member
  | cons y rest ih =>
    rw [firsts] at member
    split at member
    · obtain ⟨listed,fresh⟩ := ih member
      exact ⟨List.mem_cons_of_mem _ listed,fresh⟩
    · rename_i unseen
      rcases List.mem_cons.mp member with rfl | later
      · exact ⟨List.mem_cons_self,unseen⟩
      · obtain ⟨listed,fresh⟩ := ih later
        exact ⟨List.mem_cons_of_mem _ listed,fun old => fresh (List.mem_cons_of_mem _ old)⟩

theorem key_in_firsts (member : x ∈ l) (unseen : key x ∉ seen) : ∃ y ∈ firsts key seen l, key y = key x := by
  induction l generalizing seen with
  | nil => cases member
  | cons first rest ih =>
    rw [firsts]
    split
    · rename_i old
      refine ih ?_ unseen
      rcases List.mem_cons.mp member with rfl | later
      · exact absurd old unseen
      · exact later
    · by_cases same : key first = key x
      · exact ⟨first,List.mem_cons_self,same⟩
      · have later : x ∈ rest := by
          rcases List.mem_cons.mp member with rfl | later
          · exact absurd rfl same
          · exact later
        have fresh : key x ∉ key first :: seen := by
          intro old
          rcases List.mem_cons.mp old with equal | old
          · exact same equal.symm
          · exact unseen old
        obtain ⟨y,kept,equal⟩ := ih later fresh
        exact ⟨y,List.mem_cons_of_mem _ kept,equal⟩

theorem nodup_keys : ((firsts key seen l).map key).Nodup := by
  induction l generalizing seen with
  | nil => exact List.nodup_nil
  | cons x rest ih =>
    rw [firsts]
    split
    · exact ih
    · rw [List.map_cons,List.nodup_cons]
      refine ⟨fun again => ?_,ih⟩
      obtain ⟨y,kept,same⟩ := List.mem_map.mp again
      exact (mem_of_firsts kept).2 (same ▸ List.mem_cons_self)

theorem firsts_unique (left : x ∈ firsts key seen l) (right : y ∈ firsts key seen l) (same : key x = key y) : x = y :=
  List.inj_on_of_nodup_map nodup_keys left right same

theorem firsts_append (front : x ∈ firsts key seen l) : x ∈ firsts key seen (l ++ l') := by
  induction l generalizing seen with
  | nil => cases front
  | cons y rest ih =>
    rw [List.cons_append,firsts]
    rw [firsts] at front
    split at front
    · rw [if_pos ‹_›]
      exact ih front
    · rw [if_neg ‹_›]
      rcases List.mem_cons.mp front with rfl | later
      · exact List.mem_cons_self
      · exact List.mem_cons_of_mem _ (ih later)

def Consistent (key : α → κ) (l : List α) : Prop := ∀ x ∈ l, ∀ y ∈ l, key x = key y → x = y

theorem mem_firsts (consistent : Consistent key l) : x ∈ firsts key [] l ↔ x ∈ l := by
  constructor
  · exact fun kept => (mem_of_firsts kept).1
  · intro member
    obtain ⟨y,kept,same⟩ := key_in_firsts member (List.not_mem_nil (a := key x))
    rwa [← consistent y (mem_of_firsts kept).1 x member same]

theorem firsts_perm (consistent : Consistent key l) (perm : l.Perm l') : (firsts key [] l).Perm (firsts key [] l') := by
  have consistent' : Consistent key l' :=
    fun x left y right => consistent x (perm.mem_iff.mpr left) y (perm.mem_iff.mpr right)
  refine (List.perm_ext_iff_of_nodup nodup_keys.of_map nodup_keys.of_map).mpr fun x => ?_
  rw [mem_firsts consistent,mem_firsts consistent',perm.mem_iff]

theorem filter_perm {k : κ} (unique : (l.map key).Nodup) (perm : l.Perm l') :
    l.filter (fun x => key x = k) = l'.filter fun x => key x = k := by
  have both := perm.filter fun x => key x = k
  have distinct := unique.sublist ((List.filter_sublist (p := fun x => key x = k)).map key)
  have keyed : ∀ x ∈ l.filter (fun x => key x = k), key x = k :=
    fun x member => of_decide_eq_true (List.mem_filter.mp member).2
  cases found : l.filter fun x => key x = k with
  | nil =>
    rw [found] at both
    exact (List.nil_perm.mp both).symm
  | cons x rest =>
    rw [found] at both distinct keyed
    have alone : rest = [] := by
      refine List.eq_nil_iff_forall_not_mem.mpr fun y later => ?_
      refine (List.nodup_cons.mp distinct).1 (List.mem_map.mpr ⟨y,later,?_⟩)
      rw [keyed x List.mem_cons_self,keyed y (List.mem_cons_of_mem _ later)]
    rw [alone] at both ⊢
    exact List.singleton_perm.mp both

end Aipr.FirstPerKey
