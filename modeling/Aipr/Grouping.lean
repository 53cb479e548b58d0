import Mathlib.Data.List.Sort

namespace Aipr.Grouping

variable {α : Type u} {κ : Type v} {β : Type w} [DecidableEq κ]

-- A dictionary of lists in the order of its insertions; a value is appended to the
-- list of its key, which begins empty.
def add (groups : List (κ × List β)) (k : κ) (x : β) : List (κ × List β) :=
  match groups with
  | [] => [(k,[x])]
  | (k',xs) :: rest => if k' = k then (k',xs ++ [x]) :: rest else (k',xs) :: add rest k x

def group (key : α → κ) (value : α → β) (rows : List α) : List (κ × List β) :=
  rows.foldl (fun groups row => add groups (key row) (value row)) []

def find (groups : List (κ × List β)) (k : κ) : List β :=
  match groups with
  | [] => []
  | (k',xs) :: rest => if k' = k then xs else find rest k

def select (key : α → κ) (value : α → β) (rows : List α) (k : κ) : List β :=
  (rows.filter fun row => key row = k).map value

section Add
variable {groups : List (κ × List β)} {k : κ} {x : β}

theorem find_add (k' : κ) : find (add groups k x) k' = find groups k' ++ if k = k' then [x] else [] := by
  induction groups with
  | nil => by_cases same : k = k' <;> simp [add,find,same]
  | cons first rest ih =>
    obtain ⟨k₁,xs⟩ := first
    rw [add]
    by_cases here : k₁ = k
    · rw [if_pos here,find,find,here]
      split <;> simp
    · rw [if_neg here,find,find,ih]
      by_cases there : k₁ = k'
      · have apart : k ≠ k' := fun same => here (there.trans same.symm)
        simp [there,apart]
      · rw [if_neg there,if_neg there]

theorem keys_add : (add groups k x).map Prod.fst =
    if k ∈ groups.map Prod.fst then groups.map Prod.fst else groups.map Prod.fst ++ [k] := by
  induction groups with
  | nil => rfl
  | cons first rest ih =>
    obtain ⟨k',xs⟩ := first
    by_cases same : k' = k
    · simp [add,same]
    · simp only [add,if_neg same,List.map_cons,ih,List.mem_cons,Ne.symm same,false_or]
      split <;> rfl

theorem nodup_add (nodup : (groups.map Prod.fst).Nodup) : ((add groups k x).map Prod.fst).Nodup := by
  rw [keys_add]
  split
  · exact nodup
  · rename_i fresh
    exact List.nodup_append.mpr ⟨nodup,List.nodup_singleton k,fun k' old other new same =>
      fresh ((same.trans (List.mem_singleton.mp new)) ▸ old)⟩

theorem mem_iff_find (nodup : (groups.map Prod.fst).Nodup) {xs : List β} :
    (k,xs) ∈ groups ↔ k ∈ groups.map Prod.fst ∧ find groups k = xs := by
  induction groups with
  | nil => simp
  | cons first rest ih =>
    obtain ⟨k',ys⟩ := first
    obtain ⟨fresh,nodup⟩ := List.nodup_cons.mp nodup
    rw [find,List.mem_cons,List.map_cons,List.mem_cons,Prod.mk.injEq]
    by_cases here : k' = k
    · subst here
      have absent : (k',xs) ∉ rest := fun member => fresh (List.mem_map.mpr ⟨_,member,rfl⟩)
      rw [if_pos rfl]
      simp only [absent,or_false,true_and,true_or]
      exact eq_comm
    · rw [if_neg here,ih nodup]
      simp only [Ne.symm here,false_and,false_or]

end Add
section Group
variable {key : α → κ} {value : α → β} {rows : List α}

theorem foldl_add (groups : List (κ × List β)) (rows : List α) (nodup : (groups.map Prod.fst).Nodup) :
    ((rows.foldl (fun groups row => add groups (key row) (value row)) groups).map Prod.fst).Nodup ∧
    ∀ k, (k ∈ (rows.foldl (fun groups row => add groups (key row) (value row)) groups).map Prod.fst ↔
        k ∈ groups.map Prod.fst ∨ ∃ row ∈ rows, key row = k) ∧
      find (rows.foldl (fun groups row => add groups (key row) (value row)) groups) k =
        find groups k ++ select key value rows k := by
  induction rows generalizing groups with
  | nil => exact ⟨nodup,fun k => ⟨by simp,(List.append_nil _).symm⟩⟩
  | cons row rest ih =>
    obtain ⟨nodup',each⟩ := ih (add groups (key row) (value row)) (nodup_add nodup)
    refine ⟨nodup',fun k => ?_⟩
    obtain ⟨keys,found⟩ := each k
    rw [List.foldl_cons,keys,found,find_add,keys_add]
    constructor
    · simp only [List.mem_cons,exists_eq_or_imp,eq_comm (a := key row)]
      split
      · rename_i old
        constructor
        · rintro (listed | later)
          · exact .inl listed
          · exact .inr (.inr later)
        · rintro (listed | rfl | later)
          · exact .inl listed
          · exact .inl old
          · exact .inr later
      · rw [List.mem_append,List.mem_singleton,or_assoc]
    · rw [List.append_assoc]
      congr 1
      by_cases here : key row = k
      · simp [select,here]
      · simp [select,here]

theorem nodup_group : ((group key value rows).map Prod.fst).Nodup := (foldl_add [] rows List.nodup_nil).1

theorem mem_keys_group {k : κ} : k ∈ (group key value rows).map Prod.fst ↔ ∃ row ∈ rows, key row = k := by
  rw [group,((foldl_add [] rows List.nodup_nil).2 k).1]
  simp

theorem mem_group {k : κ} {xs : List β} :
    (k,xs) ∈ group key value rows ↔ (∃ row ∈ rows, key row = k) ∧ select key value rows k = xs := by
  have found : find (group key value rows) k = select key value rows k := ((foldl_add [] rows List.nodup_nil).2 k).2
  rw [mem_iff_find nodup_group,mem_keys_group,found]

end Group
section Rank
variable {ρ : Type u} [LinearOrder ρ] {l l' : List ρ}

theorem sort_congr (perm : l.Perm l') : l.insertionSort (· ≤ ·) = l'.insertionSort (· ≤ ·) :=
  ((List.perm_insertionSort _ l).trans (perm.trans (List.perm_insertionSort _ l').symm)).eq_of_pairwise'
    (List.pairwise_insertionSort _ l) (List.pairwise_insertionSort _ l')

theorem sort_strict (nodup : l.Nodup) : (l.insertionSort (· ≤ ·)).Pairwise (· < ·) := by
  have distinct : (l.insertionSort (· ≤ ·)).Nodup := (List.perm_insertionSort _ l).nodup_iff.mpr nodup
  exact ((List.pairwise_insertionSort (· ≤ ·) l).and distinct).imp fun both => lt_of_le_of_ne both.1 both.2

theorem countP_below (strict : l.Pairwise (· < ·)) (i : Nat) (low : i < l.length) : (l.countP fun x => x < l[i]) = i := by
  induction l generalizing i with
  | nil => exact absurd low (Nat.not_lt_zero i)
  | cons first rest ih =>
    obtain ⟨least,strict⟩ := List.pairwise_cons.mp strict
    rw [List.countP_cons]
    cases i with
    | zero =>
      have none : rest.countP (fun x => x < first) = 0 :=
        List.countP_eq_zero.mpr fun x member => by simpa using le_of_lt (least x member)
      simp [none]
    | succ i =>
      have inside : i < rest.length := Nat.lt_of_succ_lt_succ low
      have below : first < rest[i] := least _ (List.getElem_mem inside)
      simp [ih strict i inside,below]

-- And the element at a place is the one with so many smaller ones.
theorem sort_getElem_iff (nodup : l.Nodup) {x : ρ} (member : x ∈ l) (i : Nat) :
    (l.insertionSort (· ≤ ·))[i]? = some x ↔ (l.countP fun y => y < x) = i := by
  have perm := List.perm_insertionSort (· ≤ ·) l
  constructor
  · intro found
    obtain ⟨low,rfl⟩ := List.getElem?_eq_some_iff.mp found
    rw [← perm.countP_eq]
    exact countP_below (sort_strict nodup) i low
  · intro smaller
    obtain ⟨j,low,rfl⟩ := List.getElem_of_mem (perm.mem_iff.mpr member)
    rw [← perm.countP_eq,countP_below (sort_strict nodup) j low] at smaller
    rw [← smaller]
    exact List.getElem?_eq_getElem low

end Rank

section File
variable {σ : Type u} [DecidableEq σ]

def inPart (part : α → σ) (mark : σ → α → α) (rows : List α) (s : σ) : List α :=
  (rows.filter fun row => part row = s).map (mark s)

def together (order : List σ) (part : α → σ) (mark : σ → α → α) (rows : List α) : List α :=
  order.flatMap (inPart part mark rows)

variable {part : α → σ} {mark : σ → α → α} {rows : List α} {order : List σ}

theorem inPart_apart (same : ∀ s row, part (mark s row) = part row) (s t : σ) :
    inPart part mark (inPart part mark rows t) s = if t = s then (inPart part mark rows t).map (mark s) else [] := by
  rw [inPart]
  split
  · rename_i here
    rw [List.filter_eq_self.mpr]
    intro row member
    obtain ⟨origin,filed,rfl⟩ := List.mem_map.mp member
    have own := of_decide_eq_true (List.mem_filter.mp filed).2
    simpa [same] using own.trans here
  · rename_i apart
    rw [List.filter_eq_nil_iff.mpr,List.map_nil]
    intro row member
    obtain ⟨origin,filed,rfl⟩ := List.mem_map.mp member
    have own := of_decide_eq_true (List.mem_filter.mp filed).2
    simpa [same] using fun here : part origin = s => apart (own.symm.trans here)

theorem flatMap_one {l : List α} (nodup : order.Nodup) {s : σ} (listed : s ∈ order) :
    (order.flatMap fun t => if t = s then l else []) = l := by
  induction order with
  | nil => cases listed
  | cons t later ih =>
    obtain ⟨fresh,nodup⟩ := List.nodup_cons.mp nodup
    rw [List.flatMap_cons]
    rcases List.mem_cons.mp listed with here | member
    · have none : (later.flatMap fun t => if t = s then l else []) = [] := by
        refine List.flatMap_eq_nil_iff.mpr fun other member => if_neg fun equal => fresh ?_
        rwa [← here,← equal]
      rw [if_pos here.symm,none,List.append_nil]
    · have apart : t ≠ s := fun equal => fresh (equal ▸ member)
      rw [if_neg apart,List.nil_append,ih nodup member]

theorem inPart_together (nodup : order.Nodup) (same : ∀ s row, part (mark s row) = part row)
    (settled : ∀ s row, mark s (mark s row) = mark s row) {s : σ} (listed : s ∈ order) :
    inPart part mark (together order part mark rows) s = inPart part mark rows s := by
  have again : (inPart part mark rows s).map (mark s) = inPart part mark rows s := by
    rw [inPart,List.map_map]
    exact List.map_congr_left fun row _ => settled s row
  have parts : inPart part mark (together order part mark rows) s =
      order.flatMap fun t => if t = s then inPart part mark rows s else [] := by
    rw [inPart,together,List.filter_flatMap,List.map_flatMap]
    refine List.flatMap_congr fun t _ => ?_
    have filed : inPart part mark (inPart part mark rows t) s = _ := inPart_apart same s t
    rw [inPart] at filed
    rw [filed]
    split
    · rename_i here
      rw [here,again]
    · rfl
  exact parts.trans (flatMap_one nodup listed)

theorem together_perm (nodup : order.Nodup) (complete : ∀ row ∈ rows, part row ∈ order) :
    (together order part mark rows).Perm (rows.map fun row => mark (part row) row) := by
  have parts : together order part mark rows =
      (order.flatMap fun s => rows.filter fun row => part row = s).map fun row => mark (part row) row := by
    rw [together,List.map_flatMap]
    refine List.flatMap_congr fun s _ => List.map_congr_left fun row member => ?_
    rw [of_decide_eq_true (List.mem_filter.mp member).2]
  have gathered : ∀ order : List σ, order.Nodup → (order.flatMap fun s => rows.filter fun row => part row = s).Perm
      (rows.filter fun row => part row ∈ order) := by
    clear nodup complete parts
    intro order nodup
    induction order with
    | nil => simp
    | cons s later ih =>
      obtain ⟨fresh,nodup⟩ := List.nodup_cons.mp nodup
      have outer := List.filter_append_perm (fun row => part row = s) (rows.filter fun row => part row ∈ s :: later)
      rw [List.flatMap_cons]
      refine .trans (.trans (.append_left _ (ih nodup)) (.of_eq ?_)) outer
      rw [List.filter_filter,List.filter_filter]
      congr 1
      · exact List.filter_congr fun row _ => by by_cases here : part row = s <;> simp [here]
      · refine List.filter_congr fun row _ => ?_
        by_cases here : part row = s
        · simp [here,fresh]
        · simp [here]
  have every : (rows.filter fun row => part row ∈ order) = rows :=
    List.filter_eq_self.mpr fun row member => decide_eq_true (complete row member)
  have perm := gathered order nodup
  rw [every] at perm
  rw [parts]
  exact perm.map _

end File
end Aipr.Grouping
