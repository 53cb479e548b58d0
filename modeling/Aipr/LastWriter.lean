namespace Aipr.LastWriter

variable {κ : Type u} {ν : Type v} [DecidableEq κ]

abbrev View (κ : Type u) (ν : Type v) := κ → Option ν
abbrev Write (κ : Type u) (ν : Type v) := κ × Option ν

def blank : View κ ν := fun _ => none

def put (view : View κ ν) (write : Write κ ν) : View κ ν :=
  fun k => if k = write.1 then write.2 else view k

def replay (view : View κ ν) (writes : List (Write κ ν)) : View κ ν := writes.foldl put view

theorem put_here (view : View κ ν) (write : Write κ ν) : put view write write.1 = write.2 := if_pos rfl

theorem put_apart (view : View κ ν) {write : Write κ ν} {k : κ} (apart : k ≠ write.1) :
    put view write k = view k := if_neg apart

theorem replay_append (view : View κ ν) (earlier later : List (Write κ ν)) :
    replay view (earlier ++ later) = replay (replay view earlier) later := List.foldl_append

-- A list of writes either passes a cell by, or its last write to the cell fixes
-- the content, whatever was there.
theorem replay_last (writes : List (Write κ ν)) (k : κ) :
    ((∀ write ∈ writes, write.1 ≠ k) ∧ ∀ view, replay view writes k = view k) ∨
      ∃ earlier content later, writes = earlier ++ (k,content) :: later ∧ (∀ write ∈ later, write.1 ≠ k) ∧
        ∀ view, replay view writes k = content := by
  induction writes with
  | nil => exact .inl ⟨fun _ member => (List.not_mem_nil member).elim,fun _ => rfl⟩
  | cons write rest ih =>
    rcases ih with ⟨apart,unchanged⟩ | ⟨earlier,content,later,rfl,apart,fixed⟩
    · by_cases here : k = write.1
      · subst here
        refine .inr ⟨[],write.2,rest,rfl,apart,fun view => ?_⟩
        exact (unchanged _).trans (put_here view write)
      · refine .inl ⟨?_,fun view => (unchanged _).trans (put_apart view here)⟩
        intro other member
        rcases List.mem_cons.mp member with rfl | later
        · exact fun same => here same.symm
        · exact apart other later
    · exact .inr ⟨write :: earlier,content,later,rfl,apart,fun view => fixed _⟩

theorem replay_cell (writes : List (Write κ ν)) (k : κ) :
    ((∀ write ∈ writes, write.1 ≠ k) ∧ ∀ view, replay view writes k = view k) ∨
      ∃ content, (k,content) ∈ writes ∧ ∀ view, replay view writes k = content := by
  rcases replay_last writes k with passed | ⟨earlier,content,later,rfl,_,fixed⟩
  · exact .inl passed
  · exact .inr ⟨content,List.mem_append_right _ List.mem_cons_self,fixed⟩

def Cleared (writes : List (Write κ ν)) (k : κ) : Prop :=
  ∃ earlier later, writes = earlier ++ (k,none) :: later ∧ ∀ write ∈ later, write.1 ≠ k

omit [DecidableEq κ] in
theorem cleared_written {writes : List (Write κ ν)} {k : κ} (cleared : Cleared writes k) : (k,none) ∈ writes := by
  obtain ⟨earlier,later,rfl,_⟩ := cleared
  exact List.mem_append_right _ List.mem_cons_self

theorem replay_cleared {writes : List (Write κ ν)} {k : κ} (view : View κ ν) (shown : view k ≠ none) :
    replay view writes k = none ↔ Cleared writes k := by
  rcases replay_last writes k with ⟨apart,unchanged⟩ | ⟨earlier,content,later,rfl,apart,fixed⟩
  · rw [unchanged]
    refine iff_of_false shown fun cleared => ?_
    exact apart _ (cleared_written cleared) rfl
  · rw [fixed]
    constructor
    · rintro rfl
      exact ⟨earlier,later,rfl,apart⟩
    · rintro ⟨earlier',later',same,apart'⟩
      -- both splits are at the last write to the cell
      have fixed' : replay view (earlier' ++ (k,none) :: later') k = none := by
        rw [replay_append]
        change replay (put _ (k,none)) later' k = none
        rcases replay_last later' k with ⟨_,unchanged⟩ | ⟨one,other,two,rfl,_,_⟩
        · rw [unchanged,put_here]
        · exact absurd rfl (apart' _ (List.mem_append_right _ List.mem_cons_self))
      rw [← fixed view,same,fixed']

theorem replay_outside {writes : List (Write κ ν)} {k : κ} (apart : ∀ write ∈ writes, write.1 ≠ k) (view : View κ ν) :
    replay view writes k = view k := by
  rcases replay_cell writes k with ⟨_,unchanged⟩ | ⟨content,member,_⟩
  · exact unchanged view
  · exact absurd rfl (apart _ member)

theorem replay_pointwise {view other : View κ ν} (writes : List (Write κ ν)) {k : κ} (same : view k = other k) :
    replay view writes k = replay other writes k := by
  rcases replay_cell writes k with ⟨_,unchanged⟩ | ⟨content,_,fixed⟩
  · rw [unchanged view,unchanged other,same]
  · rw [fixed view,fixed other]

theorem replay_flatMap {ι : Type w} (writes : ι → List (Write κ ν)) {parts : List ι} {k : κ} {i : ι} (listed : i ∈ parts)
    (nodup : parts.Nodup) (apart : ∀ j ∈ parts, j ≠ i → ∀ write ∈ writes j, write.1 ≠ k) (view : View κ ν) :
    replay view (parts.flatMap writes) k = replay view (writes i) k := by
  obtain ⟨earlier,later,rfl⟩ := List.append_of_mem listed
  obtain ⟨_,nodupLater,fresh⟩ := List.nodup_append.mp nodup
  have outside : ∀ others : List ι, (∀ j ∈ others, j ∈ earlier ++ i :: later ∧ j ≠ i) →
      ∀ write ∈ others.flatMap writes, write.1 ≠ k := by
    intro others different write member
    obtain ⟨j,here,wrote⟩ := List.mem_flatMap.mp member
    exact apart j (different j here).1 (different j here).2 write wrote
  have before : ∀ j ∈ earlier, j ∈ earlier ++ i :: later ∧ j ≠ i :=
    fun j member => ⟨List.mem_append_left _ member,fresh j member i List.mem_cons_self⟩
  have after : ∀ j ∈ later, j ∈ earlier ++ i :: later ∧ j ≠ i := by
    intro j member
    refine ⟨List.mem_append_right _ (List.mem_cons_of_mem _ member),?_⟩
    rintro rfl
    exact (List.nodup_cons.mp nodupLater).1 member
  rw [List.flatMap_append,List.flatMap_cons,replay_append,replay_append,replay_outside (outside later after)]
  exact replay_pointwise _ (replay_outside (outside earlier before) view)

theorem replay_source {view : View κ ν} {writes : List (Write κ ν)} {k : κ} {v : ν}
    (found : replay view writes k = some v) : view k = some v ∨ (k,some v) ∈ writes := by
  rcases replay_cell writes k with ⟨_,unchanged⟩ | ⟨content,member,fixed⟩
  · exact .inl ((unchanged view).symm.trans found)
  · rw [fixed view] at found
    exact .inr (found ▸ member)

-- Several writers of one board, each with its own replay of what it alone has
-- written: every cell holds what its last writer believes.
section Board

variable {ω : Type w} [DecidableEq ω]

def Held (board : View κ ν) (belief : ω → View κ ν) (wrote : ω → κ → Prop) : Prop :=
  ∀ k, (board k = none ∧ ∀ who, belief who k = none) ∨ ∃ who, wrote who k ∧ board k = belief who k

def believe (belief : ω → View κ ν) (who : ω) (write : Write κ ν) : ω → View κ ν :=
  fun other => if other = who then put (belief who) write else belief other

omit [DecidableEq κ] [DecidableEq ω] in
theorem held_mono {board : View κ ν} {belief : ω → View κ ν} {wrote more : ω → κ → Prop}
    (held : Held board belief wrote) (grows : ∀ who k, wrote who k → more who k) : Held board belief more := by
  intro k
  rcases held k with empty | ⟨who,mark,same⟩
  · exact .inl empty
  · exact .inr ⟨who,grows who k mark,same⟩

theorem held_put {board : View κ ν} {belief : ω → View κ ν} {wrote : ω → κ → Prop} {who : ω} {write : Write κ ν}
    (held : Held board belief wrote) (mark : wrote who write.1) : Held (put board write) (believe belief who write) wrote := by
  intro k
  by_cases here : k = write.1
  · subst here
    refine .inr ⟨who,mark,?_⟩
    rw [put_here,believe,if_pos rfl,put_here]
  · have unchanged : ∀ other, believe belief who write other k = belief other k := by
      intro other
      unfold believe
      split
      · rename_i same
        rw [put_apart _ here,same]
      · rfl
    rw [put_apart _ here]
    rcases held k with ⟨empty,none⟩ | ⟨other,marked,same⟩
    · exact .inl ⟨empty,fun other => (unchanged other).trans (none other)⟩
    · exact .inr ⟨other,marked,same.trans (unchanged other).symm⟩

omit [DecidableEq κ] [DecidableEq ω] in
theorem held_agrees {board : View κ ν} {belief : ω → View κ ν} {wrote : ω → κ → Prop} {k : κ} {content : Option ν}
    (held : Held board belief wrote) (who : ω) (mine : belief who k = content)
    (agree : ∀ other, wrote other k → belief other k = content) : board k = content := by
  rcases held k with ⟨empty,none⟩ | ⟨other,marked,same⟩
  · rw [empty,← mine,none who]
  · rw [same,agree other marked]

end Board
end Aipr.LastWriter
