namespace Aipr.Transition

-- Total steps: a run is the list of its inputs. `Along` speaks of every state
-- passed through (the last one included), `Each` of every step taken.
section Total

variable {σ : Type u} {ι : Type v} (step : σ → ι → σ)

def Along (good : σ → Prop) : σ → List ι → Prop
  | s,[] => good s
  | s,input :: rest => good s ∧ Along good (step s input) rest

def Each (meets : σ → ι → Prop) : σ → List ι → Prop
  | _,[] => True
  | s,input :: rest => meets s input ∧ Each meets (step s input) rest

variable {step}

instance decidableEach {meets : σ → ι → Prop} [∀ s input, Decidable (meets s input)] :
    (s : σ) → (inputs : List ι) → Decidable (Each step meets s inputs)
  | _,[] => inferInstanceAs (Decidable True)
  | s,input :: rest =>
    have : Decidable (Each step meets (step s input) rest) := decidableEach (step s input) rest
    inferInstanceAs (Decidable (_ ∧ _))

theorem along_start {good : σ → Prop} {s : σ} {inputs : List ι} (all : Along step good s inputs) : good s := by
  cases inputs with
  | nil => exact all
  | cons input rest => exact all.1

theorem along_last {good : σ → Prop} {s : σ} {inputs : List ι} (all : Along step good s inputs) :
    good (inputs.foldl step s) := by
  induction inputs generalizing s with
  | nil => exact all
  | cons input rest ih => exact ih all.2

theorem along_append {good : σ → Prop} {s : σ} {inputs : List ι} {input : ι} (all : Along step good s inputs)
    (last : good (step (inputs.foldl step s) input)) : Along step good s (inputs ++ [input]) := by
  induction inputs generalizing s with
  | nil => exact ⟨all,last⟩
  | cons first rest ih => exact ⟨all.1,ih all.2 last⟩

theorem along_mono {good better : σ → Prop} (weaker : ∀ s, good s → better s) {s : σ} {inputs : List ι}
    (all : Along step good s inputs) : Along step better s inputs := by
  induction inputs generalizing s with
  | nil => exact weaker s all
  | cons input rest ih => exact ⟨weaker s all.1,ih all.2⟩

theorem along_of_each {invariant : σ → Prop} {meets : σ → ι → Prop}
    (preserved : ∀ s input, invariant s → meets s input → invariant (step s input))
    {s : σ} {inputs : List ι} (valid : invariant s) (steps : Each step meets s inputs) :
    Along step invariant s inputs := by
  induction inputs generalizing s with
  | nil => exact valid
  | cons input rest ih => exact ⟨valid,ih (preserved s input valid steps.1) steps.2⟩

theorem along_invariant {invariant : σ → Prop} (preserved : ∀ s input, invariant s → invariant (step s input))
    {s : σ} {inputs : List ι} (valid : invariant s) : Along step invariant s inputs := by
  induction inputs generalizing s with
  | nil => exact valid
  | cons input rest ih => exact ⟨valid,ih (preserved s input valid)⟩

theorem each_of_each {invariant : σ → Prop} {meets safe : σ → ι → Prop}
    (sound : ∀ s input, invariant s → meets s input → safe s input)
    (preserved : ∀ s input, invariant s → meets s input → invariant (step s input))
    {s : σ} {inputs : List ι} (valid : invariant s) (steps : Each step meets s inputs) : Each step safe s inputs := by
  induction inputs generalizing s with
  | nil => trivial
  | cons input rest ih => exact ⟨sound s input valid steps.1,ih (preserved s input valid steps.1) steps.2⟩

-- When the first step that misses the condition at once leaves a bad state, the
-- condition is exactly what the runs that stay good have in common.
theorem along_iff_each {invariant good : σ → Prop} {meets : σ → ι → Prop}
    (sound : ∀ s, invariant s → good s)
    (preserved : ∀ s input, invariant s → meets s input → invariant (step s input))
    (broken : ∀ s input, invariant s → ¬ meets s input → ¬ good (step s input))
    {s : σ} {inputs : List ι} (valid : invariant s) :
    Along step good s inputs ↔ Each step meets s inputs := by
  constructor
  · intro all
    induction inputs generalizing s with
    | nil => trivial
    | cons input rest ih =>
      have met : meets s input := by
        apply Classical.byContradiction
        intro missed
        exact broken s input valid missed (along_start all.2)
      exact ⟨met,ih (preserved s input valid met) all.2⟩
  · intro steps
    exact along_mono sound (along_of_each preserved valid steps)

-- Either every step meets the condition or the first one that misses it leaves a bad
-- state, and the calm steps after it do not mend that.
theorem each_or_last {invariant bad : σ → Prop} {calm meets : σ → ι → Prop}
    (preserved : ∀ s input, invariant s → calm s input → invariant (step s input))
    (broken : ∀ s input, invariant s → ¬ meets s input → bad (step s input))
    (stays : ∀ s input, bad s → calm s input → bad (step s input))
    {s : σ} {inputs : List ι} (valid : invariant s) (steps : Each step calm s inputs) :
    Each step meets s inputs ∨ bad (inputs.foldl step s) := by
  have worse : ∀ {s : σ} {inputs : List ι}, bad s → Each step calm s inputs → bad (inputs.foldl step s) := by
    intro s inputs bad steps
    induction inputs generalizing s with
    | nil => exact bad
    | cons input rest ih => exact ih (stays s input bad steps.1) steps.2
  induction inputs generalizing s with
  | nil => exact .inl trivial
  | cons input rest ih =>
    by_cases met : meets s input
    · exact (ih (preserved s input valid steps.1) steps.2).imp_left fun later => ⟨met,later⟩
    · exact .inr (@worse _ rest (broken s input valid met) steps.2)

theorem each_of_all {meets : σ → ι → Prop} {inputs : List ι} (all : ∀ input ∈ inputs, ∀ s, meets s input) (s : σ) :
    Each step meets s inputs := by
  induction inputs generalizing s with
  | nil => trivial
  | cons input rest ih =>
    exact ⟨all input List.mem_cons_self s,ih (fun other member => all other (List.mem_cons_of_mem _ member)) _⟩

theorem each_congr {one two : σ → ι → Prop} (same : ∀ s input, one s input ↔ two s input)
    {s : σ} {inputs : List ι} : Each step one s inputs ↔ Each step two s inputs := by
  induction inputs generalizing s with
  | nil => exact Iff.rfl
  | cons input rest ih => exact and_congr (same s input) ih

theorem each_append {meets : σ → ι → Prop} {s : σ} {earlier later : List ι} :
    Each step meets s (earlier ++ later) ↔ Each step meets s earlier ∧ Each step meets (earlier.foldl step s) later := by
  induction earlier generalizing s with
  | nil => exact (iff_of_eq (true_and _)).symm
  | cons input rest ih => exact (and_congr_right fun _ => ih).trans and_assoc.symm

end Total

-- Partial steps: `advance` refuses an input that the state does not admit.
section Partial

variable {σ : Type u} {ι : Type v} {advance : σ → ι → Option σ}

inductive Runs (advance : σ → ι → Option σ) : σ → List ι → σ → Prop where
  | nil : Runs advance s [] s
  | step : Runs advance origin earlier middle → advance middle input = some after →
      Runs advance origin (earlier ++ [input]) after

theorem Runs.append {before middle after : σ} {earlier later : List ι}
    (left : Runs advance before earlier middle) (right : Runs advance middle later after) :
    Runs advance before (earlier ++ later) after := by
  induction right with
  | nil => simpa using left
  | step prior taken ih => simpa only [List.append_assoc] using Runs.step ih taken

theorem Runs.single {before after : σ} {input : ι} (taken : advance before input = some after) :
    Runs advance before [input] after := .step .nil taken

theorem Runs.cons {before middle after : σ} {input : ι} {later : List ι}
    (taken : advance before input = some middle) (right : Runs advance middle later after) :
    Runs advance before (input :: later) after := (Runs.single taken).append right

theorem Runs.last {before after : σ} {earlier : List ι} {input : ι} (run : Runs advance before (earlier ++ [input]) after) :
    ∃ middle, Runs advance before earlier middle ∧ advance middle input = some after := by
  generalize whole : earlier ++ [input] = inputs at run
  cases run with
  | nil => exact absurd whole (List.append_ne_nil_of_right_ne_nil _ (List.cons_ne_nil input []))
  | step prior taken =>
    obtain ⟨rfl,last⟩ := List.append_inj' whole rfl
    cases last
    exact ⟨_,prior,taken⟩

theorem Runs.of_fold {before after : σ} {inputs : List ι} (computed : inputs.foldlM advance before = some after) :
    Runs advance before inputs after := by
  induction inputs generalizing before with
  | nil =>
    cases computed
    exact .nil
  | cons input rest ih =>
    rw [List.foldlM_cons] at computed
    obtain ⟨middle,taken,later⟩ := Option.bind_eq_some_iff.mp computed
    exact .cons taken (ih later)

theorem Runs.invariant {valid : List ι → σ → Prop} {origin after : σ} {inputs : List ι}
    (start : valid [] origin)
    (preserved : ∀ past s input next, valid past s → advance s input = some next → valid (past ++ [input]) next)
    (path : Runs advance origin inputs after) : valid inputs after := by
  induction path with
  | nil => exact start
  | step prior taken ih => exact preserved _ _ _ _ ih taken

theorem Runs.always {invariant : σ → Prop} {origin after : σ} {inputs : List ι} (path : Runs advance origin inputs after)
    (start : invariant origin) (preserved : ∀ s input next, invariant s → advance s input = some next → invariant next) :
    invariant after := by
  induction path with
  | nil => exact start
  | step prior taken ih => exact preserved _ _ _ ih taken

def Later (advance : σ → ι → Option σ) (own other : ι → Prop) (after before : σ) : Prop :=
  ∃ others input, (∀ passed ∈ others, other passed) ∧ own input ∧ Runs advance before (others ++ [input]) after

-- Own inputs that each go down in rank, while the others keep it, come to an end.
theorem later_acc {own other : ι → Prop} {invariant : σ → Prop} {α : Type w} {less : α → α → Prop} (founded : WellFounded less)
    (rank : σ → α)
    (others : ∀ s input next, invariant s → other input → advance s input = some next → invariant next ∧ rank next = rank s)
    (owns : ∀ s input next, invariant s → own input → advance s input = some next → invariant next ∧ less (rank next) (rank s))
    {s : σ} (valid : invariant s) : Acc (Later advance own other) s := by
  have passed : ∀ {inputs : List ι} {before after : σ}, Runs advance before inputs after → invariant before →
      (∀ input ∈ inputs, other input) → invariant after ∧ rank after = rank before := by
    intro inputs before after run valid foreign
    induction run with
    | nil => exact ⟨valid,rfl⟩
    | step prior taken ih =>
      obtain ⟨middle,same⟩ := ih fun input listed => foreign input (List.mem_append_left _ listed)
      obtain ⟨kept,still⟩ := others _ _ _ middle (foreign _ (List.mem_append_right _ List.mem_cons_self)) taken
      exact ⟨kept,still.trans same⟩
  induction low : rank s using founded.induction generalizing s with
  | h bound ih =>
    refine .intro s fun after later => ?_
    obtain ⟨front,input,foreign,mine,run⟩ := later
    obtain ⟨middle,before,taken⟩ := run.last
    obtain ⟨kept,same⟩ := passed before valid foreign
    obtain ⟨final,lower⟩ := owns _ _ _ kept mine taken
    rw [same,low] at lower
    exact ih _ lower final rfl

end Partial
end Aipr.Transition
