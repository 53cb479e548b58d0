import Mathlib.Order.Closure
import Mathlib.Order.CompletePartialOrder
import Mathlib.Logic.Function.Basic
import Aipr.Interaction
import Aipr.Transition

namespace Aipr.Knowledge
open Interaction Transition

-- The state shows facts, a call rests on facts, an answer tells facts; what the state comes
-- to show follows from what it showed before and from what the call rests on.
structure Evidence (σ ι : Type) (answer : ι → Type) (φ : Type) where
  handle : σ → (op : ι) → answer op × σ
  follows : ClosureOperator (Set φ)
  shows : σ → Set φ
  rests : ι → Set φ
  tells : (op : ι) → answer op → Set φ
  kept : ∀ s op, shows (handle s op).2 ⊆ follows (shows s ∪ rests op)
  told : ∀ s op, tells op (handle s op).1 ⊆ follows (shows s)

namespace Evidence

variable {σ ι φ α : Type} {answer : ι → Type} (e : Evidence σ ι answer φ)

def monitor : Monitor ι answer (Set φ) where
  allows g op := e.rests op ⊆ e.follows g
  observe g op reply := g ∪ e.tells op reply

variable {e} {known : Set φ} {g : Set φ}

theorem follows_trans {facts : Set φ} (within : facts ⊆ e.follows known) : e.follows facts ⊆ e.follows known :=
  ClosureOperator.le_closure_iff.mp within

theorem follows_mono {more : Set φ} (within : known ⊆ more) : e.follows known ⊆ e.follows more :=
  e.follows.monotone within

theorem follows_known : known ⊆ e.follows known := e.follows.le_closure known

theorem call_kept {s : σ} {op : ι} (shown : e.shows s ⊆ e.follows known) (backed : e.rests op ⊆ e.follows known) :
    e.shows (e.handle s op).2 ⊆ e.follows known :=
  (e.kept s op).trans (follows_trans (Set.union_subset shown backed))

theorem call_told {s : σ} {op : ι} (shown : e.shows s ⊆ e.follows known) (within : g ⊆ e.follows known) :
    e.monitor.observe g op (e.handle s op).1 ⊆ e.follows known :=
  Set.union_subset within ((e.told s op).trans (follows_trans shown))

theorem call_safe {done : Set φ → α → Prop} {op : ι} {next : answer op → Program ι answer α} (backed : e.rests op ⊆ e.follows g)
    (rest : ∀ reply, e.monitor.Safe done (g ∪ e.tells op reply) (next reply)) : e.monitor.Safe done g (.call op next) :=
  ⟨backed,rest⟩

theorem safe_grows {done : Set φ → α → Prop} {p : Program ι answer α} (safe : e.monitor.Safe done g p) :
    e.monitor.Safe (fun final value => g ⊆ final ∧ done final value) g p := by
  induction p generalizing g with
  | ret value => exact ⟨subset_refl g,safe⟩
  | call op next ih =>
    refine ⟨safe.1,fun reply => ?_⟩
    refine Monitor.safe_mono ?_ (ih reply (safe.2 reply))
    exact fun final value grown => ⟨subset_trans Set.subset_union_left grown.1,grown.2⟩

end Evidence

structure Setting (σ ι : Type) (answer : ι → Type) (φ τ ε α : Type) extends Evidence σ ι answer φ where
  program : τ → Program ι answer α
  begins : τ → Set φ
  done : τ → Set φ → α → Prop
  done_mono : ∀ task known more value, known ⊆ more → done task known value → done task more value
  safe : ∀ task, toEvidence.monitor.Safe (fun g value => done task (follows g) value) (begins task) (program task)
  ambient : σ → ε → Option σ
  brings : ε → Set φ
  moved : ∀ s event next, ambient s event = some next → shows next ⊆ follows (shows s ∪ brings event)

inductive Input (ω τ ε : Type) where
  | arrive (cpu : ω) (task : τ)
  | run (cpu : ω)
  | leave (cpu : ω)
  | ambient (event : ε)

structure State (σ ω τ ι : Type) (answer : ι → Type) (α : Type) where
  shared : σ
  running : ω → Option (τ × Program ι answer α)

namespace Setting

variable {σ ι φ τ ε α ω : Type} {answer : ι → Type} (x : Setting σ ι answer φ τ ε α)

def start (s : σ) : State σ ω τ ι answer α := ⟨s,fun _ => none⟩

def happened (past : List (Input ω τ ε)) : Set φ :=
  {fact | ∃ input ∈ past, match input with
    | .arrive _ task => fact ∈ x.begins task
    | .ambient event => fact ∈ x.brings event
    | _ => False}

structure Grounded (past : List (Input ω τ ε)) (s : State σ ω τ ι answer α) : Prop where
  shown : x.shows s.shared ⊆ x.follows (x.happened past)
  running : ∀ cpu task rest, s.running cpu = some (task,rest) → ∃ g ⊆ x.follows (x.happened past),
    x.monitor.Safe (fun g value => x.done task (x.follows g) value) g rest

variable {x} {past : List (Input ω τ ε)} {s next : State σ ω τ ι answer α} {cpu : ω}

theorem happened_append (past later : List (Input ω τ ε)) : x.happened past ⊆ x.happened (past ++ later) := by
  intro fact ⟨input,member,brought⟩
  exact ⟨input,List.mem_append_left _ member,brought⟩

theorem happened_last {fact : φ} (input : Input ω τ ε) (brought : fact ∈ x.happened [input]) :
    fact ∈ x.happened (past ++ [input]) := by
  obtain ⟨same,member,brought⟩ := brought
  exact ⟨same,List.mem_append_right _ member,brought⟩

theorem grounded_start {s : σ} (blank : x.shows s ⊆ x.follows ∅) :
    x.Grounded ([] : List (Input ω τ ε)) (start s : State σ ω τ ι answer α) := by
  refine ⟨blank.trans (Evidence.follows_mono (Set.empty_subset _)),?_⟩
  intro cpu task rest impossible
  cases impossible

theorem grounded_result (valid : x.Grounded past s) {task : τ} {value : α} (ready : s.running cpu = some (task,.ret value)) :
    x.done task (x.follows (x.happened past)) value := by
  obtain ⟨g,within,finished⟩ := valid.running cpu task _ ready
  exact x.done_mono task _ _ value (Evidence.follows_trans within) finished

section Steps
variable [DecidableEq ω]

-- A task comes to an idle processor, a processor makes its next call, or it is done
-- and takes up nothing for the moment.
def advance (x : Setting σ ι answer φ τ ε α) (s : State σ ω τ ι answer α) : Input ω τ ε → Option (State σ ω τ ι answer α)
  | .arrive cpu task =>
    match s.running cpu with
    | none => some {s with running := Function.update s.running cpu (some (task,x.program task))}
    | some _ => none
  | .run cpu =>
    match s.running cpu with
    | some (task,.call op next) =>
      some ⟨(x.handle s.shared op).2,Function.update s.running cpu (some (task,next (x.handle s.shared op).1))⟩
    | _ => none
  | .leave cpu =>
    match s.running cpu with
    | some (_,.ret _) => some {s with running := Function.update s.running cpu none}
    | _ => none
  | .ambient event => (x.ambient s.shared event).map fun shared => {s with shared := shared}

theorem grounded_others (valid : x.Grounded past s) (later : List (Input ω τ ε)) {entry : Option (τ × Program ι answer α)}
    (own : ∀ task rest, entry = some (task,rest) → ∃ g ⊆ x.follows (x.happened (past ++ later)),
      x.monitor.Safe (fun g value => x.done task (x.follows g) value) g rest)
    (other : ω) (task : τ) (rest : Program ι answer α) (found : Function.update s.running cpu entry other = some (task,rest)) :
    ∃ g ⊆ x.follows (x.happened (past ++ later)), x.monitor.Safe (fun g value => x.done task (x.follows g) value) g rest := by
  by_cases same : other = cpu
  · rw [same,Function.update_self] at found
    exact own task rest found
  · rw [Function.update_of_ne same] at found
    obtain ⟨g,within,safe⟩ := valid.running other task rest found
    exact ⟨g,within.trans (Evidence.follows_mono (happened_append past later)),safe⟩

theorem grounded_advance (valid : x.Grounded past s) {input : Input ω τ ε} (step : x.advance s input = some next) :
    x.Grounded (past ++ [input]) next := by
  have older : x.follows (x.happened past) ⊆ x.follows (x.happened (past ++ [input])) :=
    Evidence.follows_mono (happened_append past [input])
  cases input with
  | arrive cpu task =>
    simp only [advance] at step
    cases idle : s.running cpu with
    | some busy => simp [idle] at step
    | none =>
      simp only [idle,Option.some.injEq] at step
      subst step
      refine ⟨valid.shown.trans older,grounded_others valid _ ?_⟩
      intro same rest here
      cases here
      refine ⟨x.begins task,?_,x.safe task⟩
      refine subset_trans ?_ Evidence.follows_known
      intro fact begun
      exact happened_last _ ⟨_,List.mem_cons_self,begun⟩
  | run cpu =>
    simp only [advance] at step
    split at step
    · rename_i task op next' busy
      cases step
      obtain ⟨g,within,allowed,rest⟩ := valid.running cpu task _ busy
      have backed := allowed.trans (Evidence.follows_trans within)
      refine ⟨(Evidence.call_kept valid.shown backed).trans older,grounded_others valid _ ?_⟩
      intro same rest' here
      cases here
      exact ⟨_,(Evidence.call_told valid.shown within).trans older,rest _⟩
    · cases step
  | leave cpu =>
    simp only [advance] at step
    split at step
    · cases step
      refine ⟨valid.shown.trans older,grounded_others valid _ ?_⟩
      intro task rest impossible
      cases impossible
    · cases step
  | ambient event =>
    obtain ⟨shared,moved,rfl⟩ := Option.map_eq_some_iff.mp step
    refine ⟨?_,?_⟩
    · refine (x.moved _ _ _ moved).trans (Evidence.follows_trans (Set.union_subset (valid.shown.trans older) ?_))
      refine subset_trans ?_ Evidence.follows_known
      intro fact brought
      exact happened_last _ ⟨_,List.mem_cons_self,brought⟩
    · intro cpu task rest found
      obtain ⟨g,within,safe⟩ := valid.running cpu task rest found
      exact ⟨g,within.trans older,safe⟩

theorem grounded_runs {origin : σ} (blank : x.shows origin ⊆ x.follows ∅) {inputs : List (Input ω τ ε)}
    (run : Runs x.advance (start origin) inputs s) : x.Grounded inputs s :=
  run.invariant (grounded_start blank) fun _ _ _ _ valid step => grounded_advance valid step

end Steps
end Setting
end Aipr.Knowledge
