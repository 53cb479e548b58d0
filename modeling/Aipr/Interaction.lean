namespace Aipr.Interaction

-- A program as the calls it makes: after each call it goes on with the answer.
inductive Program (ι : Type) (answer : ι → Type) (α : Type) where
  | ret (value : α)
  | call (op : ι) (next : answer op → Program ι answer α)

namespace Program

variable {ι : Type} {answer : ι → Type} {α β : Type}

def bind : Program ι answer α → (α → Program ι answer β) → Program ι answer β
  | .ret value,f => f value
  | .call op next,f => .call op fun reply => (next reply).bind f

instance : Monad (Program ι answer) where
  pure := .ret
  bind := bind

def perform (op : ι) : Program ι answer (answer op) := .call op .ret

@[simp] theorem ret_bind (value : α) (f : α → Program ι answer β) : (Program.ret value >>= f) = f value := rfl

@[simp] theorem pure_bind (value : α) (f : α → Program ι answer β) :
    ((pure value : Program ι answer α) >>= f) = f value := rfl

@[simp] theorem perform_bind (op : ι) (f : answer op → Program ι answer β) : (perform op >>= f) = .call op f := rfl

@[simp] theorem call_bind (op : ι) (next : answer op → Program ι answer α) (f : α → Program ι answer β) :
    (Program.call op next >>= f) = .call op fun reply => next reply >>= f := rfl

section Run
variable {σ : Type} (handle : σ → (op : ι) → answer op × σ)

def run : Program ι answer α → σ → α × σ
  | .ret value,s => (value,s)
  | .call op next,s => (next (handle s op).1).run (handle s op).2

@[simp] theorem run_ret (value : α) (s : σ) : (Program.ret value : Program ι answer α).run handle s = (value,s) := rfl

@[simp] theorem run_pure (value : α) (s : σ) : (pure value : Program ι answer α).run handle s = (value,s) := rfl

@[simp] theorem run_call (op : ι) (next : answer op → Program ι answer α) (s : σ) :
    (Program.call op next).run handle s = (next (handle s op).1).run handle (handle s op).2 := rfl

theorem run_bind (p : Program ι answer α) (f : α → Program ι answer β) (s : σ) :
    (p >>= f).run handle s = (f (p.run handle s).1).run handle (p.run handle s).2 := by
  induction p generalizing s with
  | ret value => rfl
  | call op next ih => exact ih (handle s op).1 (handle s op).2

def trace : Program ι answer α → σ → List ((op : ι) × answer op)
  | .ret _,_ => []
  | .call op next,s => ⟨op,(handle s op).1⟩ :: (next (handle s op).1).trace (handle s op).2

@[simp] theorem trace_ret (value : α) (s : σ) : (Program.ret value : Program ι answer α).trace handle s = [] := rfl

@[simp] theorem trace_pure (value : α) (s : σ) : (pure value : Program ι answer α).trace handle s = [] := rfl

@[simp] theorem trace_call (op : ι) (next : answer op → Program ι answer α) (s : σ) :
    (Program.call op next).trace handle s = ⟨op,(handle s op).1⟩ :: (next (handle s op).1).trace handle (handle s op).2 := rfl

theorem trace_bind (p : Program ι answer α) (f : α → Program ι answer β) (s : σ) :
    (p >>= f).trace handle s = p.trace handle s ++ (f (p.run handle s).1).trace handle (p.run handle s).2 := by
  induction p generalizing s with
  | ret value => rfl
  | call op next ih => exact congrArg (List.cons _) (ih (handle s op).1 (handle s op).2)

end Run

inductive Traces : Program ι answer α → List ((op : ι) × answer op) → α → Prop where
  | ret : Traces (.ret value) [] value
  | call {op : ι} {next : answer op → Program ι answer α} {reply : answer op} :
      Traces (next reply) events value → Traces (.call op next) (⟨op,reply⟩ :: events) value

theorem traces_run {σ : Type} (handle : σ → (op : ι) → answer op × σ) (p : Program ι answer α) (s : σ) :
    ∃ events, Traces p events (p.run handle s).1 ∧
      (p.run handle s).2 = events.foldl (fun s event => (handle s event.1).2) s := by
  induction p generalizing s with
  | ret value => exact ⟨[],.ret,rfl⟩
  | call op next ih =>
    obtain ⟨events,made,left⟩ := ih (handle s op).1 (handle s op).2
    exact ⟨⟨op,(handle s op).1⟩ :: events,.call made,left⟩

end Program

-- A monitor follows a program from call to call; a program is safe when it never
-- makes a call that is not allowed, whatever it is answered.
structure Monitor (ι : Type) (answer : ι → Type) (γ : Type) where
  allows : γ → ι → Prop
  observe : γ → (op : ι) → answer op → γ

namespace Monitor

variable {ι : Type} {answer : ι → Type} {γ α β : Type} (w : Monitor ι answer γ)

def Safe (done : γ → α → Prop) : γ → Program ι answer α → Prop
  | g,.ret value => done g value
  | g,.call op next => w.allows g op ∧ ∀ reply, Safe done (w.observe g op reply) (next reply)

variable {w} {done better : γ → α → Prop} {g : γ}

theorem safe_ret {value : α} : w.Safe done g (.ret value) ↔ done g value := Iff.rfl

theorem safe_pure {value : α} : w.Safe done g (pure value) ↔ done g value := Iff.rfl

theorem safe_call {op : ι} {next : answer op → Program ι answer α} :
    w.Safe done g (.call op next) ↔ w.allows g op ∧ ∀ reply, w.Safe done (w.observe g op reply) (next reply) := Iff.rfl

theorem safe_mono {p : Program ι answer α} (weaker : ∀ g value, done g value → better g value)
    (safe : w.Safe done g p) : w.Safe better g p := by
  induction p generalizing g with
  | ret value => exact weaker g value safe
  | call op next ih => exact ⟨safe.1,fun reply => ih reply (safe.2 reply)⟩

theorem safe_bind {done : γ → β → Prop} {p : Program ι answer α} {f : α → Program ι answer β} :
    w.Safe done g (p >>= f) ↔ w.Safe (fun g value => w.Safe done g (f value)) g p := by
  induction p generalizing g with
  | ret value => exact Iff.rfl
  | call op next ih => exact and_congr_right fun _ => forall_congr' fun reply => ih reply

theorem safe_traces {p : Program ι answer α} {events : List ((op : ι) × answer op)} {value : α}
    (safe : w.Safe done g p) (made : p.Traces events value) :
    done (events.foldl (fun g event => w.observe g event.1 event.2) g) value := by
  induction made generalizing g with
  | ret => exact safe
  | call _ ih => exact ih (safe.2 _)

theorem safe_trace {w : Monitor ι answer Unit} {done : Unit → α → Prop} {p : Program ι answer α}
    (safe : w.Safe done () p) {σ : Type} (handle : σ → (op : ι) → answer op × σ) (s : σ) :
    ∀ event ∈ p.trace handle s, w.allows () event.1 := by
  induction p generalizing s with
  | ret value => exact fun event member => absurd member List.not_mem_nil
  | call op next ih =>
    intro event member
    rcases List.mem_cons.mp member with rfl | later
    · exact safe.1
    · exact ih (handle s op).1 (safe.2 _) (handle s op).2 event later

end Monitor
end Aipr.Interaction
