import Aipr.Installed

namespace Aipr.Syncer
open NodeportTc

-- What the kernel does with the calls of one run: which of them fail for reasons
-- of their own, and how a failed call says why.
structure Kernel where
  fails : Nat → Bool
  cause : Nat → String

def Kernel.next (k : Kernel) : Kernel := ⟨fun n => k.fails (n+1),fun n => k.cause (n+1)⟩

-- A function returns at its first failed call; a call also fails when its table
-- has no room.
def executeCalls (k : Kernel) : List Call → Maps → Maps × Option String
  | [],m => (m,none)
  | c :: rest,m =>
    match k.fails 0,c.op.apply m with
    | false,some next => executeCalls k.next rest next
    | _,_ => (m,some (c.failed (k.cause 0)))

def Script.execute (s : Script) (k : Kernel) (m : Maps) : Maps × Option String :=
  match executeCalls k s.calls m with
  | (left,none) => (left,s.error)
  | (left,some err) => (left,some err)

def applyAll (calls : List Call) (m : Maps) : Option Maps := calls.foldlM (fun m c => c.op.apply m) m

theorem emit_andThen (op : MapOp) (context : String) (later : Script) :
    (emit false op context).andThen later = ⟨⟨op,some context⟩ :: later.calls,later.error⟩ := rfl

section Execute
variable {k : Kernel} {m left : Maps} {err : String}

theorem executeCalls_ok {calls : List Call} (done : executeCalls k calls m = (left,none)) : applyAll calls m = some left := by
  induction calls generalizing k m with
  | nil => exact congrArg some (congrArg Prod.fst done)
  | cons c rest ih =>
    rw [executeCalls] at done
    split at done
    · rename_i next _ taken
      rw [applyAll,List.foldlM_cons,taken]
      exact ih done
    · cases congrArg Prod.snd done

theorem execute_ok {s : Script} (done : s.execute k m = (left,none)) : s.error = none ∧ applyAll s.calls m = some left := by
  unfold Script.execute at done
  split at done
  · rename_i after ran
    rw [Prod.mk.injEq] at done
    obtain ⟨rfl,whole⟩ := done
    exact ⟨whole,executeCalls_ok ran⟩
  · cases done

def willing : Kernel := ⟨fun _ => false,fun _ => ""⟩

theorem execute_willing {s : Script} (whole : s.error = none) (applied : applyAll s.calls m = some left) :
    s.execute willing m = (left,none) := by
  have all : ∀ (calls : List Call) (m : Maps), applyAll calls m = some left → executeCalls willing calls m = (left,none) := by
    intro calls
    induction calls with
    | nil => intro m applied; exact congrArg (·,none) (Option.some.inj applied)
    | cons c rest ih =>
      intro m applied
      rw [applyAll,List.foldlM_cons] at applied
      obtain ⟨next,taken,later⟩ := Option.bind_eq_some_iff.mp applied
      rw [executeCalls,taken]
      exact ih next later
  rw [Script.execute,all _ _ applied,whole]

end Execute
section Apply
variable {m left : Maps}

theorem applyAll_cons {c : Call} {rest : List Call} :
    applyAll (c :: rest) m = some left ↔ ∃ next, Takes m c.op next ∧ applyAll rest next = some left := by
  simp only [applyAll,List.foldlM_cons,Option.bind_eq_bind,Option.bind_eq_some_iff,takes_iff]

theorem applyAll_append {earlier later : List Call} :
    applyAll (earlier ++ later) m = some left ↔ ∃ middle, applyAll earlier m = some middle ∧ applyAll later middle = some left := by
  simp only [applyAll,List.foldlM_append,Option.bind_eq_bind,Option.bind_eq_some_iff]

theorem applyAll_keeps (kept : Maps → Prop) {calls : List Call} (step : ∀ m next, ∀ c ∈ calls, kept m → Takes m c.op next → kept next)
    (start : kept m) (applied : applyAll calls m = some left) : kept left := by
  induction calls generalizing m with
  | nil => exact Option.some.inj applied ▸ start
  | cons c rest ih =>
    obtain ⟨next,taken,later⟩ := applyAll_cons.mp applied
    exact ih (fun m next c member => step m next c (List.mem_cons_of_mem _ member)) (step m next c List.mem_cons_self start taken) later

theorem applyAll_cells {calls : List Call} (applied : applyAll calls m = some left) :
    cells left = LastWriter.replay (cells m) (calls.filterMap fun c => c.op.write) := by
  induction calls generalizing m with
  | nil => exact Option.some.inj applied ▸ rfl
  | cons c rest ih =>
    obtain ⟨next,taken,later⟩ := applyAll_cons.mp applied
    rw [ih later,apply_cells (takes_iff.mpr taken),List.filterMap_cons]
    cases c.op.write with
    | none => rfl
    | some write => rfl

end Apply
end Aipr.Syncer
