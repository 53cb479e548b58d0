import Mathlib.Data.List.TakeWhile

namespace Aipr.FlagPackage

structure Flag (σ : Type) where
  name : String
  isBoolFlag : Bool
  set : String → σ → Except String σ

inductive Failure where
  | badSyntax (word : String)
  | help
  | notDefined (name : String)
  | needsArgument (name : String)
  | invalidBoolean (value name err : String)
  | invalidFlag (name err : String)
  | invalidValue (value name err : String)
deriving DecidableEq, Repr

inductive Word where
  | stop
  | bad
  | flag (name : String) (value : Option String)
deriving DecidableEq, Repr

def named : List Char → Word
  | [] => .bad
  | c :: rest =>
    let tail := (c :: rest).dropWhile (· ≠ '=')
    if c = '-' ∨ c = '=' then .bad
    else .flag (String.ofList ((c :: rest).takeWhile (· ≠ '='))) (if tail = [] then none else some (String.ofList tail.tail))

def lex (word : String) : Word :=
  match word.toList with
  | ['-','-'] => .stop
  | '-' :: '-' :: name => named name
  | '-' :: c :: name => named (c :: name)
  | _ => .stop

def parseBool (value : String) : Option Bool :=
  if value ∈ ["1","t","T","true","TRUE","True"] then some true
  else if value ∈ ["0","f","F","false","FALSE","False"] then some false
  else none

section Vars
variable {σ α : Type}

def stringVar (name : String) (store : String → σ → σ) : Flag σ := ⟨name,false,fun value s => .ok (store value s)⟩

def boolVar (name : String) (store : Bool → σ → σ) : Flag σ :=
  ⟨name,true,fun value s =>
    match parseBool value with
    | some value => .ok (store value s)
    | none => .error "parse error"⟩

def parsedVar (parse : String → Except String α) (name : String) (store : α → σ → σ) : Flag σ :=
  ⟨name,false,fun value s => (parse value).map fun value => store value s⟩

end Vars

section Parse
variable {σ : Type}

def Flag.assign (flag : Flag σ) (value : Option String) (s : σ) : Except Failure σ :=
  match flag.set (value.getD "true") s with
  | .ok s => .ok s
  | .error err =>
    match value with
    | none => .error (.invalidFlag flag.name err)
    | some value => .error (if flag.isBoolFlag then .invalidBoolean value flag.name err else .invalidValue value flag.name err)

variable (flags : List (Flag σ))

def lookup (name : String) : Option (Flag σ) := flags.find? fun flag => flag.name = name

def undefined (name : String) : Failure := if name = "help" ∨ name = "h" then .help else .notDefined name

def parse : List String → σ → Except Failure σ
  | [],s => .ok s
  | word :: arguments,s =>
    match lex word with
    | .stop => .ok s
    | .bad => .error (.badSyntax word)
    | .flag name value =>
      match lookup flags name with
      | none => .error (undefined name)
      | some flag =>
        if flag.isBoolFlag then (flag.assign value s).bind (parse arguments)
        else
          match value,arguments with
          | some value,arguments => (flag.assign (some value) s).bind (parse arguments)
          | none,value :: arguments => (flag.assign (some value) s).bind (parse arguments)
          | none,[] => .error (.needsArgument name)

structure Setting (σ : Type) where
  flag : Flag σ
  value : Option String

inductive Ending where
  | complete
  | stopped
  | refused (failure : Failure)
deriving DecidableEq, Repr

structure Reading (σ : Type) where
  settings : List (Setting σ)
  ending : Ending

def Reading.after (setting : Setting σ) (reading : Reading σ) : Reading σ := ⟨setting :: reading.settings,reading.ending⟩

def reading : List String → Reading σ
  | [] => ⟨[],.complete⟩
  | word :: arguments =>
    match lex word with
    | .stop => ⟨[],.stopped⟩
    | .bad => ⟨[],.refused (.badSyntax word)⟩
    | .flag name value =>
      match lookup flags name with
      | none => ⟨[],.refused (undefined name)⟩
      | some flag =>
        if flag.isBoolFlag then (reading arguments).after ⟨flag,value⟩
        else
          match value,arguments with
          | some value,arguments => (reading arguments).after ⟨flag,some value⟩
          | none,value :: arguments => (reading arguments).after ⟨flag,some value⟩
          | none,[] => ⟨[],.refused (.needsArgument name)⟩

def apply : List (Setting σ) → σ → Except Failure σ
  | [],s => .ok s
  | setting :: rest,s => (setting.flag.assign setting.value s).bind (apply rest)

def Ending.result : Ending → σ → Except Failure σ
  | .refused failure,_ => .error failure
  | _,s => .ok s

def said (own : String) : List (Setting σ) → Option Bool
  | [] => none
  | setting :: rest =>
    (said own rest).or (if setting.flag.name = own then parseBool (setting.value.getD "true") else none)

def Flag.Keeps (flag : Flag σ) (view : σ → Bool) : Prop := ∀ value s s', flag.set value s = .ok s' → view s' = view s

structure Shows (own : String) (view : σ → Bool) : Prop where
  own_value : ∀ flag ∈ flags, flag.name = own → ∀ value s s', flag.set value s = .ok s' → parseBool value = some (view s')
  other_kept : ∀ flag ∈ flags, flag.name ≠ own → flag.Keeps view

end Parse

section Reads
variable {σ : Type} {flags : List (Flag σ)} {words : List String} {flag : Flag σ} {own : String} {view : σ → Bool} {s s' : σ}

theorem lookup_name {name : String} (found : lookup flags name = some flag) : flag ∈ flags ∧ flag.name = name := by
  have called := List.find?_some found
  rw [decide_eq_true_eq] at called
  exact ⟨List.mem_of_find?_eq_some found,called⟩

theorem assign_ok {value : Option String} (assigned : flag.assign value s = .ok s') : flag.set (value.getD "true") s = .ok s' := by
  unfold Flag.assign at assigned
  split at assigned
  · rename_i written
    cases assigned
    exact written
  · split at assigned <;> cases assigned

theorem run_after (rest : Reading σ) (setting : Setting σ) {next : σ → Except Failure σ}
    (same : ∀ s, next s = (apply rest.settings s).bind rest.ending.result) (s : σ) :
    (setting.flag.assign setting.value s).bind next =
      (apply (rest.after setting).settings s).bind (rest.after setting).ending.result := by
  rw [Reading.after,apply]
  cases setting.flag.assign setting.value s with
  | error failure => rfl
  | ok s => exact same s

theorem parse_reading (words : List String) (s : σ) :
    parse flags words s = (apply (reading flags words).settings s).bind (reading flags words).ending.result := by
  fun_induction reading flags words generalizing s with
  | case1 => rfl
  | case2 word arguments lexed =>
    rw [parse,lexed]
    rfl
  | case3 word arguments lexed =>
    rw [parse,lexed]
    rfl
  | case4 word arguments name value lexed missing =>
    simp only [parse,lexed,missing]
    rfl
  | case5 word arguments name value lexed flag found boolean ih =>
    simp only [parse,lexed,found,if_pos boolean]
    exact run_after (reading flags arguments) ⟨flag,value⟩ ih s
  | case6 word name flag found valued value arguments lexed ih =>
    simp only [parse,lexed,found,if_neg valued]
    exact run_after (reading flags arguments) ⟨flag,some value⟩ ih s
  | case7 word name flag found valued value arguments lexed ih =>
    simp only [parse,lexed,found,if_neg valued]
    exact run_after (reading flags arguments) ⟨flag,some value⟩ ih s
  | case8 word name flag found valued lexed =>
    simp only [parse,lexed,found,if_neg valued]
    rfl

theorem parsed_settings (parsed : parse flags words s = .ok s') : apply (reading flags words).settings s = .ok s' := by
  rw [parse_reading] at parsed
  cases applied : apply (reading flags words).settings s with
  | error failure =>
    rw [applied] at parsed
    cases parsed
  | ok last =>
    rw [applied] at parsed
    change (reading flags words).ending.result last = .ok s' at parsed
    cases ended : (reading flags words).ending with
    | refused failure =>
      rw [ended] at parsed
      cases parsed
    | complete =>
      rw [ended] at parsed
      exact parsed
    | stopped =>
      rw [ended] at parsed
      exact parsed

theorem settings_listed (words : List String) : ∀ setting ∈ (reading flags words).settings, setting.flag ∈ flags := by
  have empty : ∀ setting ∈ ([] : List (Setting σ)), setting.flag ∈ flags := fun _ member => absurd member List.not_mem_nil
  have grown : ∀ {rest : Reading σ} {setting : Setting σ}, setting.flag ∈ flags → (∀ setting ∈ rest.settings, setting.flag ∈ flags) →
      ∀ setting' ∈ (rest.after setting).settings, setting'.flag ∈ flags := by
    intro rest setting first later setting' member
    rcases List.mem_cons.mp member with rfl | member
    · exact first
    · exact later setting' member
  fun_induction reading flags words with
  | case1 => exact empty
  | case2 => exact empty
  | case3 => exact empty
  | case4 => exact empty
  | case5 word arguments name value lexed flag found boolean ih => exact grown (lookup_name found).1 ih
  | case6 word name flag found valued value arguments lexed ih => exact grown (lookup_name found).1 ih
  | case7 word name flag found valued value arguments lexed ih => exact grown (lookup_name found).1 ih
  | case8 => exact empty

theorem reading_append (done : (reading flags words).ending = .complete) (more : List String) :
    reading flags (words ++ more) = ⟨(reading flags words).settings ++ (reading flags more).settings,(reading flags more).ending⟩ := by
  fun_induction reading flags words with
  | case1 => rfl
  | case2 => cases done
  | case3 => cases done
  | case4 => cases done
  | case5 word arguments name value lexed flag found boolean ih =>
    simp only [List.cons_append,reading,lexed,found,if_pos boolean]
    rw [ih done]
    rfl
  | case6 word name flag found valued value arguments lexed ih =>
    simp only [List.cons_append,reading,lexed,found,if_neg valued]
    rw [ih done]
    rfl
  | case7 word name flag found valued value arguments lexed ih =>
    simp only [List.cons_append,reading,lexed,found,if_neg valued]
    rw [ih done]
    rfl
  | case8 => cases done

theorem reading_word (unfinished : (reading flags words).ending ≠ .complete) (last : String) :
    (reading flags (words ++ [last])).settings = (reading flags words).settings ∨
      ∃ other, lookup flags other.name = some other ∧ ¬ other.isBoolFlag ∧
        (reading flags (words ++ [last])).settings = (reading flags words).settings ++ [⟨other,some last⟩] := by
  have grown : ∀ {rest more : Reading σ} (setting : Setting σ),
      (more.settings = rest.settings ∨ ∃ other, lookup flags other.name = some other ∧ ¬ other.isBoolFlag ∧
        more.settings = rest.settings ++ [⟨other,some last⟩]) →
      ((more.after setting).settings = (rest.after setting).settings ∨ ∃ other, lookup flags other.name = some other ∧
        ¬ other.isBoolFlag ∧ (more.after setting).settings = (rest.after setting).settings ++ [⟨other,some last⟩]) := by
    rintro rest more setting (same | ⟨other,found,valued,more_settings⟩)
    · exact .inl (congrArg (setting :: ·) same)
    · exact .inr ⟨other,found,valued,congrArg (setting :: ·) more_settings⟩
  fun_induction reading flags words with
  | case1 => exact absurd rfl unfinished
  | case2 word arguments lexed =>
    refine .inl ?_
    simp only [List.cons_append,reading,lexed]
  | case3 word arguments lexed =>
    refine .inl ?_
    simp only [List.cons_append,reading,lexed]
  | case4 word arguments name value lexed missing =>
    refine .inl ?_
    simp only [List.cons_append,reading,lexed,missing]
  | case5 word arguments name value lexed flag found boolean ih =>
    simp only [List.cons_append,reading,lexed,found,if_pos boolean]
    exact grown _ (ih unfinished)
  | case6 word name flag found valued value arguments lexed ih =>
    simp only [List.cons_append,reading,lexed,found,if_neg valued]
    exact grown _ (ih unfinished)
  | case7 word name flag found valued value arguments lexed ih =>
    simp only [List.cons_append,reading,lexed,found,if_neg valued]
    exact grown _ (ih unfinished)
  | case8 word name flag found valued lexed =>
    simp only [List.cons_append,List.nil_append,reading,lexed,found,if_neg valued]
    refine .inr ⟨flag,?_,valued,rfl⟩
    rw [(lookup_name found).2]
    exact found

theorem said_append (front back : List (Setting σ)) : said own (front ++ back) = (said own back).or (said own front) := by
  induction front with
  | nil => simp [said]
  | cons setting front ih => rw [List.cons_append,said,ih,said,Option.or_assoc]

theorem apply_shows (shows : Shows flags own view) {settings : List (Setting σ)} (listed : ∀ setting ∈ settings, setting.flag ∈ flags)
    (applied : apply settings s = .ok s') : view s' = (said own settings).getD (view s) := by
  induction settings generalizing s with
  | nil =>
    cases applied
    rfl
  | cons setting rest ih =>
    rw [apply] at applied
    cases assigned : setting.flag.assign setting.value s with
    | error failure =>
      rw [assigned] at applied
      cases applied
    | ok middle =>
      rw [assigned] at applied
      have later := ih (fun setting member => listed setting (List.mem_cons_of_mem _ member)) applied
      have member := listed setting List.mem_cons_self
      rw [later,said]
      split
      · rename_i same
        rw [shows.own_value setting.flag member same _ _ _ (assign_ok assigned)]
        cases said own rest <;> rfl
      · rename_i other
        rw [shows.other_kept setting.flag member other _ _ _ (assign_ok assigned),Option.or_none]

-- A Boolean flag put behind the words is read when they are complete; else what they say
-- of it stays.
theorem flag_behind (shows : Shows flags own view) {last : String} (lexed : lex last = .flag own none)
    (found : lookup flags own = some flag) (boolean : flag.isBoolFlag) (parsed : parse flags (words ++ [last]) s = .ok s') :
    view s' = true ↔ (reading flags words).ending = .complete ∨ (said own (reading flags words).settings).getD (view s) = true := by
  have shown := apply_shows shows (settings_listed (words ++ [last])) (parsed_settings parsed)
  by_cases done : (reading flags words).ending = .complete
  · have single : reading flags [last] = ⟨[⟨flag,none⟩],.complete⟩ := by
      simp only [reading,lexed,found,if_pos boolean]
      rfl
    have told : said own [(⟨flag,none⟩ : Setting σ)] = some true := by
      rw [said,if_pos (lookup_name found).2]
      rfl
    rw [reading_append done,single,said_append,told] at shown
    exact ⟨fun _ => .inl done,fun _ => shown⟩
  · have kept : said own (reading flags (words ++ [last])).settings = said own (reading flags words).settings := by
      rcases reading_word done last with same | ⟨other,here,valued,same⟩
      · rw [same]
      · have apart : other.name ≠ own := by
          intro taken
          rw [taken,found] at here
          cases here
          exact valued boolean
        rw [same,said_append,said,if_neg apart]
        rfl
    rw [shown,kept]
    exact ⟨.inr,fun either => either.resolve_left done⟩

structure Aside (flags : List (Flag σ)) (own : String) (words : List String) : Prop where
  complete : (reading flags words).ending = .complete
  untouched : said own (reading flags words).settings = none

theorem Aside.append {more : List String} (front : Aside flags own words) (back : Aside flags own more) :
    Aside flags own (words ++ more) where
  complete := by rw [reading_append front.complete,back.complete]
  untouched := by rw [reading_append front.complete,said_append,front.untouched,back.untouched,Option.or_none]

theorem aside_none : Aside flags own [] := ⟨rfl,rfl⟩

theorem aside_flatten {groups : List (List String)} (aside : ∀ words ∈ groups, Aside flags own words) :
    Aside flags own groups.flatten := by
  induction groups with
  | nil => exact aside_none
  | cons words groups ih =>
    exact (aside words List.mem_cons_self).append (ih fun words member => aside words (List.mem_cons_of_mem _ member))

def kind (flags : List (Flag σ)) (name : String) : Option Bool := (lookup flags name).map Flag.isBoolFlag

theorem aside_value {word name : String} (lexed : lex word = .flag name none) (valued : kind flags name = some false)
    (other : name ≠ own) (value : String) : Aside flags own [word,value] := by
  obtain ⟨flag,found,needs⟩ := Option.map_eq_some_iff.mp valued
  have single : reading flags [word,value] = ⟨[⟨flag,some value⟩],.complete⟩ := by
    simp only [reading,lexed,found,needs,Bool.false_eq_true,if_false]
    rfl
  refine ⟨?_,?_⟩
  · rw [single]
  · rw [single,said,(lookup_name found).2,if_neg other]
    rfl

theorem aside_boolean {word name : String} {value : Option String} (lexed : lex word = .flag name value)
    (boolean : kind flags name = some true) (other : name ≠ own) : Aside flags own [word] := by
  obtain ⟨flag,found,alone⟩ := Option.map_eq_some_iff.mp boolean
  have single : reading flags [word] = ⟨[⟨flag,value⟩],.complete⟩ := by
    simp only [reading,lexed,found,if_pos alone]
    rfl
  refine ⟨?_,?_⟩
  · rw [single]
  · rw [single,said,(lookup_name found).2,if_neg other]
    rfl

theorem Aside.before (front : Aside flags own words) (more : List String) :
    (reading flags (words ++ more)).ending = (reading flags more).ending ∧
      said own (reading flags (words ++ more)).settings = said own (reading flags more).settings := by
  rw [reading_append front.complete]
  exact ⟨rfl,by rw [said_append,front.untouched,Option.or_none]⟩

end Reads

section Kept
variable {σ α : Type} {view : σ → Bool} {name : String}

@[simp] theorem stringVar_name (store : String → σ → σ) : (stringVar name store).name = name := rfl

@[simp] theorem boolVar_name (store : Bool → σ → σ) : (boolVar name store).name = name := rfl

@[simp] theorem parsedVar_name (parse : String → Except String α) (store : α → σ → σ) : (parsedVar parse name store).name = name := rfl

@[simp] theorem stringVar_keeps {store : String → σ → σ} (kept : ∀ value s, view (store value s) = view s) :
    (stringVar name store).Keeps view := by
  intro value s s' written
  cases written
  exact kept value s

@[simp] theorem boolVar_keeps {store : Bool → σ → σ} (kept : ∀ value s, view (store value s) = view s) :
    (boolVar name store).Keeps view := by
  intro value s s' written
  simp only [boolVar] at written
  split at written
  · cases written
    exact kept _ s
  · cases written

@[simp] theorem parsedVar_keeps {parse : String → Except String α} {store : α → σ → σ}
    (kept : ∀ value s, view (store value s) = view s) : (parsedVar parse name store).Keeps view := by
  intro value s s' written
  simp only [parsedVar] at written
  cases parsed : parse value with
  | error err =>
    rw [parsed] at written
    cases written
  | ok value =>
    rw [parsed] at written
    cases written
    exact kept value s

theorem boolVar_shows (view : σ → Bool) {store : Bool → σ → σ} (stored : ∀ value s, view (store value s) = value)
    {value : String} {s s' : σ} (written : (boolVar name store).set value s = .ok s') : parseBool value = some (view s') := by
  simp only [boolVar] at written
  split at written
  · rename_i flag parsed
    cases written
    rw [parsed,stored]
  · cases written

end Kept

end Aipr.FlagPackage
