import Mathlib.Data.Prod.Lex
import Aipr.CsvText
import Aipr.LabelReport
import Aipr.TelemetryLog

namespace Aipr.DatasetBuild
open CsvText LabelReport
open Syncer (isSpace trimSpace)

def derivedFields : List String :=
  ["experiment_type","split","is_baseline_experiment","traffic_probe_total","traffic_probe_success","traffic_probe_success_rate",
    "event_count","source_artifact_dir"]

def indexFields : List String :=
  ["experiment_id","scenario","primary_label","included","status","reason","node_count","node_names","event_count",
    "traffic_probe_total","traffic_probe_success","traffic_probe_success_rate","artifact_dir","agent_log_count"]

-- The directory of an experiment; none is a file that does not exist. Of meta.json it
-- is the scenario, and `telemetry` are the csv files of that directory.
structure Artifacts where
  scenario : Option String
  events : Option (List Event)
  traffic : Option (List Char)
  telemetry : Option (List (String × List Char))
  agentLogs : Nat

structure TrafficStats where
  total : Nat
  success : Nat
deriving DecidableEq, Repr

def loadTrafficStats (text : List Char) : Except String TrafficStats := do
  let rows ← readDicts fieldLimit text
  return ⟨rows.length,rows.countP fun row => row.get? "ok".toList = some (some ['1'])⟩

-- The zeros of the decimal digits, which come in runs of ten (Unicode 14).
def decimalZeros : List Nat :=
  [0x30,0x660,0x6f0,0x7c0,0x966,0x9e6,0xa66,0xae6,0xb66,0xbe6,0xc66,0xce6,0xd66,0xde6,0xe50,0xed0,0xf20,0x1040,0x1090,
   0x17e0,0x1810,0x1946,0x19d0,0x1a80,0x1a90,0x1b50,0x1bb0,0x1c40,0x1c50,0xa620,0xa8d0,0xa900,0xa9d0,0xa9f0,0xaa50,0xabf0,
   0xff10,0x104a0,0x10d30,0x11066,0x110f0,0x11136,0x111d0,0x112f0,0x11450,0x114d0,0x11650,0x116c0,0x11730,0x118e0,0x11950,
   0x11c50,0x11d50,0x11da0,0x16a60,0x16ac0,0x16b50,0x1d7ce,0x1d7d8,0x1d7e2,0x1d7ec,0x1d7f6,0x1e140,0x1e2f0,0x1e950,0x1fbf0]

-- int of a text: a digit of any script counts, underscores may stand between digits.
def toAscii (c : Char) : Char :=
  match decimalZeros.find? fun first => first ≤ c.toNat ∧ c.toNat ≤ first + 9 with
  | some first => Char.ofNat (0x30 + (c.toNat - first))
  | none => c

def digitsOf : Bool → List Char → Option (List Char)
  | after,[] => if after then some [] else none
  | after,c :: rest =>
    if c.isDigit then (digitsOf true rest).map (c :: ·)
    else if c = '_' ∧ after then digitsOf false rest
    else none

-- sys.get_int_max_str_digits() as it is set from the start.
def maxStrDigits : Nat := 4300

def number (digits : List Char) : Option Int :=
  if digits.length ≤ maxStrDigits then some (Nat.ofDigitChars 10 digits 0 : Int) else none

-- int strips what unicode.IsSpace knows as space.
def parseInt (field : Field) : Option Int :=
  match (trimSpace field).map toAscii with
  | '-' :: rest => ((digitsOf false rest).bind number).map fun value => -value
  | '+' :: rest => (digitsOf false rest).bind number
  | rest => (digitsOf false rest).bind number

def stableInt (value : Option Field) : Int := (value.bind parseInt).getD 0

section Build
variable (formatRate : Nat → Nat → String) (artifactDir : String → String)

def TrafficStats.rate (stats : TrafficStats) : String :=
  if stats.total = 0 then "0.000000" else formatRate stats.success stats.total

def missing (a : Artifacts) : List String :=
  (if a.scenario.isSome then [] else ["meta.json"]) ++ (if a.events.isSome then [] else ["events.jsonl"]) ++
    (if a.traffic.isSome then [] else ["traffic.csv"]) ++ if a.telemetry.isSome then [] else ["telemetry"]

def experiment (excluded : List String) (id : String) (a : Artifacts) : Experiment :=
  ⟨id,a.scenario.getD "",a.events.getD [],id ∈ excluded,missing a⟩

def nodeFiles (a : Artifacts) : List (String × List Char) := (a.telemetry.getD []).insertionSort fun x y => x.1 ≤ y.1

def stem (name : String) : String := if name = ".csv" then name else (name.dropEnd 4).toString

def trafficStats (a : Artifacts) : Except String TrafficStats :=
  match a.traffic with
  | none => .ok ⟨0,0⟩
  | some text => loadTrafficStats text

def indexRecord (e : Experiment) (a : Artifacts) (stats : TrafficStats) : Record :=
  let row := indexRow e
  [row.experimentId,row.scenario,row.primaryLabel,row.included,row.status,row.reason,toString (nodeFiles a).length,
    ",".intercalate ((nodeFiles a).map fun file => stem file.1),toString e.events.length,toString stats.total,
    toString stats.success,stats.rate formatRate,artifactDir e.id,toString a.agentLogs].map String.toList

def derived (e : Experiment) (stats : TrafficStats) : List (String × String) :=
  [("experiment_type",e.scenario),("split",""),("is_baseline_experiment",if e.scenario = "normal_steady_state" then "1" else "0"),
    ("traffic_probe_total",toString stats.total),("traffic_probe_success",toString stats.success),
    ("traffic_probe_success_rate",stats.rate formatRate),("event_count",toString e.events.length),
    ("source_artifact_dir",artifactDir e.id)]

def setAll (pairs : List (String × String)) (d : Dict) : Dict :=
  {d with cells := pairs.foldl (fun cells pair => assign cells pair.1.toList (some pair.2.toList)) d.cells}

structure Windows where
  canonicalHeader : Record
  rows : List Dict

def readNode (pairs : List (String × String)) (w : Windows) (file : String × List Char) : Except String Windows :=
  match read fieldLimit file.2 with
  | ([],some err) => .error err
  | (records,err) =>
    let header := records.headD []
    if w.canonicalHeader ≠ [] ∧ header ≠ w.canonicalHeader then .error s!"schema mismatch in {file.1}"
    else
      match err with
      | some err => .error err
      | none => .ok ⟨if w.canonicalHeader = [] then header else w.canonicalHeader,w.rows ++ (dicts records).map (setAll pairs)⟩

structure Loaded where
  index : List Record
  windows : Windows

def readExperiment (excluded : List String) (artifacts : String → Artifacts) (l : Loaded) (id : String) : Except String Loaded := do
  let e := experiment excluded id (artifacts id)
  let stats ← trafficStats (artifacts id)
  let index := l.index ++ [indexRecord formatRate artifactDir e (artifacts id) stats]
  if e.status.1 ≠ "included" then return ⟨index,l.windows⟩
  else do
    let windows ← (nodeFiles (artifacts id)).foldlM (readNode (derived formatRate artifactDir e stats)) l.windows
    return ⟨index,windows⟩

-- The key the rows are sorted by; None does not compare with a text.
def idCell (d : Dict) : Option Field := (d.get? "experiment_id".toList).getD (some [])

def nodeCell (d : Dict) : Option Field := (d.get? "node_name".toList).getD (some [])

def startOf (d : Dict) : Int := stableInt ((d.get? "window_start_unix_ms".toList).getD (some ['0']))

def sortKey (d : Dict) : String ×ₗ String ×ₗ Int :=
  toLex (String.ofList ((idCell d).getD []),toLex (String.ofList ((nodeCell d).getD []),startOf d))

def Comparable (rows : List Dict) : Prop :=
  ∀ a ∈ rows, ∀ b ∈ rows, (idCell a).isSome = (idCell b).isSome ∧ (idCell a = idCell b → (nodeCell a).isSome = (nodeCell b).isSome)

instance (rows : List Dict) : Decidable (Comparable rows) :=
  inferInstanceAs (Decidable (∀ a ∈ rows, ∀ b ∈ rows,
    (idCell a).isSome = (idCell b).isSome ∧ (idCell a = idCell b → (nodeCell a).isSome = (nodeCell b).isSome)))

def sortRows (rows : List Dict) : List Dict := rows.insertionSort fun a b => sortKey a ≤ sortKey b

def sortIndex (index : List Record) : List Record :=
  index.insertionSort fun a b => String.ofList (a.headD []) ≤ String.ofList (b.headD [])

structure Built where
  rawIndex : List Char
  windowsAll : Except String (List Char)

def buildDataset (includes excluded : List String) (artifacts : String → Artifacts) : Except String Built := do
  let loaded ← (keysOf includes).foldlM (readExperiment formatRate artifactDir excluded artifacts) ⟨[],⟨[],[]⟩⟩
  if Comparable loaded.windows.rows then
    return ⟨writeRecords excel (indexFields.map String.toList :: sortIndex loaded.index),
      if loaded.windows.canonicalHeader = [] then .error "no included telemetry rows found"
      else writeDicts excel (loaded.windows.canonicalHeader ++ derivedFields.map String.toList) (sortRows loaded.windows.rows)⟩
  else .error "'<' not supported between instances of 'NoneType' and 'str'"

end Build

section Numbers
variable {c : Char} {digits : List Char} {field : Field}

theorem digitsOf_digits (each : ∀ c ∈ digits, c.isDigit) : digitsOf true digits = some digits := by
  induction digits with
  | nil => rfl
  | cons c later ih =>
    rw [digitsOf,if_pos (each c List.mem_cons_self),ih fun c member => each c (List.mem_cons_of_mem _ member)]
    rfl

theorem digitsOf_number (each : ∀ c ∈ digits, c.isDigit) (filled : digits ≠ []) : digitsOf false digits = some digits := by
  cases digits with
  | nil => exact absurd rfl filled
  | cons c later =>
    rw [digitsOf,if_pos (each c List.mem_cons_self),digitsOf_digits fun c member => each c (List.mem_cons_of_mem _ member)]
    rfl

theorem digit_range (digit : c.isDigit) : 48 ≤ c.toNat ∧ c.toNat ≤ 57 := by
  simpa [Char.isDigit,UInt32.le_iff_toNat_le] using digit

theorem digit_visible (digit : c.isDigit) : isSpace c = false := by
  have low := digit_range digit
  rw [isSpace,Bool.or_eq_false_iff]
  constructor
  · refine decide_eq_false fun member => ?_
    simp only [List.mem_cons,List.not_mem_nil,or_false] at member
    rcases member with rfl | rfl | rfl | rfl | rfl | rfl | rfl | rfl | rfl | rfl | rfl | rfl | rfl | rfl <;> revert low <;> decide
  · refine Bool.and_eq_false_imp.mpr fun high => ?_
    have far : 0x2000 ≤ c.toNat := UInt32.le_iff_toNat_le.mp (of_decide_eq_true high)
    omega

theorem trim_visible (each : ∀ c ∈ field, isSpace c = false) : trimSpace field = field := by
  have kept : ∀ l : List Char, (∀ c ∈ l, isSpace c = false) → l.dropWhile isSpace = l := by
    intro l visible
    cases l with
    | nil => rfl
    | cons c later => rw [List.dropWhile_cons,if_neg (by simp [visible c])]
  rw [trimSpace,kept field each,kept field.reverse fun c member => each c (List.mem_reverse.mp member),List.reverse_reverse]

theorem digit_ascii (digit : c.isDigit) : toAscii c = c := by
  obtain ⟨low,high⟩ := digit_range digit
  have found : decimalZeros.find? (fun first => first ≤ c.toNat ∧ c.toNat ≤ first + 9) = some 0x30 := by
    unfold decimalZeros
    rw [List.find?_cons_of_pos]
    simp
    omega
  rw [toAscii,found]
  dsimp only
  rw [Nat.add_sub_cancel' low,Char.ofNat_toNat]

theorem digits_ascii (each : ∀ c ∈ digits, c.isDigit) : digits.map toAscii = digits :=
  (List.map_congr_left fun c member => digit_ascii (each c member)).trans (List.map_id digits)

theorem parseInt_format (value : Int) (low : value.natAbs < 10 ^ 20) : parseInt (toString value).toList = some value := by
  have digits : ∀ n : Nat, ∀ c ∈ Nat.toDigits 10 n, c.isDigit := fun n c member =>
    Nat.isDigit_of_mem_toDigits (by decide) (by decide) member
  have parsed : ∀ n : Nat, n < 10 ^ 20 → (digitsOf false (Nat.toDigits 10 n)).bind number = some (n : Int) := by
    intro n low
    have short : (Nat.toDigits 10 n).length ≤ maxStrDigits :=
      Nat.le_trans ((Nat.length_toDigits_le_iff (by decide) (by decide)).mpr low) (by decide)
    rw [digitsOf_number (digits n) Nat.toDigits_ne_nil,Option.bind_some,number,if_pos short,Nat.ofDigitChars_ten_toDigits]
  cases value with
  | ofNat n =>
    have text : (toString (Int.ofNat n)).toList = Nat.toDigits 10 n := Nat.toList_repr
    have visible := trim_visible fun c member => digit_visible (digits n c member)
    rw [text,parseInt,visible,digits_ascii (digits n)]
    split
    · rename_i same
      exact absurd (digits n '-' (same ▸ List.mem_cons_self)) (by decide)
    · rename_i same
      exact absurd (digits n '+' (same ▸ List.mem_cons_self)) (by decide)
    · exact parsed n low
  | negSucc n =>
    have text : (toString (Int.negSucc n)).toList = '-' :: Nat.toDigits 10 (n+1) := by
      rw [← Nat.toList_repr]
      simp [toString,Int.repr]
    have visible : trimSpace ('-' :: Nat.toDigits 10 (n+1)) = '-' :: Nat.toDigits 10 (n+1) := by
      refine trim_visible fun c member => ?_
      rcases List.mem_cons.mp member with rfl | digit
      · decide
      · exact digit_visible (digits _ c digit)
    have sign : toAscii '-' = '-' := by decide
    rw [text,parseInt,visible,List.map_cons,sign,digits_ascii (digits _)]
    exact congrArg (Option.map fun value : Int => -value) (parsed (n+1) low)

theorem stableInt_int64 (value : Int64) : stableInt (some (toString value.toInt).toList) = value.toInt := by
  have high := value.toInt_lt
  have low := value.le_toInt
  rw [stableInt,Option.bind_some,parseInt_format _ (by omega)]
  rfl

end Numbers

section Fold
variable {σ α β : Type} {f : σ → α → Except String σ} {l : List α} {s s' : σ}

theorem foldlM_cons_ok {x : α} {later : List α} (done : (x :: later).foldlM f s = .ok s') :
    ∃ next, f s x = .ok next ∧ later.foldlM f next = .ok s' := by
  rw [List.foldlM_cons] at done
  cases here : f s x with
  | error err =>
    rw [here] at done
    cases done
  | ok next =>
    rw [here] at done
    exact ⟨next,rfl,done⟩

theorem foldlM_kept {I : σ → Prop} (step : ∀ x ∈ l, ∀ s s', I s → f s x = .ok s' → I s') (start : I s)
    (done : l.foldlM f s = .ok s') : I s' := by
  induction l generalizing s with
  | nil =>
    cases done
    exact start
  | cons x later ih =>
    obtain ⟨next,first,rest⟩ := foldlM_cons_ok done
    exact ih (fun y member => step y (List.mem_cons_of_mem _ member)) (step x List.mem_cons_self s next start first) rest

theorem foldlM_gathered (out : σ → List β) {g : α → List β} (step : ∀ x ∈ l, ∀ s s', f s x = .ok s' → out s' = out s ++ g x)
    (done : l.foldlM f s = .ok s') : out s' = out s ++ l.flatMap g := by
  induction l generalizing s with
  | nil =>
    cases done
    exact (List.append_nil _).symm
  | cons x later ih =>
    obtain ⟨next,first,rest⟩ := foldlM_cons_ok done
    rw [ih (fun y member => step y (List.mem_cons_of_mem _ member)) rest,step x List.mem_cons_self s next first,
      List.flatMap_cons,List.append_assoc]

theorem foldlM_ok {I : σ → Prop} (step : ∀ x ∈ l, ∀ s, I s → ∃ s', f s x = .ok s' ∧ I s') (start : I s) :
    ∃ s', l.foldlM f s = .ok s' ∧ I s' := by
  induction l generalizing s with
  | nil => exact ⟨s,rfl,start⟩
  | cons x later ih =>
    obtain ⟨next,first,kept⟩ := step x List.mem_cons_self s start
    obtain ⟨s',rest,kept⟩ := ih (fun y member => step y (List.mem_cons_of_mem _ member)) kept
    refine ⟨s',?_,kept⟩
    rw [List.foldlM_cons,first]
    exact rest

end Fold

def rowsOf (file : String × List Char) : List Dict := (readDicts fieldLimit file.2).toOption.getD []

def statsOf (a : Artifacts) : TrafficStats := (trafficStats a).toOption.getD ⟨0,0⟩

section Rows
variable (formatRate : Nat → Nat → String) (artifactDir : String → String) (excluded : List String)
  (artifacts : String → Artifacts)

def derivedOf (id : String) : List (String × String) :=
  derived formatRate artifactDir (experiment excluded id (artifacts id)) (statsOf (artifacts id))

def experimentRows (id : String) : List Dict :=
  if (experiment excluded id (artifacts id)).isIncluded then
    (nodeFiles (artifacts id)).flatMap fun file => (rowsOf file).map (setAll (derivedOf formatRate artifactDir excluded artifacts id))
  else []

end Rows

section Run
variable {formatRate : Nat → Nat → String} {artifactDir : String → String} {includes excluded : List String}
  {artifacts : String → Artifacts} {id : String} {pairs : List (String × String)} {w w' : Windows} {l l' : Loaded}

def HeaderShort (w : Windows) : Prop := ∀ field ∈ w.canonicalHeader, field.length ≤ fieldLimit

theorem readNode_rows {file : String × List Char} (done : readNode pairs w file = .ok w') :
    w'.rows = w.rows ++ (rowsOf file).map (setAll pairs) ∧ (HeaderShort w → HeaderShort w') := by
  have short : ∀ r ∈ (read fieldLimit file.2).1, ∀ field ∈ r, field.length ≤ fieldLimit :=
    read_short ⟨Nat.zero_le _,fun _ none => absurd none List.not_mem_nil⟩ file.2
  unfold readNode at done
  split at done
  · cases done
  · rename_i records err _ found
    dsimp only at done
    split at done
    · cases done
    · cases err with
      | some err => cases done
      | none =>
        cases done
        rw [found] at short
        refine ⟨?_,fun kept field member => ?_⟩
        · rw [rowsOf,readDicts]
          simp only [found]
          rfl
        · dsimp only at member
          split at member
          · cases records with
            | nil => cases member
            | cons header later => exact short header List.mem_cons_self field member
          · exact kept field member

theorem included_iff {e : Experiment} : e.status.1 = "included" ↔ e.isIncluded := by
  unfold Experiment.status Experiment.isIncluded
  cases e.explicitlyExcluded with
  | true => simp
  | false =>
    cases e.missing with
    | nil => simp
    | cons name rest => simp

theorem readExperiment_rows (done : readExperiment formatRate artifactDir excluded artifacts l id = .ok l') :
    l'.windows.rows = l.windows.rows ++ experimentRows formatRate artifactDir excluded artifacts id ∧
      (HeaderShort l.windows → HeaderShort l'.windows) ∧
      l'.index = l.index ++ [indexRecord formatRate artifactDir (experiment excluded id (artifacts id)) (artifacts id)
        (statsOf (artifacts id))] := by
  unfold readExperiment at done
  cases loaded : trafficStats (artifacts id) with
  | error err =>
    rw [loaded] at done
    cases done
  | ok stats =>
    have own : statsOf (artifacts id) = stats := by
      rw [statsOf,loaded]
      rfl
    rw [loaded] at done
    dsimp only [bind,Except.bind] at done
    rw [experimentRows,derivedOf,own]
    by_cases included : (experiment excluded id (artifacts id)).isIncluded
    · rw [if_neg (not_not.mpr (included_iff.mpr included))] at done
      rw [if_pos included]
      cases files : (nodeFiles (artifacts id)).foldlM
          (readNode (derived formatRate artifactDir (experiment excluded id (artifacts id)) stats)) l.windows with
      | error err =>
        rw [files] at done
        cases done
      | ok windows =>
        rw [files] at done
        cases done
        refine ⟨foldlM_gathered Windows.rows (fun file _ w w' step => (readNode_rows step).1) files,fun kept => ?_,rfl⟩
        exact foldlM_kept (fun file _ w w' kept step => (readNode_rows step).2 kept) kept files
    · rw [if_pos (fun status => included (included_iff.mp status))] at done
      cases done
      rw [if_neg included,List.append_nil]
      exact ⟨rfl,fun kept => kept,rfl⟩

theorem text_setAll (pairs : List (String × String)) (d : Dict) (key : Field) :
    (setAll pairs d).text key = d.text key ∨ ∃ pair ∈ pairs, key = pair.1.toList ∧ (setAll pairs d).text key = pair.2.toList := by
  unfold setAll
  induction pairs generalizing d with
  | nil => exact .inl rfl
  | cons pair later ih =>
    rcases ih {d with cells := assign d.cells pair.1.toList (some pair.2.toList)} with same | ⟨last,member,here,value⟩
    · by_cases here : key = pair.1.toList
      · refine .inr ⟨pair,List.mem_cons_self,here,?_⟩
        rw [List.foldl_cons]
        refine same.trans ?_
        rw [text_assign,here,Function.update_self]
        rfl
      · refine .inl ?_
        rw [List.foldl_cons]
        refine same.trans ?_
        rw [text_assign,Function.update_of_ne here]
    · exact .inr ⟨last,List.mem_cons_of_mem _ member,here,value⟩

def DerivedShort (formatRate : Nat → Nat → String) (artifactDir : String → String) (excluded : List String)
    (artifacts : String → Artifacts) (id : String) : Prop :=
  ∀ pair ∈ derivedOf formatRate artifactDir excluded artifacts id, pair.2.toList.length ≤ fieldLimit

theorem rowsOf_short {file : String × List Char} {d : Dict} (member : d ∈ rowsOf file) (key : Field) :
    (d.text key).length ≤ fieldLimit := by
  unfold rowsOf at member
  cases read : readDicts fieldLimit file.2 with
  | error err =>
    rw [read] at member
    cases member
  | ok rows =>
    obtain ⟨_,_,_,short⟩ := readDicts_uniform read
    rw [read] at member
    exact short d member key

theorem experimentRows_short (short : DerivedShort formatRate artifactDir excluded artifacts id) {d : Dict}
    (member : d ∈ experimentRows formatRate artifactDir excluded artifacts id) (key : Field) :
    (d.text key).length ≤ fieldLimit := by
  unfold experimentRows at member
  split at member
  · obtain ⟨file,_,inside⟩ := List.mem_flatMap.mp member
    obtain ⟨origin,read,rfl⟩ := List.mem_map.mp inside
    rcases text_setAll (derivedOf formatRate artifactDir excluded artifacts id) origin key with same | ⟨pair,listed,_,value⟩
    · rw [same]
      exact rowsOf_short read key
    · rw [value]
      exact short pair listed
  · cases member

def allRows (formatRate : Nat → Nat → String) (artifactDir : String → String) (includes excluded : List String)
    (artifacts : String → Artifacts) : List Dict :=
  (keysOf includes).flatMap (experimentRows formatRate artifactDir excluded artifacts)

def allRecords (formatRate : Nat → Nat → String) (artifactDir : String → String) (includes excluded : List String)
    (artifacts : String → Artifacts) : List Record :=
  (keysOf includes).map fun id =>
    indexRecord formatRate artifactDir (experiment excluded id (artifacts id)) (artifacts id) (statsOf (artifacts id))

theorem loaded_rows (done : (keysOf includes).foldlM (readExperiment formatRate artifactDir excluded artifacts) ⟨[],⟨[],[]⟩⟩ = .ok l) :
    l.windows.rows = allRows formatRate artifactDir includes excluded artifacts ∧ HeaderShort l.windows ∧
      l.index = allRecords formatRate artifactDir includes excluded artifacts := by
  refine ⟨?_,?_,?_⟩
  · exact foldlM_gathered (fun l => l.windows.rows) (fun id _ l l' step => (readExperiment_rows step).1) done
  · exact foldlM_kept (I := fun l => HeaderShort l.windows) (fun id _ l l' kept step => (readExperiment_rows step).2.1 kept)
      (fun _ none => absurd none List.not_mem_nil) done
  · refine (foldlM_gathered Loaded.index (fun id _ l l' step => (readExperiment_rows step).2.2) done).trans ?_
    rw [List.nil_append,allRecords]
    exact List.map_eq_flatMap.symm

theorem build_parts {b : Built} (built : buildDataset formatRate artifactDir includes excluded artifacts = .ok b) :
    ∃ header : Record, (∀ field ∈ header, field.length ≤ fieldLimit) ∧
      b.rawIndex = writeRecords excel (indexFields.map String.toList ::
        sortIndex (allRecords formatRate artifactDir includes excluded artifacts)) ∧
      b.windowsAll = (if header = [] then .error "no included telemetry rows found"
        else writeDicts excel (header ++ derivedFields.map String.toList)
          (sortRows (allRows formatRate artifactDir includes excluded artifacts))) := by
  unfold buildDataset at built
  cases loaded : (keysOf includes).foldlM (readExperiment formatRate artifactDir excluded artifacts) ⟨[],⟨[],[]⟩⟩ with
  | error err =>
    rw [loaded] at built
    cases built
  | ok l =>
    obtain ⟨rows,short,index⟩ := loaded_rows loaded
    rw [loaded] at built
    dsimp only [bind,Except.bind] at built
    split at built
    · cases built
      rw [rows,index]
      exact ⟨l.windows.canonicalHeader,short,rfl,rfl⟩
    · cases built

theorem records_written {header : Record} {ds : List Dict} {text : List Char} (done : writeDicts excel header ds = .ok text) :
    text = writeRecords excel (header :: ds.map fun d => header.map d.text) ∧ ∀ d ∈ ds, ∀ key ∈ d.keys, key ∈ header := by
  have each : ∀ (ds : List Dict) (records : List Record), ds.mapM (dictRecord header) = .ok records →
      records = (ds.map fun d => header.map d.text) ∧ ∀ d ∈ ds, ∀ key ∈ d.keys, key ∈ header := by
    intro ds
    induction ds with
    | nil =>
      intro records done
      cases done
      exact ⟨rfl,fun _ none => absurd none List.not_mem_nil⟩
    | cons d later ih =>
      intro records done
      rw [List.mapM_cons] at done
      by_cases fits : (∀ cell ∈ d.cells, cell.1 ∈ header) ∧ d.rest = none
      · rw [dictRecord,if_pos fits] at done
        cases rest : later.mapM (dictRecord header) with
        | error err =>
          rw [rest] at done
          cases done
        | ok rs =>
          rw [rest] at done
          cases done
          obtain ⟨same,inside⟩ := ih rs rest
          refine ⟨congrArg _ same,fun x member key present => ?_⟩
          rcases List.mem_cons.mp member with rfl | member
          · obtain ⟨cell,listed,rfl⟩ := List.mem_map.mp present
            exact fits.1 cell listed
          · exact inside x member key present
      · rw [dictRecord,if_neg fits] at done
        cases done
  unfold writeDicts at done
  cases records : ds.mapM (dictRecord header) with
  | error err =>
    rw [records] at done
    cases done
  | ok rs =>
    rw [records] at done
    cases done
    obtain ⟨same,inside⟩ := each ds rs records
    rw [same]
    exact ⟨rfl,inside⟩

theorem read_dicts_written {header : Record} {ds : List Dict} {text : List Char} (long : 1 < header.length)
    (names : ∀ field ∈ header, field.length ≤ fieldLimit) (small : ∀ d ∈ ds, ∀ key, (d.text key).length ≤ fieldLimit)
    (done : writeDicts excel header ds = .ok text) :
    ∃ rows, readDicts fieldLimit text = .ok rows ∧ rows.map Dict.text = ds.map Dict.text := by
  obtain ⟨rfl,inside⟩ := records_written done
  have writable : ∀ r ∈ header :: ds.map (fun d => header.map d.text), CsvText.Writable excel fieldLimit r := by
    intro r member
    have width : r.length = header.length := by
      rcases List.mem_cons.mp member with rfl | row
      · rfl
      · obtain ⟨d,_,rfl⟩ := List.mem_map.mp row
        exact List.length_map ..
    refine ⟨?_,fun _ => rfl,?_⟩
    · rintro rfl
      rw [← width] at long
      exact absurd long (by decide)
    · intro field present
      rcases List.mem_cons.mp member with rfl | row
      · exact names field present
      · obtain ⟨d,listed,rfl⟩ := List.mem_map.mp row
        obtain ⟨key,_,rfl⟩ := List.mem_map.mp present
        exact small d listed key
  have filled : (ds.map fun d => header.map d.text).filter (fun row => row ≠ []) = ds.map fun d => header.map d.text := by
    refine List.filter_eq_self.mpr fun row member => decide_eq_true ?_
    obtain ⟨d,_,rfl⟩ := List.mem_map.mp member
    rintro none
    rw [List.map_eq_nil_iff] at none
    rw [none] at long
    exact absurd long (by decide)
  refine ⟨_,by rw [readDicts,read_written excel writable],?_⟩
  rw [dicts,filled,List.map_map,List.map_map]
  refine List.map_congr_left fun d member => funext fun key => ?_
  refine (text_dictOf d.text).trans ?_
  split
  · rfl
  · rename_i absent
    exact (text_absent fun present => absent (inside d member key present)).symm

-- The table holds the rows of the included experiments' files, each with the columns
-- of its experiment, in the order of their keys.
theorem windows_rows {b : Built} {text : List Char} (built : buildDataset formatRate artifactDir includes excluded artifacts = .ok b)
    (written : b.windowsAll = .ok text)
    (short : ∀ id ∈ includes, DerivedShort formatRate artifactDir excluded artifacts id) :
    ∃ rows ordered : List Dict, readDicts fieldLimit text = .ok rows ∧ rows.map Dict.text = ordered.map Dict.text ∧
      ordered.Perm (allRows formatRate artifactDir includes excluded artifacts) ∧
      ordered.Pairwise fun a b => sortKey a ≤ sortKey b := by
  obtain ⟨header,names,_,windows⟩ := build_parts built
  rw [windows] at written
  split at written
  · cases written
  have perm : (sortRows (allRows formatRate artifactDir includes excluded artifacts)).Perm
      (allRows formatRate artifactDir includes excluded artifacts) := List.perm_insertionSort _ _
  have listed : ∀ field ∈ header ++ derivedFields.map String.toList, field.length ≤ fieldLimit := by
    intro field member
    rcases List.mem_append.mp member with own | added
    · exact names field own
    · have all : ∀ field ∈ derivedFields.map String.toList, field.length ≤ fieldLimit := by decide
      exact all field added
  have small : ∀ d ∈ sortRows (allRows formatRate artifactDir includes excluded artifacts), ∀ key, (d.text key).length ≤ fieldLimit := by
    intro d member key
    obtain ⟨id,here,inside⟩ := List.mem_flatMap.mp (perm.mem_iff.mp member)
    exact experimentRows_short (short id (mem_keysOf.mp here)) inside key
  have long : 1 < (header ++ derivedFields.map String.toList).length := by
    simp [derivedFields]
  obtain ⟨rows,read,same⟩ := read_dicts_written long listed small written
  refine ⟨rows,_,read,same,perm,?_⟩
  have total : Std.Total fun a b : Dict => sortKey a ≤ sortKey b := ⟨fun a b => le_total _ _⟩
  have trans : IsTrans Dict fun a b => sortKey a ≤ sortKey b := ⟨fun a b c => le_trans⟩
  exact List.pairwise_insertionSort _ _

theorem index_nodup : (indexFields.map String.toList).Nodup := by
  have names : indexFields.Nodup := by simp [indexFields]
  exact names.map fun _ _ same => String.toList_inj.mp same

theorem record_width (e : Experiment) (a : Artifacts) (stats : TrafficStats) :
    (indexRecord formatRate artifactDir e a stats).length = (indexFields.map String.toList).length := by
  simp [indexRecord,indexFields]

theorem index_read {b : Built} (built : buildDataset formatRate artifactDir includes excluded artifacts = .ok b)
    (short : ∀ r ∈ allRecords formatRate artifactDir includes excluded artifacts, ∀ field ∈ r, field.length ≤ fieldLimit) :
    readDicts fieldLimit b.rawIndex = .ok ((sortIndex (allRecords formatRate artifactDir includes excluded artifacts)).map
      (fullDict (indexFields.map String.toList))) := by
  obtain ⟨_,_,index,_⟩ := build_parts built
  have perm : (sortIndex (allRecords formatRate artifactDir includes excluded artifacts)).Perm
      (allRecords formatRate artifactDir includes excluded artifacts) := List.perm_insertionSort _ _
  have full : ∀ row ∈ sortIndex (allRecords formatRate artifactDir includes excluded artifacts),
      row.length = (indexFields.map String.toList).length := by
    intro row member
    obtain ⟨id,_,rfl⟩ := List.mem_map.mp (perm.mem_iff.mp member)
    exact record_width _ _ _
  have fits : ∀ r ∈ indexFields.map String.toList :: sortIndex (allRecords formatRate artifactDir includes excluded artifacts),
      ∀ field ∈ r, field.length ≤ fieldLimit := by
    intro r member
    rcases List.mem_cons.mp member with rfl | row
    · decide
    · exact short r (perm.mem_iff.mp row)
  have read := readDicts_table (t := ⟨_,_,index_nodup,List.cons_ne_nil _ _,full⟩) (excel_writable fits)
  rwa [Table.records,← index,Table.dicts] at read

-- The index has one row for every selected experiment, also when no table is written.
theorem index_rows {b : Built} (built : buildDataset formatRate artifactDir includes excluded artifacts = .ok b)
    (short : ∀ r ∈ allRecords formatRate artifactDir includes excluded artifacts, ∀ field ∈ r, field.length ≤ fieldLimit) :
    ∃ rows : List Dict, readDicts fieldLimit b.rawIndex = .ok rows ∧ (rows.map fun d => d.text "experiment_id".toList).Nodup ∧
      rows.Perm ((allRecords formatRate artifactDir includes excluded artifacts).map (fullDict (indexFields.map String.toList))) := by
  have perm : (sortIndex (allRecords formatRate artifactDir includes excluded artifacts)).Perm
      (allRecords formatRate artifactDir includes excluded artifacts) := List.perm_insertionSort _ _
  have listed := perm.map (fullDict (indexFields.map String.toList))
  refine ⟨_,index_read built short,?_,listed⟩
  refine ((listed.map fun d => d.text "experiment_id".toList).nodup_iff).mpr ?_
  rw [allRecords,List.map_map,List.map_map]
  have ids : (keysOf includes).map String.toList =
      (keysOf includes).map ((fun d : Dict => d.text "experiment_id".toList) ∘ fullDict (indexFields.map String.toList) ∘
        fun id => indexRecord formatRate artifactDir (experiment excluded id (artifacts id)) (artifacts id) (statsOf (artifacts id))) :=
    List.map_congr_left fun id _ => rfl
  have distinct : ((keysOf includes).map String.toList).Nodup :=
    (keysOf_nodup includes).map fun _ _ same => String.toList_inj.mp same
  rw [ids] at distinct
  exact distinct

end Run

section Examples

def churnArtifacts (_ : String) : Artifacts :=
  ⟨some "rolling_update",some [⟨"backend_churn"⟩],some "ts,ok\n1,1\n2,0\n".toList,some [("worker-1.csv",
    "experiment_id,node_name,window_start_unix_ms,label\nexp-1,worker-1,2000,normal\nexp-1,worker-1,1000,\"load, surge\"\n".toList)],1⟩

def artifactPath (id : String) : String := "artifacts/" ++ id

def half (_ _ : Nat) : String := "0.500000"

theorem churn_built : ∃ b text, buildDataset half artifactPath ["churn-2","churn-1","churn-2"] ["churn-1"] churnArtifacts = .ok b ∧
    b.windowsAll = .ok text := by
  have some : ((buildDataset half artifactPath ["churn-2","churn-1","churn-2"] ["churn-1"] churnArtifacts).toOption.bind
    fun b => b.windowsAll.toOption).isSome := by decide +kernel
  cases built : buildDataset half artifactPath ["churn-2","churn-1","churn-2"] ["churn-1"] churnArtifacts with
  | error err =>
    rw [built] at some
    cases some
  | ok b =>
    rw [built] at some
    cases written : b.windowsAll with
    | error err =>
      simp [Except.toOption,written] at some
    | ok text => exact ⟨b,text,rfl,written⟩

theorem churn_table : ∃ b text rows, buildDataset half artifactPath ["churn-2","churn-1","churn-2"] ["churn-1"] churnArtifacts = .ok b ∧
    b.windowsAll = .ok text ∧ readDicts fieldLimit text = .ok rows := by
  obtain ⟨b,text,built,written⟩ := churn_built
  obtain ⟨rows,_,read,_⟩ := windows_rows built written fun id own => by
    have short : ∀ id ∈ ["churn-2","churn-1","churn-2"], ∀ pair ∈ derivedOf half artifactPath ["churn-1"] churnArtifacts id,
      pair.2.toList.length ≤ fieldLimit := by decide +kernel
    exact short id own
  exact ⟨b,text,rows,built,written,read⟩

theorem churn_index : ∃ b rows, buildDataset half artifactPath ["churn-2","churn-1","churn-2"] ["churn-1"] churnArtifacts = .ok b ∧
    readDicts fieldLimit b.rawIndex = .ok rows ∧ rows.length = 2 := by
  obtain ⟨b,_,built,_⟩ := churn_built
  obtain ⟨rows,read,_,perm⟩ := index_rows built (by decide +kernel)
  exact ⟨b,rows,built,read,perm.length_eq⟩

end Examples
end Aipr.DatasetBuild
