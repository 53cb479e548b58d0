import Aipr.CsvText
import Aipr.SplitStable

namespace Aipr.SplitFile
open CsvText SplitDataset Grouping

-- The script on the texts of its files. A cell that a short row lacks is None.
def idOf (d : Dict) : Except String (Option Field) :=
  match d.get? "experiment_id".toList with
  | none => .error "KeyError: 'experiment_id'"
  | some id => .ok id

-- What it takes of a row; None counts as the empty text.
def rowOf (v : Field → Field) : Row :=
  ⟨String.ofList (v "experiment_id".toList),String.ofList (v "label".toList),String.ofList (v "experiment_type".toList),"",[]⟩

def setSplit (split : Split) (d : Dict) : Dict := {d with cells := assign d.cells "split".toList (some split.name.toList)}

def placeDict (table : AList fun _ : String => Split) (d : Dict) : Except String (Split × Dict) :=
  match table.lookup (rowOf d.text).experimentId with
  | none => .error s!"KeyError: {(rowOf d.text).experimentId}"
  | some split => .ok (split,setSplit split d)

-- fieldnames are the keys of the first row; None is one of them when that row runs
-- over the header, and its list is written as Python shows a list.
def writeRows (listText : Record → Field) (first : Dict) (rows : List Dict) : Except String (List Char) :=
  if first.rest = none then writeDicts excel first.keys rows
  else do
    let records ← rows.mapM fun d => do
      let r ← dictRecord first.keys {d with rest := none}
      return r ++ [(d.rest.map listText).getD []]
    return writeRecords excel ((first.keys ++ [[]]) :: records)

structure Texts where
  windowsAll : List Char
  windows : Split → List Char
  assignments : AList fun _ : String => Split

def splitFile (listText : Record → Field) (path : String) (text : List Char) : Except String Texts := do
  let rows ← readDicts fieldLimit text
  match rows with
  | [] => .error s!"no rows in {path}"
  | first :: _ => do
    let ids ← rows.mapM idOf
    if none ∈ ids ∧ ∃ id ∈ ids, id ≠ none then .error "'<' not supported between instances of 'NoneType' and 'str'"
    else do
      let files ← splitDataset path (rows.map fun d => rowOf d.text)
      let placed ← rows.mapM (placeDict files.assignments)
      let parts := fun split => (placed.filter fun pair => pair.1 = split).map Prod.snd
      let all ← writeRows listText first (parts .train ++ parts .val ++ parts .test)
      let train ← writeRows listText first (parts .train)
      let val ← writeRows listText first (parts .val)
      let test ← writeRows listText first (parts .test)
      return ⟨all,fun | .train => train | .val => val | .test => test,files.assignments⟩

def order : List Split := [.train,.val,.test]

def part (vs : List (Field → Field)) (v : Field → Field) : Split := assigned (vs.map rowOf) (rowOf v).experimentId

def mark (split : Split) (v : Field → Field) : Field → Field := Function.update v "split".toList split.name.toList

def rowsText (header : Record) (vs : List (Field → Field)) : List Char :=
  writeRecords excel (header :: vs.map fun v => header.map v)

def textsOf (header : Record) (vs : List (Field → Field)) : Texts where
  windowsAll := rowsText header (together order (part vs) mark vs)
  windows := fun split => rowsText header (inPart (part vs) mark vs split)
  assignments := assignments (vs.map rowOf)

def idCell (d : Dict) : Option Field := (d.get? "experiment_id".toList).getD none

def partRows (rows : List Dict) (split : Split) : List Dict := inPart (fun d => part (rows.map Dict.text) d.text) setSplit rows split

structure Fits (header : Record) (rows : List Dict) : Prop where
  keys : ∀ d ∈ rows, d.keys = header
  whole : ∀ d ∈ rows, d.rest = none
  some : rows ≠ []
  id : "experiment_id".toList ∈ header
  split : "split".toList ∈ header
  unmixed : ¬(none ∈ rows.map idCell ∧ ∃ id ∈ rows.map idCell, id ≠ none)

section Run
variable {listText : Record → Field} {path : String} {text : List Char} {header : Record} {rows : List Dict} {out : Texts}

theorem order_nodup : order.Nodup := by decide

theorem mem_order (split : Split) : split ∈ order := by
  cases split <;> decide

theorem key_cell {d : Dict} {key : Field} : key ∈ d.keys ↔ (d.get? key).isSome := by
  unfold Dict.get? Dict.keys
  rw [Option.isSome_map,List.find?_isSome,List.mem_map]
  simp

theorem rowOf_mark (split : Split) (v : Field → Field) : rowOf (mark split v) = rowOf v := by
  simp [rowOf,mark,Function.update]

theorem text_setSplit (split : Split) (d : Dict) : (setSplit split d).text = mark split d.text := text_assign d.rest

theorem keys_setSplit {d : Dict} (present : "split".toList ∈ d.keys) (split : Split) : (setSplit split d).keys = d.keys := by
  rw [Dict.keys,setSplit,keys_assign]
  exact if_pos present

theorem part_mark (vs : List (Field → Field)) (split : Split) (v : Field → Field) : part vs (mark split v) = part vs v := by
  rw [part,rowOf_mark]
  rfl

theorem mark_again (split : Split) (v : Field → Field) : mark split (mark split v) = mark split v := Function.update_idem ..

theorem writeRows_text {first : Dict} {ds : List Dict} (whole : first.rest = none) (keys : ∀ d ∈ ds, d.keys = first.keys)
    (rest : ∀ d ∈ ds, d.rest = none) : writeRows listText first ds = .ok (rowsText first.keys (ds.map Dict.text)) := by
  have records : ds.mapM (dictRecord first.keys) = .ok (ds.map fun d => first.keys.map d.text) := by
    refine mapM_ok fun d member => if_pos ⟨fun cell inside => ?_,rest d member⟩
    rw [← keys d member]
    exact List.mem_map_of_mem inside
  rw [writeRows,if_pos whole,writeDicts,records,rowsText,List.map_map]
  rfl

theorem text_partRows (rows : List Dict) (split : Split) :
    (partRows rows split).map Dict.text = inPart (part (rows.map Dict.text)) mark (rows.map Dict.text) split := by
  rw [partRows,inPart,inPart,List.filter_map,List.map_map,List.map_map]
  refine List.map_congr_left fun d _ => ?_
  rw [Function.comp_apply,text_setSplit]
  rfl

theorem placed_rows (rows : List Dict) : rows.mapM (placeDict (assignments (rows.map fun d => rowOf d.text))) =
    .ok (rows.map fun d => (part (rows.map Dict.text) d.text,setSplit (part (rows.map Dict.text) d.text) d)) := by
  refine mapM_ok fun d member => ?_
  have occurs : (rowOf d.text).experimentId ∈ experiments (rows.map fun d => rowOf d.text) :=
    mem_experiments.mpr ⟨_,List.mem_map_of_mem member,rfl⟩
  rw [placeDict,lookup_assignments occurs,part,List.map_map]
  rfl

theorem placed_part (rows : List Dict) (split : Split) :
    ((rows.map fun d => (part (rows.map Dict.text) d.text,setSplit (part (rows.map Dict.text) d.text) d)).filter
      fun pair => pair.1 = split).map Prod.snd = partRows rows split := by
  rw [List.filter_map,List.map_map,partRows,inPart]
  refine List.map_congr_left fun d member => ?_
  have here : part (rows.map Dict.text) d.text = split := of_decide_eq_true (List.mem_filter.mp member).2
  rw [Function.comp_apply,here]

theorem split_steps {first : Dict} {later : List Dict} (read : readDicts fieldLimit text = .ok (first :: later)) :
    splitFile listText path text = (do
      let ids ← (first :: later).mapM idOf
      if none ∈ ids ∧ ∃ id ∈ ids, id ≠ none then .error "'<' not supported between instances of 'NoneType' and 'str'"
      else do
        let all ← writeRows listText first
          (partRows (first :: later) .train ++ partRows (first :: later) .val ++ partRows (first :: later) .test)
        let train ← writeRows listText first (partRows (first :: later) .train)
        let val ← writeRows listText first (partRows (first :: later) .val)
        let test ← writeRows listText first (partRows (first :: later) .test)
        return ⟨all,fun | .train => train | .val => val | .test => test,assignments ((first :: later).map fun d => rowOf d.text)⟩) := by
  have keyed : (first :: later).map (fun d => rowOf d.text) ≠ [] := by simp
  obtain ⟨experiments,split⟩ := splitDataset_ok path keyed
  simp only [splitFile,read,split,placed_rows,placed_part,bind,Except.bind]

theorem kept_rows (fits : Fits header rows) (split : Split) : ∀ d ∈ partRows rows split, d.keys = header ∧ d.rest = none := by
  intro d member
  obtain ⟨origin,filed,rfl⟩ := List.mem_map.mp member
  have inside := (List.mem_filter.mp filed).1
  refine ⟨(keys_setSplit ?_ split).trans (fits.keys origin inside),fits.whole origin inside⟩
  rw [fits.keys origin inside]
  exact fits.split

theorem text_together (rows : List Dict) : (partRows rows .train ++ partRows rows .val ++ partRows rows .test).map Dict.text =
    together order (part (rows.map Dict.text)) mark (rows.map Dict.text) := by
  rw [List.map_append,List.map_append,text_partRows,text_partRows,text_partRows,together]
  simp [order]

theorem ids_cells (keys : ∀ d ∈ rows, d.keys = header) (id : "experiment_id".toList ∈ header) :
    rows.mapM idOf = .ok (rows.map idCell) := by
  refine mapM_ok fun d member => ?_
  obtain ⟨id,found⟩ := Option.isSome_iff_exists.mp (key_cell.mp (keys d member ▸ id))
  rw [idOf,idCell,found]
  rfl

theorem split_fits (read : readDicts fieldLimit text = .ok rows) (fits : Fits header rows) :
    splitFile listText path text = .ok (textsOf header (rows.map Dict.text)) := by
  obtain _ | ⟨first,later⟩ := rows
  · exact absurd rfl fits.some
  have ids := ids_cells fits.keys fits.id
  have own : first.keys = header := fits.keys first List.mem_cons_self
  have written : ∀ ds : List Dict, (∀ d ∈ ds, d.keys = header ∧ d.rest = none) →
      writeRows listText first ds = .ok (rowsText header (ds.map Dict.text)) := by
    intro ds each
    have done := @writeRows_text listText _ ds (fits.whole first List.mem_cons_self)
      (fun d member => (each d member).1.trans own.symm) fun d member => (each d member).2
    rwa [own] at done
  have parts : ∀ split, writeRows listText first (partRows (first :: later) split) =
      .ok (rowsText header (inPart (part ((first :: later).map Dict.text)) mark ((first :: later).map Dict.text) split)) := by
    intro split
    rw [written _ (kept_rows fits split),text_partRows]
  have all : writeRows listText first
      (partRows (first :: later) .train ++ partRows (first :: later) .val ++ partRows (first :: later) .test) =
      .ok (rowsText header (together order (part ((first :: later).map Dict.text)) mark ((first :: later).map Dict.text))) := by
    rw [written,text_together]
    intro d member
    rcases List.mem_append.mp member with early | late
    · rcases List.mem_append.mp early with early | late
      · exact kept_rows fits _ d early
      · exact kept_rows fits _ d late
    · exact kept_rows fits _ d late
  rw [split_steps read]
  simp only [ids,parts,all,bind,Except.bind,if_neg fits.unmixed]
  refine congrArg Except.ok ?_
  rw [textsOf,List.map_map]
  refine congrArg₂ (fun windows table => Texts.mk _ windows table) (funext fun split => ?_) rfl
  cases split <;> rfl

theorem mapM_each {f : α → Except String β} {l : List α} {out : List β} (done : l.mapM f = .ok out) :
    ∀ x ∈ l, ∃ y ∈ out, f x = .ok y := by
  induction l generalizing out with
  | nil => exact fun _ none => absurd none List.not_mem_nil
  | cons first later ih =>
    rw [List.mapM_cons] at done
    cases here : f first with
    | error err =>
      rw [here] at done
      cases done
    | ok y =>
      cases there : later.mapM f with
      | error err =>
        rw [here,there] at done
        cases done
      | ok ys =>
        rw [here,there] at done
        cases done
        intro x member
        rcases List.mem_cons.mp member with rfl | member
        · exact ⟨y,List.mem_cons_self,here⟩
        · obtain ⟨z,found,same⟩ := ih there x member
          exact ⟨z,List.mem_cons_of_mem _ found,same⟩

theorem writeRows_each {first : Dict} {ds : List Dict} {text : List Char} (whole : first.rest = none)
    (done : writeRows listText first ds = .ok text) : ∀ d ∈ ds, (∀ key ∈ d.keys, key ∈ first.keys) ∧ d.rest = none := by
  rw [writeRows,if_pos whole,writeDicts] at done
  cases records : ds.mapM (dictRecord first.keys) with
  | error err =>
    rw [records] at done
    cases done
  | ok rs =>
    intro d member
    obtain ⟨r,_,recorded⟩ := mapM_each records d member
    unfold dictRecord at recorded
    split at recorded
    · rename_i fits
      refine ⟨fun key inside => ?_,fits.2⟩
      obtain ⟨cell,listed,rfl⟩ := List.mem_map.mp inside
      exact fits.1 cell listed
    · cases recorded

theorem mem_partRows {d : Dict} (member : d ∈ rows) : ∃ split, setSplit split d ∈ partRows rows split :=
  ⟨part (rows.map Dict.text) d.text,List.mem_map_of_mem (List.mem_filter.mpr ⟨member,decide_eq_true rfl⟩)⟩

theorem fits_split (done : splitFile listText path text = .ok out) :
    ∃ first later, readDicts fieldLimit text = .ok (first :: later) ∧ (first.rest = none → Fits first.keys (first :: later)) := by
  cases read : readDicts fieldLimit text with
  | error err =>
    rw [splitFile,read] at done
    cases done
  | ok rows =>
    obtain _ | ⟨first,later⟩ := rows
    · rw [splitFile,read] at done
      cases done
    refine ⟨first,later,rfl,fun whole => ?_⟩
    rw [split_steps read] at done
    cases ids : (first :: later).mapM idOf with
    | error err =>
      rw [ids] at done
      cases done
    | ok cells =>
      have uniform : ∀ d ∈ first :: later, d.keys = first.keys := by
        obtain ⟨names,keys,_⟩ := readDicts_uniform read
        exact fun d member => (keys d member).trans (keys first List.mem_cons_self).symm
      have id : "experiment_id".toList ∈ first.keys := by
        obtain ⟨cell,_,found⟩ := mapM_each ids first List.mem_cons_self
        unfold idOf at found
        split at found
        · cases found
        · rename_i value present
          rw [key_cell,present]
          rfl
      rw [ids_cells uniform id] at done
      dsimp only [bind,Except.bind] at done
      by_cases mixed : none ∈ (first :: later).map idCell ∧ ∃ id ∈ (first :: later).map idCell, id ≠ none
      · rw [if_pos mixed] at done
        cases done
      rw [if_neg mixed] at done
      cases all : writeRows listText first
        (partRows (first :: later) .train ++ partRows (first :: later) .val ++ partRows (first :: later) .test) with
      | error err =>
        rw [all] at done
        cases done
      | ok written =>
        have each : ∀ d ∈ first :: later, ∃ split, (∀ key ∈ (setSplit split d).keys, key ∈ first.keys) ∧ d.rest = none := by
          intro d member
          obtain ⟨split,placed⟩ := mem_partRows member
          refine ⟨split,writeRows_each whole all _ ?_⟩
          cases split <;> simp [placed]
        refine ⟨uniform,fun d member => (each d member).choose_spec.2,List.cons_ne_nil _ _,id,?_,mixed⟩
        obtain ⟨split,inside,_⟩ := each first List.mem_cons_self
        refine inside _ ?_
        rw [Dict.keys,setSplit,keys_assign,addKey]
        split
        · assumption
        · simp

def tabled (header : Record) (v : Field → Field) : Dict := fullDict header (header.map v)

def Small (vs : List (Field → Field)) : Prop := ∀ v ∈ vs, ∀ key, (v key).length ≤ fieldLimit

theorem read_rowsText {vs : List (Field → Field)} (nodup : header.Nodup) (filled : header ≠ [])
    (names : ∀ key ∈ header, key.length ≤ fieldLimit) (small : Small vs) :
    readDicts fieldLimit (rowsText header vs) = .ok (vs.map (tabled header)) := by
  have full : ∀ row ∈ vs.map (fun v => header.map v), row.length = header.length := by
    intro row member
    obtain ⟨v,_,rfl⟩ := List.mem_map.mp member
    exact List.length_map ..
  have short : ∀ r ∈ header :: vs.map (fun v => header.map v), ∀ field ∈ r, field.length ≤ fieldLimit := by
    intro r member field inside
    rcases List.mem_cons.mp member with rfl | row
    · exact names field inside
    · obtain ⟨v,listed,rfl⟩ := List.mem_map.mp row
      obtain ⟨key,_,rfl⟩ := List.mem_map.mp inside
      exact small v listed key
  have again := readDicts_table (t := ⟨header,vs.map fun v => header.map v,nodup,filled,full⟩) (excel_writable short)
  rw [Table.records,Table.dicts,List.map_map] at again
  exact again

theorem text_tabled {v : Field → Field} (inside : ∀ key, key ∉ header → v key = []) : (tabled header v).text = v := by
  funext key
  rw [tabled,text_full]
  split
  · rfl
  · rename_i absent
    exact (inside key absent).symm

theorem keys_tabled (v : Field → Field) : (tabled header v).keys = header := by
  rw [tabled,fullDict,Dict.keys,List.map_fst_zip (by simp)]

theorem fits_tabled {vs : List (Field → Field)} (some : vs ≠ []) (id : "experiment_id".toList ∈ header)
    (split : "split".toList ∈ header) : Fits header (vs.map (tabled header)) := by
  refine ⟨?_,?_,?_,id,split,?_⟩
  · intro d member
    obtain ⟨v,_,rfl⟩ := List.mem_map.mp member
    exact keys_tabled v
  · intro d member
    obtain ⟨v,_,rfl⟩ := List.mem_map.mp member
    rfl
  · exact fun none => some (List.map_eq_nil_iff.mp none)
  · rintro ⟨absent,_⟩
    obtain ⟨d,member,blank⟩ := List.mem_map.mp absent
    obtain ⟨v,_,rfl⟩ := List.mem_map.mp member
    have present : "experiment_id".toList ∈ (tabled header v).keys := by
      rw [keys_tabled]
      exact id
    obtain ⟨cell,found⟩ := Option.isSome_iff_exists.mp (key_cell.mp present)
    have value : ∃ field, cell = .some field := by
      unfold Dict.get? at found
      obtain ⟨pair,listed,rfl⟩ := Option.map_eq_some_iff.mp found
      obtain ⟨field,_,same⟩ := List.mem_map.mp (List.of_mem_zip (List.mem_of_find?_eq_some listed)).2
      exact ⟨field,same.symm⟩
    obtain ⟨field,rfl⟩ := value
    rw [idCell,found] at blank
    cases blank

theorem small_mark {v : Field → Field} (small : ∀ key, (v key).length ≤ fieldLimit) (split : Split) (key : Field) :
    (mark split v key).length ≤ fieldLimit := by
  unfold mark
  by_cases here : key = "split".toList
  · rw [here,Function.update_self]
    cases split <;> decide
  · rw [Function.update_of_ne here]
    exact small key

theorem mem_inPart {vs : List (Field → Field)} {split : Split} {v : Field → Field} (member : v ∈ inPart (part vs) mark vs split) :
    ∃ origin ∈ vs, v = mark split origin := by
  obtain ⟨origin,filed,rfl⟩ := List.mem_map.mp member
  exact ⟨origin,(List.mem_filter.mp filed).1,rfl⟩

theorem mem_together {vs : List (Field → Field)} {v : Field → Field} (member : v ∈ together order (part vs) mark vs) :
    ∃ split, ∃ origin ∈ vs, v = mark split origin := by
  obtain ⟨split,_,inside⟩ := List.mem_flatMap.mp member
  exact ⟨split,mem_inPart inside⟩

theorem together_labelled (vs : List (Field → Field)) :
    (((together order (part vs) mark vs).map rowOf).map Row.labelled).Perm ((vs.map rowOf).map Row.labelled) := by
  have perm : (together order (part vs) mark vs).Perm (vs.map fun v => mark (part vs v) v) :=
    together_perm order_nodup fun v _ => mem_order (part vs v)
  have same : (vs.map fun v => mark (part vs v) v).map rowOf = vs.map rowOf := by
    rw [List.map_map]
    exact List.map_congr_left fun v _ => rowOf_mark _ v
  have perm := (perm.map rowOf).map Row.labelled
  rwa [same] at perm

theorem part_together (vs : List (Field → Field)) : part (together order (part vs) mark vs) = part vs := by
  funext v
  rw [part,part,(assigned_congr (together_labelled vs)).2]

theorem read_texts (read : readDicts fieldLimit text = .ok rows) (fits : Fits header rows) :
    (∀ split, readDicts fieldLimit ((textsOf header (rows.map Dict.text)).windows split) =
      .ok ((inPart (part (rows.map Dict.text)) mark (rows.map Dict.text) split).map (tabled header))) ∧
    readDicts fieldLimit (textsOf header (rows.map Dict.text)).windowsAll =
      .ok ((together order (part (rows.map Dict.text)) mark (rows.map Dict.text)).map (tabled header)) := by
  obtain ⟨first,later,rfl⟩ := List.exists_cons_of_ne_nil fits.some
  obtain ⟨names,keys,long,small⟩ := readDicts_uniform read
  have own : keysOf names = header := (keys first List.mem_cons_self).symm.trans (fits.keys first List.mem_cons_self)
  have nodup : header.Nodup := own ▸ keysOf_nodup names
  have filled : header ≠ [] := List.ne_nil_of_mem fits.id
  have short : ∀ key ∈ header, key.length ≤ fieldLimit :=
    fun key member => long first List.mem_cons_self key ((fits.keys first List.mem_cons_self).symm ▸ member)
  have each : ∀ v ∈ (first :: later).map Dict.text, ∀ key, (v key).length ≤ fieldLimit := by
    intro v member
    obtain ⟨d,listed,rfl⟩ := List.mem_map.mp member
    exact small d listed
  constructor
  · refine fun split => read_rowsText nodup filled short fun v member => ?_
    obtain ⟨origin,listed,rfl⟩ := mem_inPart member
    exact small_mark (each origin listed) split
  · refine read_rowsText nodup filled short fun v member => ?_
    obtain ⟨split,origin,listed,rfl⟩ := mem_together member
    exact small_mark (each origin listed) split

theorem mark_inside {d : Dict} (fits : Fits header rows) (member : d ∈ rows) (split : Split) {key : Field} (absent : key ∉ header) :
    mark split d.text key = [] := by
  have apart : key ≠ "split".toList := by
    rintro rfl
    exact absent fits.split
  rw [mark,Function.update_of_ne apart]
  exact text_absent fun inside => absurd (fits.keys d member ▸ inside) absent

-- No row of the first run goes over its header.
def FirstFits (text : List Char) : Prop :=
  ∀ first later, readDicts fieldLimit text = .ok (first :: later) → first.rest = none

-- A second run over the table the first has written writes the same files.
theorem split_file_again (fitting : FirstFits text) (done : splitFile listText path text = .ok out) :
    ∃ again, splitFile listText path out.windowsAll = .ok again ∧ again.windowsAll = out.windowsAll ∧
      again.windows = out.windows ∧ ∀ id, again.assignments.lookup id = out.assignments.lookup id := by
  obtain ⟨first,later,read,fits⟩ := fits_split done
  have fits := fits (fitting first later read)
  cases done.symm.trans (split_fits read fits)
  generalize own : first.keys = header at fits ⊢
  generalize first :: later = rows at read fits ⊢
  have inside : ∀ v ∈ together order (part (rows.map Dict.text)) mark (rows.map Dict.text), (tabled header v).text = v := by
    intro v member
    obtain ⟨split,origin,listed,rfl⟩ := mem_together member
    obtain ⟨d,inside,rfl⟩ := List.mem_map.mp listed
    exact text_tabled fun key absent => mark_inside fits inside split absent
  have texts : ((together order (part (rows.map Dict.text)) mark (rows.map Dict.text)).map (tabled header)).map Dict.text =
      together order (part (rows.map Dict.text)) mark (rows.map Dict.text) := by
    rw [List.map_map]
    exact (List.map_congr_left inside).trans (List.map_id _)
  have some : together order (part (rows.map Dict.text)) mark (rows.map Dict.text) ≠ [] := by
    intro none
    have perm := together_labelled (rows.map Dict.text)
    rw [none] at perm
    have blank := List.nil_perm.mp perm
    rw [List.map_eq_nil_iff,List.map_eq_nil_iff,List.map_eq_nil_iff] at blank
    exact fits.some blank
  have again := @split_fits listText path _ _ _ (read_texts read fits).2 (fits_tabled some fits.id fits.split)
  rw [texts] at again
  have parts : ∀ split, inPart (part (together order (part (rows.map Dict.text)) mark (rows.map Dict.text))) mark
      (together order (part (rows.map Dict.text)) mark (rows.map Dict.text)) split =
        inPart (part (rows.map Dict.text)) mark (rows.map Dict.text) split := by
    intro split
    rw [part_together]
    exact inPart_together order_nodup (part_mark _) mark_again (mem_order split)
  refine ⟨_,again,?_,funext fun split => ?_,fun id => ?_⟩
  · refine congrArg (rowsText header) (List.flatMap_congr fun split _ => ?_)
    exact parts split
  · exact congrArg (rowsText header) (parts split)
  · exact lookup_congr (together_labelled (rows.map Dict.text)) id

theorem part_assigned {d : Dict} (member : d ∈ rows) :
    (assignments ((rows.map Dict.text).map rowOf)).lookup (rowOf d.text).experimentId = some (part (rows.map Dict.text) d.text) :=
  lookup_assignments (mem_experiments.mpr ⟨_,List.mem_map_of_mem (List.mem_map_of_mem member),rfl⟩)

-- The three files hold the rows of the table, each row in the file of its experiment
-- and in its order, with every column but the split as it was.
theorem split_file_rows (fitting : FirstFits text) (done : splitFile listText path text = .ok out) :
    ∃ (rows : List Dict) (parts : Split → List Dict), readDicts fieldLimit text = .ok rows ∧
      (∀ split, readDicts fieldLimit (out.windows split) = .ok (parts split)) ∧
      readDicts fieldLimit out.windowsAll = .ok (parts .train ++ parts .val ++ parts .test) ∧
      (∀ d ∈ rows, ∃ split, out.assignments.lookup (rowOf d.text).experimentId = some split) ∧
      ∀ split, (parts split).map Dict.text =
        (rows.filter fun d => out.assignments.lookup (rowOf d.text).experimentId = some split).map fun d => mark split d.text := by
  obtain ⟨first,later,read,fits⟩ := fits_split done
  have fits := fits (fitting first later read)
  cases done.symm.trans (split_fits read fits)
  generalize first.keys = header at fits ⊢
  generalize first :: later = rows at read fits ⊢
  obtain ⟨windows,all⟩ := read_texts read fits
  refine ⟨rows,_,read,windows,?_,fun d member => ⟨_,part_assigned member⟩,fun split => ?_⟩
  · rw [all,together]
    simp [order]
  · rw [List.map_map,← text_partRows,List.map_map]
    have texts : (partRows rows split).map (Dict.text ∘ tabled header ∘ Dict.text) = (partRows rows split).map Dict.text := by
      refine List.map_congr_left fun d member => text_tabled fun key absent => text_absent fun inside => ?_
      rw [(kept_rows fits split d member).1] at inside
      exact absent inside
    refine texts.trans ?_
    rw [partRows,inPart,List.map_map]
    have same : (rows.filter fun d => part (rows.map Dict.text) d.text = split) =
        rows.filter fun d => (assignments ((rows.map Dict.text).map rowOf)).lookup (rowOf d.text).experimentId = some split := by
      refine List.filter_congr fun d member => ?_
      rw [part_assigned member]
      simp
    rw [same]
    exact List.map_congr_left fun d _ => text_setSplit split d

end Run

section Examples

-- A cell with the separator, and a row without its last column.
def churnText : List Char :=
  "experiment_id,label,split\r\nexp-02,backend_churn,\r\nexp-01,normal\r\nexp-02,\"load, surge\",\r\nexp-03,backend_churn,train\r\n".toList

theorem churn_split : ∃ out, splitFile List.flatten "windows_all.csv" churnText = .ok out := by
  have some : (splitFile List.flatten "windows_all.csv" churnText).toOption.isSome := by decide +kernel
  cases done : splitFile List.flatten "windows_all.csv" churnText with
  | ok out => exact ⟨out,rfl⟩
  | error err =>
    rw [done] at some
    cases some

theorem churn_fits : FirstFits churnText := by
  have head : (readDicts fieldLimit churnText).toOption.bind (fun rows => rows.head?.map Dict.rest) = some none := by decide +kernel
  intro first later read
  rw [read] at head
  exact Option.some.inj head

theorem churn_again : ∃ out again, splitFile List.flatten "windows_all.csv" churnText = .ok out ∧
    splitFile List.flatten "windows_all.csv" out.windowsAll = .ok again ∧ again.windowsAll = out.windowsAll := by
  obtain ⟨out,done⟩ := churn_split
  obtain ⟨again,done',same,_⟩ := split_file_again churn_fits done
  exact ⟨out,again,done,done',same⟩

theorem churn_rows : ∃ (out : Texts) (parts : Split → List Dict), splitFile List.flatten "windows_all.csv" churnText = .ok out ∧
    ∀ split, readDicts fieldLimit (out.windows split) = .ok (parts split) := by
  obtain ⟨out,done⟩ := churn_split
  obtain ⟨rows,parts,_,windows,_⟩ := split_file_rows churn_fits done
  exact ⟨out,parts,done,windows⟩

end Examples
end Aipr.SplitFile
