import Mathlib.Algebra.Ring.Int.Defs
import Mathlib.Data.List.Dedup
import Mathlib.Data.List.Nodup

namespace Aipr.FeatureEncoding

-- The cells of a row by column; a missing cell is none.
abbrev Cells := String → Option String

structure Frame where
  columns : List String
  rows : List Cells

def loc (mask : List Bool) (l : List α) : List α := ((l.zip mask).filter Prod.snd).map Prod.fst

def Frame.loc (mask : List Bool) (frame : Frame) : Frame := {frame with rows := FeatureEncoding.loc mask frame.rows}

inductive Source where
  | numeric (column : String)
  | dummy (column value : String)
deriving DecidableEq, Repr

section Encode
variable {ν : Type} [Zero ν] [One ν] [DecidableEq ν] (toNumeric : String → Option ν)

-- convert_numeric_like, over the rows of the frame that is passed in.
def numericLike (rows : List Cells) (column : String) : Bool :=
  rows.all fun row => (row column).all fun value => (toNumeric value).isSome

def distinctValues (rows : List Cells) (column : String) : List String := (rows.filterMap fun row => row column).dedup

def dummyName (column value : String) : String := column ++ "_" ++ value

-- get_dummies: the numeric columns, then one column for each value of the others.
def getDummies (features : List String) (rows : List Cells) : List (String × Source) :=
  ((features.filter fun column => numericLike toNumeric rows column).map fun column => (column,.numeric column)) ++
    (features.filter fun column => !numericLike toNumeric rows column).flatMap fun column =>
      (distinctValues rows column).map fun value => (dummyName column value,.dummy column value)

def Source.value (row : Cells) : Source → Option ν
  | .numeric column => (row column).bind toNumeric
  | .dummy column value => some (if row column = some value then 1 else 0)

-- reindex and fillna: an absent column and a missing value are 0.
def entry (encoded : List (String × Source)) (row : Cells) (column : String) : ν :=
  (((encoded.lookup column).bind fun source => source.value toNumeric row)).getD 0

def featureColumns (columns excludedColumns : List String) : List String :=
  columns.filter fun column => column ∉ excludedColumns

def Unambiguous (features : List String) (rows : List Cells) : Prop := ((getDummies toNumeric features rows).map Prod.fst).Nodup

instance (features : List String) (rows : List Cells) : Decidable (Unambiguous toNumeric features rows) :=
  inferInstanceAs (Decidable (List.Nodup _))

-- reindex refuses a frame in which two columns have one name.
def buildFeatureMatrix (frame : Frame) (excludedColumns finalFeatureColumns : List String) : Option (List (List ν)) :=
  let features := featureColumns frame.columns excludedColumns
  let encoded := getDummies toNumeric features frame.rows
  if Unambiguous toNumeric features frame.rows then
    some (frame.rows.map fun row => finalFeatureColumns.map fun column => entry toNumeric encoded row column)
  else none

-- The columns are those of the training rows without the constant ones.
structure FeatureMatrices (ν : Type) where
  train : List (List ν)
  val : List (List ν)
  test : List (List ν)
  featureColumns : List String
  constantColumns : List String
  finalFeatureColumns : List String

def constantColumns (encoded : List (String × Source)) (rows : List Cells) : List String :=
  (encoded.filter fun column => (rows.map fun row => column.2.value toNumeric row).dedup.length ≤ 1).map Prod.fst

def buildFeatureMatrices (excludedColumns : List String) (trainDf valDf testDf : Frame) : Option (FeatureMatrices ν) :=
  let features := featureColumns trainDf.columns excludedColumns
  let trainEncoded := getDummies toNumeric features trainDf.rows
  let valEncoded := getDummies toNumeric features valDf.rows
  let testEncoded := getDummies toNumeric features testDf.rows
  if Unambiguous toNumeric features trainDf.rows ∧ Unambiguous toNumeric features valDf.rows ∧
      Unambiguous toNumeric features testDf.rows then
    let constant := constantColumns toNumeric trainEncoded trainDf.rows
    let final := (trainEncoded.map Prod.fst).filter fun column => column ∉ constant
    let matrix (encoded : List (String × Source)) (rows : List Cells) :=
      rows.map fun row => final.map fun column => entry toNumeric encoded row column
    some ⟨matrix trainEncoded trainDf.rows,matrix valEncoded valDf.rows,matrix testEncoded testDf.rows,features,constant,final⟩
  else none

-- A column that is expanded in all rows and numeric in the kept ones; what is lost
-- of a row with it is a dummy column, what is gained a number.
def changes (rows kept : List Cells) (column : String) : Bool :=
  !numericLike toNumeric rows column && numericLike toNumeric kept column

def lost (features : List String) (rows kept : List Cells) (row : Cells) (name : String) : Bool :=
  features.any fun column => changes toNumeric rows kept column && (row column).any fun value => dummyName column value = name

def gained (features : List String) (rows kept : List Cells) (row : Cells) (name : String) : ν :=
  if name ∈ features ∧ changes toNumeric rows kept name then ((row name).bind toNumeric).getD 0 else 0

end Encode
section Names
variable {ν : Type} {toNumeric : String → Option ν} {features : List String}
  {rows kept : List Cells} {row : Cells} {name : String}

theorem loc_map (mask : List Bool) (f : α → β) (l : List α) : loc mask (l.map f) = (loc mask l).map f := by
  induction l generalizing mask with
  | nil => cases mask <;> rfl
  | cons x rest ih =>
    cases mask with
    | nil => rfl
    | cons keep mask =>
      have tail := ih mask
      unfold loc at tail ⊢
      cases keep with
      | true => simp [tail]
      | false => simp [tail]

theorem mem_of_loc {mask : List Bool} {l : List α} {x : α} (member : x ∈ loc mask l) : x ∈ l := by
  obtain ⟨⟨y,keep⟩,kept,rfl⟩ := List.mem_map.mp member
  exact (List.of_mem_zip (List.mem_filter.mp kept).1).1

theorem lookup_of_nodup {l : List (String × Source)} (nodup : (l.map Prod.fst).Nodup) {source : Source} :
    l.lookup name = some source ↔ (name,source) ∈ l := by
  induction l with
  | nil => simp
  | cons first rest ih =>
    obtain ⟨key,value⟩ := first
    obtain ⟨fresh,nodup⟩ := List.nodup_cons.mp nodup
    rw [List.lookup_cons,List.mem_cons,Prod.mk.injEq]
    by_cases here : name = key
    · subst here
      have absent : (name,source) ∉ rest := fun member => fresh (List.mem_map.mpr ⟨_,member,rfl⟩)
      simp [absent,eq_comm]
    · have apart : (name == key) = false := beq_false_of_ne here
      simp [here,apart,ih nodup]

theorem mem_getDummies {source : Source} : (name,source) ∈ getDummies toNumeric features rows ↔
    (name ∈ features ∧ numericLike toNumeric rows name ∧ source = .numeric name) ∨
      ∃ column ∈ features, numericLike toNumeric rows column = false ∧ ∃ value, (∃ row ∈ rows, row column = some value) ∧
        dummyName column value = name ∧ source = .dummy column value := by
  rw [getDummies,List.mem_append,List.mem_map,List.mem_flatMap]
  refine or_congr ?_ ?_
  · constructor
    · rintro ⟨column,member,same⟩
      obtain ⟨rfl,rfl⟩ := Prod.mk.inj same
      obtain ⟨listed,numeric⟩ := List.mem_filter.mp member
      exact ⟨listed,numeric,rfl⟩
    · rintro ⟨listed,numeric,rfl⟩
      exact ⟨name,List.mem_filter.mpr ⟨listed,numeric⟩,rfl⟩
  · constructor
    · rintro ⟨column,member,expanded⟩
      obtain ⟨listed,object⟩ := List.mem_filter.mp member
      obtain ⟨value,occurs,same⟩ := List.mem_map.mp expanded
      obtain ⟨rfl,rfl⟩ := Prod.mk.inj same
      rw [distinctValues,List.mem_dedup,List.mem_filterMap] at occurs
      exact ⟨column,listed,(Bool.not_eq_true' _).mp object,value,occurs,rfl,rfl⟩
    · rintro ⟨column,listed,object,value,occurs,rfl,rfl⟩
      refine ⟨column,List.mem_filter.mpr ⟨listed,(Bool.not_eq_true' _).mpr object⟩,List.mem_map.mpr ⟨value,?_,rfl⟩⟩
      rwa [distinctValues,List.mem_dedup,List.mem_filterMap]

def Shows (toNumeric : String → Option ν) (features : List String) (rows : List Cells) (row : Cells) (name : String) : Prop :=
  ∃ column ∈ features, numericLike toNumeric rows column = false ∧ ∃ value, row column = some value ∧ dummyName column value = name

theorem same_source (plain : Unambiguous toNumeric features rows) {one two : Source}
    (first : (name,one) ∈ getDummies toNumeric features rows) (second : (name,two) ∈ getDummies toNumeric features rows) :
    one = two :=
  Option.some.inj (((lookup_of_nodup plain).mpr first).symm.trans ((lookup_of_nodup plain).mpr second))

theorem shows_source (member : row ∈ rows) (shows : Shows toNumeric features rows row name) :
    ∃ column value, (name,.dummy column value) ∈ getDummies toNumeric features rows ∧ row column = some value ∧
      numericLike toNumeric rows column = false := by
  obtain ⟨column,listed,object,value,here,rfl⟩ := shows
  exact ⟨column,value,mem_getDummies.mpr (.inr ⟨column,listed,object,value,⟨row,member,here⟩,rfl,rfl⟩),here,object⟩

theorem numeric_kept (subset : ∀ row ∈ kept, row ∈ rows) {column : String} (numeric : numericLike toNumeric rows column) :
    numericLike toNumeric kept column :=
  List.all_eq_true.mpr fun row member => List.all_eq_true.mp numeric row (subset row member)

theorem object_wide (subset : ∀ row ∈ kept, row ∈ rows) {column : String} (object : numericLike toNumeric kept column = false) :
    numericLike toNumeric rows column = false := by
  cases numeric : numericLike toNumeric rows column with
  | false => rfl
  | true => exact absurd ((numeric_kept subset numeric).symm.trans object) Bool.true_eq_false.mp

theorem lost_iff : lost toNumeric features rows kept row name ↔ ∃ column ∈ features, numericLike toNumeric rows column = false ∧
    numericLike toNumeric kept column = true ∧ ∃ value, row column = some value ∧ dummyName column value = name := by
  unfold lost changes
  simp only [List.any_eq_true,Bool.and_eq_true,Bool.not_eq_true',Option.any_eq_true,decide_eq_true_eq,and_assoc]

theorem lost_shows (gone : lost toNumeric features rows kept row name) : Shows toNumeric features rows row name := by
  obtain ⟨column,listed,object,_,here⟩ := lost_iff.mp gone
  exact ⟨column,listed,object,here⟩

theorem shows_or_lost (shows : Shows toNumeric features rows row name) :
    lost toNumeric features rows kept row name ∨ Shows toNumeric features kept row name := by
  obtain ⟨column,listed,object,here⟩ := shows
  cases numeric : numericLike toNumeric kept column with
  | true => exact .inl (lost_iff.mpr ⟨column,listed,object,numeric,here⟩)
  | false => exact .inr ⟨column,listed,numeric,here⟩

theorem shows_kept (subset : ∀ row ∈ kept, row ∈ rows) (shows : Shows toNumeric features kept row name) :
    Shows toNumeric features rows row name := by
  obtain ⟨column,listed,object,here⟩ := shows
  exact ⟨column,listed,object_wide subset object,here⟩

theorem numeric_hides (plain : Unambiguous toNumeric features rows) (member : row ∈ rows) (listed : name ∈ features)
    (numeric : numericLike toNumeric rows name) : ¬ Shows toNumeric features rows row name := by
  intro shows
  obtain ⟨_,_,source,_⟩ := shows_source member shows
  cases same_source plain (mem_getDummies.mpr (.inl ⟨listed,numeric,rfl⟩)) source

theorem lost_hides (plain : Unambiguous toNumeric features rows) (subset : ∀ row ∈ kept, row ∈ rows) (member : row ∈ kept)
    (gone : lost toNumeric features rows kept row name) : ¬ Shows toNumeric features kept row name := by
  rintro ⟨column,listed,object,value,here,named⟩
  have source := subset row member
  obtain ⟨column',listed',object',numeric',value',here',named'⟩ := lost_iff.mp gone
  have one := mem_getDummies.mpr (.inr ⟨column,listed,object_wide subset object,value,⟨row,source,here⟩,named,rfl⟩)
  have two := mem_getDummies.mpr (.inr ⟨column',listed',object',value',⟨row,source,here'⟩,named',rfl⟩)
  cases same_source plain one two
  exact Bool.false_ne_true (object.symm.trans numeric')

end Names
section Values
variable {ν : Type} [Zero ν] [One ν] {toNumeric : String → Option ν} {features : List String} {rows kept : List Cells}
  {row : Cells} {name : String}

theorem entry_numeric (plain : Unambiguous toNumeric features rows) (listed : name ∈ features)
    (numeric : numericLike toNumeric rows name) :
    entry toNumeric (getDummies toNumeric features rows) row name = ((row name).bind toNumeric).getD 0 := by
  rw [entry,(lookup_of_nodup plain).mpr (mem_getDummies.mpr (.inl ⟨listed,numeric,rfl⟩))]
  rfl

theorem entry_shown (plain : Unambiguous toNumeric features rows) (member : row ∈ rows)
    (shows : Shows toNumeric features rows row name) : entry toNumeric (getDummies toNumeric features rows) row name = 1 := by
  obtain ⟨column,value,source,here,_⟩ := shows_source member shows
  rw [entry,(lookup_of_nodup plain).mpr source,Option.bind_some,Source.value,if_pos here]
  rfl

theorem entry_other (plain : Unambiguous toNumeric features rows) (other : ¬ (name ∈ features ∧ numericLike toNumeric rows name))
    (hidden : ¬ Shows toNumeric features rows row name) : entry toNumeric (getDummies toNumeric features rows) row name = 0 := by
  rw [entry]
  cases found : (getDummies toNumeric features rows).lookup name with
  | none => rfl
  | some source =>
    rcases mem_getDummies.mp ((lookup_of_nodup plain).mp found) with ⟨listed,numeric,_⟩ | ⟨column,listed,object,value,_,named,rfl⟩
    · exact absurd ⟨listed,numeric⟩ other
    · have apart : row column ≠ some value := fun here => hidden ⟨column,listed,object,value,here,named⟩
      rw [Option.bind_some,Source.value,if_neg apart]
      rfl

theorem entry_agrees_iff (subset : ∀ row ∈ kept, row ∈ rows) (plain : Unambiguous toNumeric features rows)
    (plainKept : Unambiguous toNumeric features kept) (member : row ∈ kept) :
    entry toNumeric (getDummies toNumeric features kept) row name = entry toNumeric (getDummies toNumeric features rows) row name ↔
      gained toNumeric features rows kept row name = if lost toNumeric features rows kept row name then 1 else 0 := by
  have inRows := subset row member
  by_cases wide : name ∈ features ∧ numericLike toNumeric rows name
  · obtain ⟨listed,numeric⟩ := wide
    have hidden := numeric_hides plain inRows listed numeric
    have intact : ¬ lost toNumeric features rows kept row name := fun gone => hidden (lost_shows gone)
    have unchanged : gained toNumeric features rows kept row name = 0 := if_neg fun both => by
      simp [changes,numeric] at both
    rw [entry_numeric plain listed numeric,entry_numeric plainKept listed (numeric_kept subset numeric),unchanged,if_neg intact]
    exact iff_of_true rfl rfl
  by_cases narrow : name ∈ features ∧ numericLike toNumeric kept name
  · -- the column of this name has become numeric
    obtain ⟨listed,numeric⟩ := narrow
    have object : numericLike toNumeric rows name = false := Bool.eq_false_iff.mpr fun both => wide ⟨listed,both⟩
    have grown : gained toNumeric features rows kept row name = ((row name).bind toNumeric).getD 0 :=
      if_pos ⟨listed,by simp [changes,object,numeric]⟩
    rw [entry_numeric plainKept listed numeric,grown]
    by_cases gone : lost toNumeric features rows kept row name
    · rw [entry_shown plain inRows (lost_shows gone),if_pos gone]
    · have hidden : ¬ Shows toNumeric features rows row name := fun shows =>
        (shows_or_lost shows).elim gone (numeric_hides plainKept member listed numeric)
      rw [entry_other plain wide hidden,if_neg gone]
  · have still : gained toNumeric features rows kept row name = 0 := if_neg fun ⟨listed,both⟩ => narrow ⟨listed,by
      simp [changes] at both
      exact both.2⟩
    rw [still]
    by_cases gone : lost toNumeric features rows kept row name
    · rw [entry_shown plain inRows (lost_shows gone),entry_other plainKept narrow (lost_hides plain subset member gone),if_pos gone]
    · rw [if_neg gone]
      refine iff_of_true ?_ rfl
      by_cases shows : Shows toNumeric features rows row name
      · rw [entry_shown plain inRows shows,entry_shown plainKept member ((shows_or_lost shows).resolve_left gone)]
      · rw [entry_other plain wide shows,entry_other plainKept narrow fun kept => shows (shows_kept subset kept)]

end Values

-- In no frozen column of a kept row does a change of kind show. Where names are
-- ambiguous both encodings have to be refused.
def RowWise {ν : Type} [Zero ν] [One ν] (toNumeric : String → Option ν) (features : List String) (rows kept : List Cells)
    (finalFeatureColumns : List String) : Prop :=
  (¬ Unambiguous toNumeric features rows ∧ ¬ Unambiguous toNumeric features kept) ∨
    Unambiguous toNumeric features rows ∧ Unambiguous toNumeric features kept ∧ ∀ row ∈ kept, ∀ name ∈ finalFeatureColumns,
      gained toNumeric features rows kept row name = if lost toNumeric features rows kept row name then 1 else 0

-- Encoding the kept rows is keeping rows of the encoding where no change of kind shows.
theorem rowwise_iff {ν : Type} [Zero ν] [One ν] (toNumeric : String → Option ν) (frame : Frame) (mask : List Bool)
    (excludedColumns finalFeatureColumns : List String) :
    buildFeatureMatrix toNumeric (frame.loc mask) excludedColumns finalFeatureColumns =
        (buildFeatureMatrix toNumeric frame excludedColumns finalFeatureColumns).map (loc mask) ↔
      RowWise toNumeric (featureColumns frame.columns excludedColumns) frame.rows (loc mask frame.rows) finalFeatureColumns := by
  have subset : ∀ row ∈ loc mask frame.rows, row ∈ frame.rows := fun row => mem_of_loc
  unfold RowWise buildFeatureMatrix Frame.loc
  dsimp only
  by_cases plain : Unambiguous toNumeric (featureColumns frame.columns excludedColumns) frame.rows
  · by_cases plainKept : Unambiguous toNumeric (featureColumns frame.columns excludedColumns) (loc mask frame.rows)
    · rw [if_pos plain,if_pos plainKept,Option.map_some,Option.some.injEq,loc_map,List.map_inj_left]
      simp only [plain,plainKept,not_true,false_and,true_and,false_or,List.map_inj_left]
      exact forall₂_congr fun row member => forall₂_congr fun name _ => entry_agrees_iff subset plain plainKept member
    · rw [if_pos plain,if_neg plainKept]
      simp [plain,plainKept]
  · by_cases plainKept : Unambiguous toNumeric (featureColumns frame.columns excludedColumns) (loc mask frame.rows)
    · rw [if_neg plain,if_pos plainKept]
      simp [plain,plainKept]
    · rw [if_neg plain,if_neg plainKept]
      simp [plain,plainKept]

theorem rowwise_of_kinds {ν : Type} [Zero ν] [One ν] {toNumeric : String → Option ν} {features final : List String}
    {rows kept : List Cells} (plain : Unambiguous toNumeric features rows) (plainKept : Unambiguous toNumeric features kept)
    (same : ∀ column, numericLike toNumeric kept column = numericLike toNumeric rows column) :
    RowWise toNumeric features rows kept final := by
  have unchanged : ∀ column, changes toNumeric rows kept column = false := by
    intro column
    rw [changes,same]
    cases numericLike toNumeric rows column <;> rfl
  exact .inr ⟨plain,plainKept,fun row _ name _ => by simp [gained,lost,unchanged]⟩

theorem training_matrices {ν : Type} [Zero ν] [One ν] [DecidableEq ν] {toNumeric : String → Option ν}
    {excludedColumns : List String} {trainDf valDf testDf : Frame} {m : FeatureMatrices ν}
    (done : buildFeatureMatrices toNumeric excludedColumns trainDf valDf testDf = some m) :
    buildFeatureMatrix toNumeric trainDf excludedColumns m.finalFeatureColumns = some m.train ∧
    buildFeatureMatrix toNumeric {valDf with columns := trainDf.columns} excludedColumns m.finalFeatureColumns = some m.val ∧
    buildFeatureMatrix toNumeric {testDf with columns := trainDf.columns} excludedColumns m.finalFeatureColumns = some m.test := by
  unfold buildFeatureMatrices at done
  dsimp only at done
  split at done
  · rename_i plain
    cases done
    exact ⟨if_pos plain.1,if_pos plain.2.1,if_pos plain.2.2⟩
  · cases done

section Examples

def probes : Frame :=
  ⟨["http_code"],[fun _ => some "200",fun _ => some "timeout",fun _ => some "200"]⟩

def httpCode (value : String) : Option Int := if value = "200" then some 200 else none

theorem code_zero_filled : ¬ ∀ (toNumeric : String → Option Int) (frame : Frame) (mask : List Bool)
    (excludedColumns finalFeatureColumns : List String),
    buildFeatureMatrix toNumeric (frame.loc mask) excludedColumns finalFeatureColumns =
      (buildFeatureMatrix toNumeric frame excludedColumns finalFeatureColumns).map (loc mask) := by
  intro always
  have same := always httpCode probes [true,false,true] [] ["http_code_200","http_code_timeout"]
  revert same
  decide

end Examples
end Aipr.FeatureEncoding
