import Mathlib.Data.List.Nodup
import Aipr.NetIP

namespace Aipr.CsvText
open Syncer (isSpace)

abbrev Field := List Char
abbrev Record := List Field

def special (c : Char) : Bool := c = ',' || c = '"' || c = '\r' || c = '\n'

-- Which fields a writer puts into quotes, an only one of its record or not, and how
-- it ends a record. What needs quotes gets them.
structure Format where
  quotes : Bool → Field → Bool
  terminator : List Char
  adequate : ∀ alone field, field.any special = true → quotes alone field = true
  ends : terminator = ['\n'] ∨ terminator = ['\r','\n']

section Writer

def quoted : Field → List Char
  | [] => ['"']
  | c :: rest => if c = '"' then '"' :: '"' :: quoted rest else c :: quoted rest

variable (f : Format)

def writeField (alone : Bool) (field : Field) : List Char :=
  if f.quotes alone field then '"' :: quoted field else field

def writeFields (alone : Bool) : Record → List Char
  | [] => []
  | [field] => writeField f alone field
  | field :: rest => writeField f alone field ++ ',' :: writeFields alone rest

theorem writeFields_cons (alone : Bool) (field second : Field) (later : Record) :
    writeFields f alone (field :: second :: later) = writeField f alone field ++ ',' :: writeFields f alone (second :: later) := rfl

def writeRecord (r : Record) : List Char := writeFields f (r.length = 1) r ++ f.terminator

def writeRecords (rs : List Record) : List Char := rs.flatMap (writeRecord f)

theorem writeRecords_cons (r : Record) (rs : List Record) : writeRecords f (r :: rs) = writeRecord f r ++ writeRecords f rs :=
  List.flatMap_cons

theorem writeRecords_single (r : Record) : writeRecords f [r] = writeRecord f r := List.append_nil _

theorem writeRecords_append (rs later : List Record) :
    writeRecords f (rs ++ later) = writeRecords f rs ++ writeRecords f later := List.flatMap_append

end Writer

-- The reader that takes a doubled quote for a quote, and no escapes.
inductive Phase where
  | startRecord | startField | inField | inQuotedField | quoteInQuotedField | eatCrnl
deriving DecidableEq, Repr

structure Reader where
  phase : Phase
  fields : Record
  field : Field
deriving DecidableEq, Repr

def Reader.fresh : Reader := ⟨.startRecord,[],[]⟩

def Reader.saveField (s : Reader) (phase : Phase) : Reader := ⟨phase,s.fields ++ [s.field],[]⟩

def Reader.addChar (limit : Nat) (s : Reader) (phase : Phase) (c : Char) : Except String Reader :=
  if s.field.length ≥ limit then .error s!"field larger than field limit ({limit})"
  else .ok ⟨phase,s.fields,s.field ++ [c]⟩

def isNewline (c : Char) : Bool := c = '\n' || c = '\r'

def Reader.startField (limit : Nat) (s : Reader) (c : Char) : Except String Reader :=
  if isNewline c then .ok (s.saveField .eatCrnl)
  else if c = '"' then .ok {s with phase := .inQuotedField}
  else if c = ',' then .ok (s.saveField .startField)
  else s.addChar limit .inField c

def Reader.processChar (limit : Nat) (s : Reader) (c : Char) : Except String Reader :=
  match s.phase with
  | .startRecord => if isNewline c then .ok {s with phase := .eatCrnl} else s.startField limit c
  | .startField => s.startField limit c
  | .inField =>
    if isNewline c then .ok (s.saveField .eatCrnl)
    else if c = ',' then .ok (s.saveField .startField)
    else s.addChar limit .inField c
  | .inQuotedField => if c = '"' then .ok {s with phase := .quoteInQuotedField} else s.addChar limit .inQuotedField c
  | .quoteInQuotedField =>
    if c = '"' then s.addChar limit .inQuotedField c
    else if c = ',' then .ok (s.saveField .startField)
    else if isNewline c then .ok (s.saveField .eatCrnl)
    else s.addChar limit .inField c
  | .eatCrnl =>
    if isNewline c then .ok s
    else .error "new-line character seen in unquoted field - do you need to open the file with newline=''?"

def Reader.processEol (s : Reader) : Reader :=
  match s.phase with
  | .startRecord | .inQuotedField => s
  | .startField | .inField | .quoteInQuotedField => s.saveField .startRecord
  | .eatCrnl => {s with phase := .startRecord}

-- Lines end at either newline character or both together, and at the end of the text.
def endsLine (c : Char) (rest : List Char) : Bool :=
  c = '\n' || (c = '\r' && rest.head? ≠ some '\n') || rest.isEmpty

def yield (r : Record) (out : List Record × Option String) : List Record × Option String := (r :: out.1,out.2)

def readFrom (limit : Nat) : Reader → List Char → List Record × Option String
  | s,[] => if s.field ≠ [] ∨ s.phase = .inQuotedField then ([s.fields ++ [s.field]],none) else ([],none)
  | s,c :: rest =>
    match s.processChar limit c with
    | .error err => ([],some err)
    | .ok s =>
      if endsLine c rest then
        if s.processEol.phase = .startRecord then yield s.processEol.fields (readFrom limit .fresh rest)
        else readFrom limit s.processEol rest
      else readFrom limit s rest

def read (limit : Nat) (text : List Char) : List Record × Option String := readFrom limit .fresh text

section Reading
variable {limit : Nat} {s : Reader} {field : Field} {rest : List Char} {c : Char}

theorem plain_special {c : Char} (plain : special c = false) : c ≠ ',' ∧ c ≠ '"' ∧ isNewline c = false := by
  simp only [special,Bool.or_eq_false_iff,decide_eq_false_iff_not] at plain
  obtain ⟨⟨⟨comma,quote⟩,cr⟩,lf⟩ := plain
  exact ⟨comma,quote,by simp [isNewline,cr,lf]⟩

theorem inside_line (inside : isNewline c = false) (more : rest ≠ []) : endsLine c rest = false := by
  simp only [isNewline,Bool.or_eq_false_iff,decide_eq_false_iff_not] at inside
  simp [endsLine,inside.1,inside.2,more]

theorem read_char {next : Reader} (inside : endsLine c rest = false) (done : s.processChar limit c = .ok next) :
    readFrom limit s (c :: rest) = readFrom limit next rest := by
  rw [readFrom,done]
  simp [inside]

theorem addChar_ok (room : s.field.length < limit) (phase : Phase) :
    s.addChar limit phase c = .ok ⟨phase,s.fields,s.field ++ [c]⟩ := if_neg (Nat.not_le.mpr room)

def Open (s : Reader) : Prop := s.phase = .inField ∨ (s.phase = .startField ∨ s.phase = .startRecord) ∧ s.field = []

theorem open_plain (here : Open s) (plain : special c = false) (room : s.field.length < limit) :
    s.processChar limit c = .ok ⟨.inField,s.fields,s.field ++ [c]⟩ := by
  obtain ⟨comma,quote,inside⟩ := plain_special plain
  rcases here with phase | ⟨phase | phase,_⟩
  · simp [Reader.processChar,phase,inside,comma,addChar_ok room]
  · simp [Reader.processChar,Reader.startField,phase,inside,comma,quote,addChar_ok room]
  · simp [Reader.processChar,Reader.startField,phase,inside,comma,quote,addChar_ok room]

def Reader.append (s : Reader) (field : Field) : Reader :=
  if field = [] then s else ⟨.inField,s.fields,s.field ++ field⟩

theorem read_plain (here : Open s) (plain : field.any special = false) (room : s.field.length + field.length ≤ limit)
    (more : rest ≠ []) : readFrom limit s (field ++ rest) = readFrom limit (s.append field) rest := by
  induction field generalizing s with
  | nil => rfl
  | cons c later ih =>
    simp only [List.any_cons,Bool.or_eq_false_iff] at plain
    rw [List.length_cons] at room
    have tail : later ++ rest ≠ [] := List.append_ne_nil_of_right_ne_nil _ more
    rw [List.cons_append,read_char (inside_line (plain_special plain.1).2.2 tail) (open_plain here plain.1 (by omega)),
      ih (.inl rfl) plain.2 (by simp only [List.length_append,List.length_singleton]; omega)]
    congr 1
    cases later <;> simp [Reader.append]

theorem read_quoted {fields : Record} {before : Field} (room : before.length + field.length ≤ limit) (more : rest ≠ []) :
    readFrom limit ⟨.inQuotedField,fields,before⟩ (quoted field ++ rest) =
      readFrom limit ⟨.quoteInQuotedField,fields,before ++ field⟩ rest := by
  have closing : ∀ {tail : List Char}, tail ≠ [] → endsLine '"' tail = false := fun tail => inside_line rfl tail
  induction field generalizing before with
  | nil =>
    rw [List.append_nil]
    exact read_char (closing more) rfl
  | cons c later ih =>
    rw [List.length_cons] at room
    have added : ∀ phase, (⟨phase,fields,before⟩ : Reader).addChar limit .inQuotedField c =
        .ok ⟨.inQuotedField,fields,before ++ [c]⟩ := fun phase => addChar_ok (by dsimp only; omega) _
    have tail : quoted later ++ rest ≠ [] := List.append_ne_nil_of_right_ne_nil _ more
    have next := @ih (before ++ [c]) (by rw [List.length_append,List.length_singleton]; omega)
    rw [List.append_assoc,List.singleton_append] at next
    by_cases quote : c = '"'
    · subst quote
      rw [quoted,if_pos rfl,List.cons_append,List.cons_append,read_char (closing (by simp)) rfl,← next]
      exact read_char (closing tail) (added .quoteInQuotedField)
    · rw [quoted,if_neg quote,List.cons_append,← next,readFrom]
      have went : (⟨.inQuotedField,fields,before⟩ : Reader).processChar limit c = .ok ⟨.inQuotedField,fields,before ++ [c]⟩ := by
        simp only [Reader.processChar,if_neg quote]
        exact added .inQuotedField
      rw [went]
      simp [Reader.processEol]

def Complete (s : Reader) (fields : Record) (field : Field) : Prop :=
  s.fields = fields ∧ s.field = field ∧
    (s.phase = .inField ∨ s.phase = .startField ∨ s.phase = .quoteInQuotedField ∨ s.phase = .startRecord ∧ field = [])

theorem read_comma {fields : Record} (complete : Complete s fields field) (more : rest ≠ []) :
    readFrom limit s (',' :: rest) = readFrom limit ⟨.startField,fields ++ [field],[]⟩ rest := by
  obtain ⟨rfl,rfl,phase⟩ := complete
  refine read_char (inside_line rfl more) ?_
  rcases phase with phase | phase | phase | ⟨phase,_⟩ <;>
    simp [Reader.processChar,Reader.startField,Reader.saveField,phase,isNewline]

theorem read_newline {fields : Record} (complete : Complete s fields field) (begun : s.phase ≠ .startRecord) (newline : isNewline c = true) :
    s.processChar limit c = .ok ⟨.eatCrnl,fields ++ [field],[]⟩ := by
  obtain ⟨rfl,rfl,phase⟩ := complete
  have comma : c ≠ ',' := by
    rintro rfl
    cases newline
  have quote : c ≠ '"' := by
    rintro rfl
    cases newline
  rcases phase with phase | phase | phase | ⟨phase,_⟩
  · simp [Reader.processChar,Reader.saveField,phase,newline]
  · simp [Reader.processChar,Reader.startField,Reader.saveField,phase,newline]
  · simp [Reader.processChar,Reader.saveField,phase,newline,comma,quote]
  · exact absurd phase begun

theorem read_terminator (f : Format) {fields : Record} (complete : Complete s fields field) (begun : s.phase ≠ .startRecord) :
    readFrom limit s (f.terminator ++ rest) = yield (fields ++ [field]) (readFrom limit .fresh rest) := by
  rcases f.ends with ends | ends
  · rw [ends,List.singleton_append,readFrom,read_newline complete begun rfl]
    simp [endsLine,Reader.processEol]
  · rw [ends,List.cons_append,List.singleton_append,
      read_char (by simp [endsLine]) (read_newline complete begun rfl),readFrom]
    simp [endsLine,Reader.processEol,Reader.processChar,isNewline]

theorem read_field (limit : Nat) (f : Format) (alone : Bool) (fields : Record) {phase : Phase} (start : phase = .startField ∨ phase = .startRecord)
    (room : field.length ≤ limit) (more : rest ≠ []) :
    ∃ s, readFrom limit ⟨phase,fields,[]⟩ (writeField f alone field ++ rest) = readFrom limit s rest ∧ Complete s fields field ∧
      (s.phase = .startRecord → phase = .startRecord ∧ field = [] ∧ f.quotes alone [] = false) := by
  unfold writeField
  by_cases quotes : f.quotes alone field = true
  · rw [if_pos quotes,List.cons_append]
    refine ⟨⟨.quoteInQuotedField,fields,[] ++ field⟩,?_,⟨rfl,rfl,.inr (.inr (.inl rfl))⟩,fun impossible => by cases impossible⟩
    rw [← read_quoted (by simpa using room) more]
    refine read_char (inside_line rfl (List.append_ne_nil_of_right_ne_nil _ more)) ?_
    rcases start with rfl | rfl <;> rfl
  · have plain : field.any special = false := by
      rw [← Bool.not_eq_true]
      exact mt (f.adequate alone field) quotes
    rw [if_neg quotes,read_plain (.inr ⟨start,rfl⟩) plain (by simpa using room) more]
    refine ⟨_,rfl,?_⟩
    unfold Reader.append
    by_cases blank : field = []
    · subst blank
      rw [if_pos rfl]
      refine ⟨⟨rfl,rfl,?_⟩,fun here => ⟨here,rfl,by simpa using quotes⟩⟩
      exact start.elim (fun here => .inr (.inl here)) fun here => .inr (.inr (.inr ⟨here,rfl⟩))
    · rw [if_neg blank]
      exact ⟨⟨rfl,rfl,.inl rfl⟩,fun impossible => by cases impossible⟩

-- A record that can be told from a blank line.
structure Writable (f : Format) (limit : Nat) (r : Record) : Prop where
  filled : r ≠ []
  blank : r = [[]] → f.quotes true [] = true
  short : ∀ field ∈ r, field.length ≤ limit

theorem terminator_ne (f : Format) : f.terminator ≠ [] := by
  rcases f.ends with ends | ends <;> simp [ends]

theorem read_fields (f : Format) {alone : Bool} {fields r : Record} {phase : Phase}
    (start : phase = .startField ∨ phase = .startRecord) (filled : r ≠ []) (short : ∀ field ∈ r, field.length ≤ limit)
    (blank : phase = .startRecord → r = [[]] → f.quotes alone [] = true) :
    readFrom limit ⟨phase,fields,[]⟩ (writeFields f alone r ++ (f.terminator ++ rest)) =
      yield (fields ++ r) (readFrom limit .fresh rest) := by
  have ends : f.terminator ++ rest ≠ [] := List.append_ne_nil_of_left_ne_nil (terminator_ne f) _
  induction r generalizing fields phase with
  | nil => exact absurd rfl filled
  | cons field later ih =>
    have room := short field List.mem_cons_self
    cases later with
    | nil =>
      obtain ⟨s,went,complete,unbegun⟩ := read_field limit f alone fields start room ends
      rw [writeFields,went]
      refine read_terminator f complete fun here => ?_
      obtain ⟨begins,rfl,unquoted⟩ := unbegun here
      rw [blank begins rfl] at unquoted
      cases unquoted
    | cons second later =>
      have tail : writeFields f alone (second :: later) ++ (f.terminator ++ rest) ≠ [] :=
        List.append_ne_nil_of_right_ne_nil _ ends
      obtain ⟨s,went,complete,_⟩ := read_field limit f alone fields start room
        (show ',' :: (writeFields f alone (second :: later) ++ (f.terminator ++ rest)) ≠ [] from List.cons_ne_nil _ _)
      rw [writeFields_cons,List.append_assoc,List.cons_append,went,read_comma complete tail,
        ih (.inl rfl) (List.cons_ne_nil _ _) (fun field member => short field (List.mem_cons_of_mem _ member))
          fun impossible => by cases impossible]
      rw [List.append_assoc,List.singleton_append]

-- What is written is read back, whatever is in the fields and whatever follows.
theorem read_record (f : Format) {r : Record} (writable : Writable f limit r) :
    read limit (writeRecord f r ++ rest) = yield r (read limit rest) := by
  rw [writeRecord,List.append_assoc]
  refine (read_fields f (.inr rfl) writable.filled writable.short fun _ same => ?_).trans rfl
  subst same
  exact writable.blank rfl

theorem read_records (f : Format) {rs : List Record} (writable : ∀ r ∈ rs, Writable f limit r) :
    read limit (writeRecords f rs ++ rest) = (rs ++ (read limit rest).1,(read limit rest).2) := by
  induction rs with
  | nil => rfl
  | cons r later ih =>
    rw [writeRecords_cons,List.append_assoc,read_record f (writable r List.mem_cons_self),
      ih fun r member => writable r (List.mem_cons_of_mem _ member)]
    rfl

theorem read_written (f : Format) {rs : List Record} (writable : ∀ r ∈ rs, Writable f limit r) :
    read limit (writeRecords f rs) = (rs,none) := by
  have whole : read limit (writeRecords f rs ++ []) = (rs ++ [],none) := read_records f writable
  rwa [List.append_nil,List.append_nil] at whole

def Reader.Short (limit : Nat) (s : Reader) : Prop := s.field.length ≤ limit ∧ ∀ field ∈ s.fields, field.length ≤ limit

theorem short_save (short : s.Short limit) (phase : Phase) : (s.saveField phase).Short limit := by
  refine ⟨Nat.zero_le _,fun field member => ?_⟩
  rcases List.mem_append.mp member with old | new
  · exact short.2 field old
  · rw [List.mem_singleton.mp new]
    exact short.1

theorem short_phase (short : s.Short limit) (phase : Phase) : Reader.Short limit {s with phase} := short

theorem short_addChar {next : Reader} {phase : Phase} (short : s.Short limit) (done : s.addChar limit phase c = .ok next) : next.Short limit := by
  unfold Reader.addChar at done
  split at done
  · cases done
  · cases done
    refine ⟨?_,short.2⟩
    simp
    omega

theorem short_startField {next : Reader} (short : s.Short limit) (done : s.startField limit c = .ok next) : next.Short limit := by
  unfold Reader.startField at done
  split at done
  · cases done
    exact short_save short _
  · split at done
    · cases done
      exact short_phase short _
    · split at done
      · cases done
        exact short_save short _
      · exact short_addChar short done

theorem short_char {next : Reader} (short : s.Short limit) (done : s.processChar limit c = .ok next) : next.Short limit := by
  unfold Reader.processChar at done
  split at done
  · split at done
    · cases done
      exact short_phase short _
    · exact short_startField short done
  · exact short_startField short done
  · split at done
    · cases done
      exact short_save short _
    · split at done
      · cases done
        exact short_save short _
      · exact short_addChar short done
  · split at done
    · cases done
      exact short_phase short _
    · exact short_addChar short done
  · split at done
    · exact short_addChar short done
    · split at done
      · cases done
        exact short_save short _
      · split at done
        · cases done
          exact short_save short _
        · exact short_addChar short done
  · split at done
    · cases done
      exact short
    · cases done

theorem short_eol (short : s.Short limit) : s.processEol.Short limit := by
  unfold Reader.processEol
  split
  · exact short
  · exact short
  · exact short_save short _
  · exact short_save short _
  · exact short_save short _
  · exact short_phase short _

theorem read_short (short : s.Short limit) (text : List Char) : ∀ r ∈ (readFrom limit s text).1, ∀ field ∈ r, field.length ≤ limit := by
  induction text generalizing s with
  | nil =>
    intro r member
    unfold readFrom at member
    split at member
    · rw [List.mem_singleton.mp member]
      exact (short_save short .startRecord).2
    · cases member
  | cons c later ih =>
    have fresh : Reader.fresh.Short limit := ⟨Nat.zero_le _,fun _ none => absurd none List.not_mem_nil⟩
    intro r member
    unfold readFrom at member
    split at member
    · cases member
    · rename_i next done
      have short := short_char short done
      split at member
      · split at member
        · rcases List.mem_cons.mp member with rfl | rest
          · exact (short_eol short).2
          · exact ih fresh r rest
        · exact ih (short_eol short) r member
      · exact ih short r member

end Reading

-- Rows by the names of their columns. A row that is too short has no value in its
-- last columns; what a row has too much is kept beside them.
structure Dict where
  cells : List (Field × Option Field)
  rest : Option Record
deriving DecidableEq, Repr

section Dicts

def addKey {κ : Type} [DecidableEq κ] (keys : List κ) (key : κ) : List κ := if key ∈ keys then keys else keys ++ [key]

def keysOf {κ : Type} [DecidableEq κ] (names : List κ) : List κ := names.foldl addKey []

def assign (cells : List (Field × Option Field)) (key : Field) (value : Option Field) : List (Field × Option Field) :=
  if key ∈ cells.map Prod.fst then cells.map fun cell => if cell.1 = key then (key,value) else cell
  else cells ++ [(key,value)]

def assignAll (pairs : List (Field × Option Field)) : List (Field × Option Field) :=
  pairs.foldl (fun cells pair => assign cells pair.1 pair.2) []

def dictOf (header row : Record) : Dict where
  cells := assignAll (header.zip (row.map some ++ List.replicate (header.length - row.length) none))
  rest := if header.length < row.length then some (row.drop header.length) else none

-- The first record names the columns; blank lines are passed over.
def dicts : List Record → List Dict
  | [] => []
  | header :: rows => (rows.filter fun row => row ≠ []).map (dictOf header)

def readDicts (limit : Nat) (text : List Char) : Except String (List Dict) :=
  match read limit text with
  | (records,none) => .ok (dicts records)
  | (_,some err) => .error err

def Dict.get? (d : Dict) (key : Field) : Option (Option Field) :=
  (d.cells.find? fun cell => cell.1 = key).map Prod.snd

def Dict.keys (d : Dict) : List Field := d.cells.map Prod.fst

-- What is written for a key: an absent value is the empty text.
def Dict.text (d : Dict) (key : Field) : Field := ((d.get? key).getD none).getD []

-- The record of a dict under the given columns; a key that is no column is an error.
def dictRecord (header : Record) (d : Dict) : Except String Record :=
  if (∀ cell ∈ d.cells, cell.1 ∈ header) ∧ d.rest = none then .ok (header.map d.text)
  else .error "dict contains fields not in fieldnames"

def writeDicts (f : Format) (header : Record) (rows : List Dict) : Except String (List Char) := do
  let records ← rows.mapM (dictRecord header)
  return writeRecords f (header :: records)

def fullDict (header row : Record) : Dict := ⟨header.zip (row.map some),none⟩

theorem assignAll_fresh (before pairs : List (Field × Option Field)) (nodup : ((before ++ pairs).map Prod.fst).Nodup) :
    pairs.foldl (fun cells pair => assign cells pair.1 pair.2) before = before ++ pairs := by
  induction pairs generalizing before with
  | nil => simp
  | cons pair later ih =>
    have absent : pair.1 ∉ before.map Prod.fst := by
      intro member
      rw [List.map_append,List.map_cons,List.nodup_middle,List.nodup_cons] at nodup
      exact nodup.1 (List.mem_append_left _ member)
    rw [List.foldl_cons,assign,if_neg absent,ih (before ++ [pair]) (by simpa using nodup)]
    simp

theorem dictOf_full {header row : Record} (nodup : header.Nodup) (same : row.length = header.length) :
    dictOf header row = fullDict header row := by
  have whole : header.zip (row.map some ++ List.replicate (header.length - row.length) none) = header.zip (row.map some) := by
    rw [same,Nat.sub_self,List.replicate_zero,List.append_nil]
  rw [dictOf,whole,if_neg (by omega),fullDict,assignAll,assignAll_fresh [] _ (by
    rw [List.nil_append,List.map_fst_zip (by simp [same])]
    exact nodup)]
  rfl

theorem full_values {header row : Record} (nodup : header.Nodup) (same : row.length = header.length) :
    header.map (fullDict header row).text = row := by
  induction header generalizing row with
  | nil => exact (List.eq_nil_of_length_eq_zero same).symm
  | cons key keys ih =>
    obtain _ | ⟨value,values⟩ := row
    · cases same
    · obtain ⟨fresh,nodup⟩ := List.nodup_cons.mp nodup
      have later := ih nodup (Nat.succ.inj same)
      rw [List.map_cons]
      refine congrArg₂ List.cons (by simp [fullDict,Dict.text,Dict.get?]) (Eq.trans (List.map_congr_left fun other member => ?_) later)
      have apart : key ≠ other := fun equal => fresh (equal ▸ member)
      simp [fullDict,Dict.text,Dict.get?,apart]

theorem full_record {header row : Record} (nodup : header.Nodup) (same : row.length = header.length) :
    dictRecord header (fullDict header row) = .ok row := by
  rw [dictRecord,if_pos,full_values nodup same]
  refine ⟨fun cell member => ?_,rfl⟩
  exact (List.of_mem_zip member).1

section Unique
variable {κ : Type} [DecidableEq κ] {keys : List κ} {key : κ}

theorem addKey_nodup (nodup : keys.Nodup) : (addKey keys key).Nodup := by
  unfold addKey
  split
  · exact nodup
  · rename_i fresh
    refine List.nodup_append.mpr ⟨nodup,List.nodup_singleton key,fun old present new same => ?_⟩
    rw [List.mem_singleton.mp same]
    exact fun equal => fresh (equal ▸ present)

theorem keysOf_nodup (names : List κ) : (keysOf names).Nodup := by
  have kept : ∀ keys : List κ, keys.Nodup → (names.foldl addKey keys).Nodup := by
    induction names with
    | nil => exact fun _ nodup => nodup
    | cons name later ih => exact fun keys nodup => ih _ (addKey_nodup nodup)
  exact kept [] List.nodup_nil

theorem mem_addKey {other : κ} : key ∈ addKey keys other ↔ key ∈ keys ∨ key = other := by
  unfold addKey
  split
  · rename_i present
    exact ⟨.inl,fun either => either.elim id fun same => same ▸ present⟩
  · rw [List.mem_append,List.mem_singleton]

theorem mem_keysOf {names : List κ} : key ∈ keysOf names ↔ key ∈ names := by
  have kept : ∀ keys : List κ, key ∈ names.foldl addKey keys ↔ key ∈ keys ∨ key ∈ names := by
    induction names with
    | nil => simp
    | cons name later ih =>
      intro keys
      rw [List.foldl_cons,ih,mem_addKey,List.mem_cons,or_assoc]
  rw [keysOf,kept]
  simp

end Unique

section Keys
variable {cells : List (Field × Option Field)} {key other : Field} {value : Option Field}

theorem find_assign : (assign cells key value).find? (fun cell => cell.1 = other) =
    if key = other then some (key,value) else cells.find? fun cell => cell.1 = other := by
  unfold assign
  split
  · rename_i present
    induction cells with
    | nil => cases present
    | cons first later ih =>
      by_cases here : first.1 = key
      · by_cases same : key = other
        · simp [here,same]
        · have passed : first.1 ≠ other := fun equal => same (here.symm.trans equal)
          simp only [List.map_cons,if_pos here,List.find?_cons,decide_eq_false same,decide_eq_false passed,if_neg same]
          by_cases again : key ∈ later.map Prod.fst
          · rw [ih again,if_neg same]
          · refine congrArg (List.find? _) (Eq.trans (List.map_congr_left fun cell member => ?_) (List.map_id later))
            exact if_neg fun equal : cell.1 = key => again (equal ▸ List.mem_map_of_mem member)
      · have later : key ∈ later.map Prod.fst := by
          rcases List.mem_cons.mp present with equal | later
          · exact absurd equal.symm here
          · exact later
        rw [List.map_cons,if_neg here,List.find?_cons,List.find?_cons,ih later]
        by_cases found : first.1 = other
        · simp [found,show key ≠ other from fun equal => here (found.trans equal.symm)]
        · simp [found]
  · rename_i absent
    by_cases same : key = other
    · have passed : cells.find? (fun cell => cell.1 = other) = none := by
        rw [List.find?_eq_none]
        intro cell member equal
        exact absent (List.mem_map.mpr ⟨cell,member,(of_decide_eq_true equal).trans same.symm⟩)
      simp [List.find?_append,passed,same]
    · simp [List.find?_append,same]

theorem text_assign (rest : Option Record) :
    Dict.text ⟨assign cells key value,rest⟩ = Function.update (Dict.text ⟨cells,rest⟩) key (value.getD []) := by
  funext other
  rw [Dict.text,Dict.get?,find_assign]
  by_cases same : key = other
  · simp [same]
  · rw [if_neg same,Function.update_of_ne (Ne.symm same)]
    rfl

theorem keys_assign : (assign cells key value).map Prod.fst = addKey (cells.map Prod.fst) key := by
  unfold assign addKey
  split
  · rw [List.map_map]
    refine List.map_congr_left fun cell _ => ?_
    rw [Function.comp_apply]
    split
    · rename_i same
      exact same.symm
    · rfl
  · simp

theorem keys_assigned (pairs : List (Field × Option Field)) :
    (pairs.foldl (fun cells pair => assign cells pair.1 pair.2) cells).map Prod.fst = (pairs.map Prod.fst).foldl addKey (cells.map Prod.fst) := by
  induction pairs generalizing cells with
  | nil => rfl
  | cons pair later ih =>
    rw [List.foldl_cons,ih,keys_assign]
    rfl

theorem keys_dictOf (header row : Record) : (dictOf header row).keys = keysOf header := by
  rw [Dict.keys,dictOf,assignAll,keys_assigned,List.map_fst_zip (by simp; omega)]
  rfl

theorem mem_assigned {pairs : List (Field × Option Field)} {cell : Field × Option Field}
    (member : cell ∈ pairs.foldl (fun cells pair => assign cells pair.1 pair.2) cells) : cell ∈ cells ∨ cell ∈ pairs := by
  induction pairs generalizing cells with
  | nil => exact .inl member
  | cons pair later ih =>
    rcases ih member with here | later
    · simp only [assign] at here
      split at here
      · obtain ⟨old,present,same⟩ := List.mem_map.mp here
        split at same
        · exact .inr (same ▸ List.mem_cons_self)
        · exact .inl (same ▸ present)
      · rcases List.mem_append.mp here with old | new
        · exact .inl old
        · exact .inr (List.mem_singleton.mp new ▸ List.mem_cons_self)
    · exact .inr (List.mem_cons_of_mem _ later)

theorem text_cell {d : Dict} : d.text key = [] ∨ (key,some (d.text key)) ∈ d.cells := by
  unfold Dict.text Dict.get?
  cases found : d.cells.find? fun cell => cell.1 = key with
  | none => exact .inl rfl
  | some cell =>
    obtain ⟨name,value⟩ := cell
    have same : name = key := of_decide_eq_true (List.find?_some (p := fun cell : Field × Option Field => cell.1 = key) found)
    cases value with
    | none => exact .inl rfl
    | some value => exact .inr (same ▸ List.mem_of_find?_eq_some found)

theorem text_absent {d : Dict} (absent : key ∉ d.keys) : d.text key = [] := by
  rcases @text_cell key d with blank | member
  · exact blank
  · exact absurd (List.mem_map_of_mem member) absent

theorem text_row (header row : Record) : (dictOf header row).text key = [] ∨ (dictOf header row).text key ∈ row := by
  rcases @text_cell key (dictOf header row) with blank | member
  · exact .inl blank
  · rcases mem_assigned member with none | pair
    · cases none
    · rcases List.mem_append.mp (List.of_mem_zip pair).2 with value | filler
      · obtain ⟨field,member,same⟩ := List.mem_map.mp value
        cases same
        exact .inr member
      · cases List.eq_of_mem_replicate filler

theorem text_full {header : Record} (v : Field → Field) :
    (fullDict header (header.map v)).text key = if key ∈ header then v key else [] := by
  unfold fullDict Dict.text Dict.get?
  induction header with
  | nil => rfl
  | cons name later ih =>
    by_cases here : name = key
    · simp [here]
    · simpa [here,Ne.symm here] using ih

theorem text_dictOf {header : Record} (v : Field → Field) :
    (dictOf header (header.map v)).text key = if key ∈ header then v key else [] := by
  have values : ∀ (header : Record) (before : List (Field × Option Field)) (rest : Option Record),
      Dict.text ⟨(header.zip ((header.map v).map some)).foldl (fun cells pair => assign cells pair.1 pair.2) before,rest⟩ key =
        if key ∈ header then v key else Dict.text ⟨before,rest⟩ key := by
    intro header before rest
    induction header generalizing before with
    | nil => rfl
    | cons name later ih =>
      rw [List.map_cons,List.map_cons,List.zip_cons_cons,List.foldl_cons,ih]
      by_cases after : key ∈ later
      · simp [after]
      · rw [if_neg after,text_assign]
        by_cases here : key = name
        · simp [here]
        · simp [after,here]
  have whole : header.zip ((header.map v).map some ++ List.replicate (header.length - (header.map v).length) none) =
      header.zip ((header.map v).map some) := by
    rw [List.length_map,Nat.sub_self,List.replicate_zero,List.append_nil]
  rw [dictOf,assignAll,whole,values]
  rfl

end Keys

structure Table where
  header : Record
  rows : List Record
  nodup : header.Nodup
  filled : header ≠ []
  full : ∀ row ∈ rows, row.length = header.length

def Table.records (t : Table) : List Record := t.header :: t.rows

def Table.dicts (t : Table) : List Dict := t.rows.map (fullDict t.header)

-- One column is enough to tell a row from a blank line when its blank cell is quoted.
structure Table.Writable (t : Table) (f : Format) (limit : Nat) : Prop where
  blank : t.header.length = 1 → f.quotes true [] = true
  short : ∀ r ∈ t.records, ∀ field ∈ r, field.length ≤ limit

theorem table_width {t : Table} {r : Record} (member : r ∈ t.records) : r.length = t.header.length := by
  rcases List.mem_cons.mp member with rfl | row
  · rfl
  · exact t.full r row

theorem table_writable {t : Table} {f : Format} {limit : Nat} (writable : t.Writable f limit) :
    ∀ r ∈ t.records, CsvText.Writable f limit r := by
  intro r member
  have width := table_width member
  refine ⟨?_,?_,writable.short r member⟩
  · rintro rfl
    exact t.filled (List.eq_nil_of_length_eq_zero width.symm)
  · rintro rfl
    exact writable.blank width.symm

theorem dicts_table (t : Table) : CsvText.dicts t.records = t.dicts := by
  rw [Table.records,CsvText.dicts,Table.dicts,List.filter_eq_self.mpr]
  · exact List.map_congr_left fun row member => dictOf_full t.nodup (t.full row member)
  · intro row member
    rw [decide_eq_true_eq]
    rintro rfl
    exact t.filled (List.eq_nil_of_length_eq_zero (t.full [] member).symm)

theorem readDicts_uniform {limit : Nat} {text : List Char} {rows : List Dict} (done : readDicts limit text = .ok rows) :
    ∃ names : Record, (∀ d ∈ rows, d.keys = keysOf names) ∧ (∀ d ∈ rows, ∀ key ∈ d.keys, key.length ≤ limit) ∧
      ∀ d ∈ rows, ∀ key, (d.text key).length ≤ limit := by
  have short : ∀ r ∈ (read limit text).1, ∀ field ∈ r, field.length ≤ limit :=
    read_short ⟨Nat.zero_le _,fun _ none => absurd none List.not_mem_nil⟩ text
  unfold readDicts at done
  split at done
  · rename_i records found
    cases done
    rw [found] at short
    obtain _ | ⟨header,records⟩ := records
    · exact ⟨[],fun _ none => absurd none List.not_mem_nil,fun _ none => absurd none List.not_mem_nil,
        fun _ none => absurd none List.not_mem_nil⟩
    · have keys : ∀ d ∈ CsvText.dicts (header :: records), d.keys = keysOf header := by
        intro d member
        obtain ⟨row,_,rfl⟩ := List.mem_map.mp member
        exact keys_dictOf header row
      refine ⟨header,keys,fun d member key inside => ?_,fun d member key => ?_⟩
      · rw [keys d member] at inside
        exact short header List.mem_cons_self key (mem_keysOf.mp inside)
      · obtain ⟨row,filed,rfl⟩ := List.mem_map.mp member
        rcases @text_row key header row with blank | inside
        · rw [blank]
          exact Nat.zero_le _
        · exact short row (List.mem_cons_of_mem _ (List.mem_filter.mp filed).1) _ inside
  · cases done

-- A table that was written is read back, by column.
theorem readDicts_table {t : Table} {f : Format} {limit : Nat} (writable : t.Writable f limit) :
    readDicts limit (writeRecords f t.records) = .ok t.dicts := by
  rw [readDicts,read_written f (table_writable writable)]
  exact congrArg Except.ok (dicts_table t)

theorem mapM_dicts {header : Record} (nodup : header.Nodup) {rows : List Record} (full : ∀ row ∈ rows, row.length = header.length) :
    (rows.map (fullDict header)).mapM (dictRecord header) = .ok rows := by
  induction rows with
  | nil => rfl
  | cons row later ih =>
    rw [List.map_cons,List.mapM_cons,full_record nodup (full row List.mem_cons_self),
      ih fun row member => full row (List.mem_cons_of_mem _ member)]
    rfl

theorem writeDicts_table (t : Table) (f : Format) : writeDicts f t.header t.dicts = .ok (writeRecords f t.records) := by
  rw [writeDicts,Table.dicts,mapM_dicts t.nodup t.full]
  rfl

end Dicts

section Formats

def fieldNeedsQuotes (field : Field) : Bool :=
  match field with
  | [] => false
  | c :: _ => field = ['\\','.'] || field.any special || isSpace c

-- Go's csv.Writer with its defaults.
def goWriter : Format where
  quotes _ field := fieldNeedsQuotes field
  terminator := ['\n']
  adequate := by
    intro _ field needed
    cases field with
    | nil => cases needed
    | cons c later => simp [fieldNeedsQuotes,needed]
  ends := .inl rfl

-- Python's csv.writer in the excel dialect.
def excel : Format where
  quotes alone field := field.any special || (alone && field.isEmpty)
  terminator := ['\r','\n']
  adequate := by
    intro alone field needed
    rw [needed,Bool.true_or]
  ends := .inr rfl

-- csv.field_size_limit, as it is set at first.
def fieldLimit : Nat := 131072

theorem excel_writable {t : Table} (short : ∀ r ∈ t.records, ∀ field ∈ r, field.length ≤ fieldLimit) :
    t.Writable excel fieldLimit := ⟨fun _ => rfl,short⟩

end Formats
end Aipr.CsvText
