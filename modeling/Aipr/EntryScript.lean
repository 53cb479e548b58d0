import Mathlib.Algebra.Group.Nat.Defs
import Aipr.SyncerEntry

namespace Aipr.Syncer
open NodeportTc LastWriter

def protoTCP : UInt8 := 6

def annotate (text : String) : Except String α → Except String α
  | .ok value => .ok value
  | .error err => .error (text ++ ": " ++ err)

def ipv4Bytes (value : String) : Except String Be32 :=
  match parseIPv4 value with
  | none => .error "not an IPv4 address"
  | some ip => .ok ip

def portBytes (value : Int32) : Except String Be16 :=
  if value < 1 ∨ value > 65535 then .error "port out of range"
  else .ok ⟨UInt8.ofNat (value.toInt.toNat / 256),UInt8.ofNat value.toInt.toNat⟩

def marshalFrontendKey (nodeIP : String) (nodePort : Int32) : Except String NodePortKey := do
  let ipBytes ← annotate s!"marshal frontend ip {nodeIP}" (ipv4Bytes nodeIP)
  let portBytes ← annotate s!"marshal frontend port {nodePort}" (portBytes nodePort)
  return ⟨ipBytes,portBytes,protoTCP,0⟩

def marshalServiceValue (snatIP : String) (backendCount : Nat) : Except String NodePortValue := do
  let ipBytes ← annotate s!"marshal snat ip {snatIP}" (ipv4Bytes snatIP)
  return ⟨UInt32.ofNat backendCount,0,ipBytes⟩

def marshalBackendValue (backend : Backend) : Except String NodePortBackendValue := do
  let address ← annotate s!"marshal backend ip {backend.address}" (ipv4Bytes backend.address)
  let nodeIP ← annotate s!"marshal backend node ip {backend.nodeIP}" (ipv4Bytes backend.nodeIP)
  let port ← annotate s!"marshal backend port {backend.port}" (portBytes backend.port)
  return ⟨address,port,(0,0),nodeIP⟩

structure Call where
  op : MapOp
  context : Option String

def Call.failed (c : Call) (cause : String) : String :=
  match c.context with
  | none => cause
  | some text => text ++ ": " ++ cause

-- The control flow never depends on what is in the maps: a function is the calls it makes
-- as long as they succeed, and the error it then returns.
structure Script where
  calls : List Call
  error : Option String

def Script.done : Script := ⟨[],none⟩
def Script.fail (err : String) : Script := ⟨[],some err⟩

def Script.andThen (first second : Script) : Script :=
  match first.error with
  | some err => ⟨first.calls,some err⟩
  | none => ⟨first.calls ++ second.calls,second.error⟩

def Script.all : List Script → Script
  | [] => .done
  | first :: rest => first.andThen (Script.all rest)

def Script.writes (s : Script) : List (Write Cell Word) := s.calls.filterMap fun c => c.op.write

def emit (dryRun : Bool) (op : MapOp) (context : String) : Script :=
  if dryRun then .done else ⟨[⟨op,some context⟩],none⟩

def NodePortEntry.title (e : NodePortEntry) : String := s!"{e.id.nameSpace}/{e.id.name}:{e.id.nodePort}"

def updateConfig (dryRun : Bool) (config : DeliveryConfig) : Script :=
  if dryRun then .done else ⟨[⟨.updateConfig config,none⟩],none⟩

def upsertBackends (dryRun : Bool) (e : NodePortEntry) (frontendKey : NodePortKey) : Nat → List Backend → Script
  | _,[] => .done
  | index,backend :: rest =>
    match marshalBackendValue backend with
    | .error err => .fail err
    | .ok backendValue =>
      (emit dryRun (.updateBackend ⟨frontendKey,UInt32.ofNat index⟩ backendValue)
        s!"update backend map for {e.title} slot={index}").andThen (upsertBackends dryRun e frontendKey (index + 1) rest)

def upsertEntry (dryRun : Bool) (e : NodePortEntry) : Script :=
  match marshalFrontendKey e.nodeIP e.id.nodePort with
  | .error err => .fail err
  | .ok frontendKey =>
    match marshalServiceValue e.snatIP e.backends.length with
    | .error err => .fail err
    | .ok serviceValue =>
      (emit dryRun (.updateService frontendKey serviceValue) s!"update service map for {e.title}").andThen
        (upsertBackends dryRun e frontendKey 0 e.backends)

def deleteEntry (dryRun : Bool) (e : NodePortEntry) : Script :=
  match marshalFrontendKey e.nodeIP e.id.nodePort with
  | .error err => .fail err
  | .ok frontendKey =>
    if dryRun then .done
    else
      ⟨(List.range e.backends.length).map (fun index =>
          ⟨.deleteBackend ⟨frontendKey,UInt32.ofNat index⟩,some s!"delete backend map for {e.title} slot={index}"⟩) ++
        [⟨.deleteService frontendKey,some s!"delete service map for {e.title}"⟩,
         ⟨.deleteRRState frontendKey,some s!"delete rr-state map for {e.title}"⟩],none⟩

-- The key under which the datapath finds the entry.
def NodePortEntry.frontend (e : NodePortEntry) : Option NodeportKey :=
  (marshalFrontendKey e.nodeIP e.id.nodePort).toOption.map NodePortKey.toC

section Scripts

@[simp] theorem writes_done : Script.done.writes = [] := rfl
@[simp] theorem writes_fail (err : String) : (Script.fail err).writes = [] := rfl

theorem calls_andThen (first second : Script) :
    (first.andThen second).calls = first.calls ++ if first.error = none then second.calls else [] := by
  unfold Script.andThen
  split
  · rename_i err failed
    simp [failed]
  · rename_i succeeded
    simp [succeeded]

theorem writes_andThen (first second : Script) :
    (first.andThen second).writes = first.writes ++ if first.error = none then second.writes else [] := by
  rw [Script.writes,calls_andThen,List.filterMap_append]
  split <;> rfl

theorem error_andThen (first second : Script) :
    (first.andThen second).error = none ↔ first.error = none ∧ second.error = none := by
  unfold Script.andThen
  split
  · rename_i err failed
    simp [failed]
  · rename_i succeeded
    simp [succeeded]

@[simp] theorem writes_emit (op : MapOp) (context : String) :
    (emit false op context).writes = op.write.toList := by
  simp only [emit,Bool.false_eq_true,if_false,Script.writes,List.filterMap_cons,List.filterMap_nil]
  cases op.write <;> rfl

@[simp] theorem error_emit (dryRun : Bool) (op : MapOp) (context : String) : (emit dryRun op context).error = none := by
  unfold emit
  split <;> rfl

theorem portBytes_range {port : Int32} {x : Be16} (done : portBytes port = .ok x) :
    1 ≤ port.toInt ∧ port.toInt ≤ 65535 ∧ x = ⟨UInt8.ofNat (port.toInt.toNat / 256),UInt8.ofNat port.toInt.toNat⟩ := by
  unfold portBytes at done
  split at done
  · cases done
  · rename_i inside
    rw [gt_iff_lt,Int32.lt_iff_toInt_lt,Int32.lt_iff_toInt_lt] at inside
    have one : (1 : Int32).toInt = 1 := rfl
    have most : (65535 : Int32).toInt = 65535 := rfl
    rw [one,most] at inside
    exact ⟨by omega,by omega,(Except.ok.inj done).symm⟩

theorem portBytes_ntohs {port : Int32} {x : Be16} (done : portBytes port = .ok x) : port.toInt = ntohs x := by
  obtain ⟨low,high,rfl⟩ := portBytes_range done
  simp only [ntohs,UInt8.toNat_ofNat']
  omega

theorem portBytes_injective {a b : Int32} {x : Be16} (left : portBytes a = .ok x) (right : portBytes b = .ok x) : a = b := by
  obtain ⟨lowA,highA,bytesA⟩ := portBytes_range left
  obtain ⟨lowB,highB,bytesB⟩ := portBytes_range right
  have bytes := bytesA.symm.trans bytesB
  have high := congrArg (fun x => x.b0.toNat) bytes
  have low := congrArg (fun x => x.b1.toNat) bytes
  simp only [UInt8.toNat_ofNat'] at high low
  apply Int32.toInt_inj.mp
  omega

theorem annotate_ok {text : String} {result : Except String α} {value : α} :
    annotate text result = .ok value ↔ result = .ok value := by
  cases result with
  | ok other => rfl
  | error err => exact ⟨(fun impossible => by cases impossible),(fun impossible => by cases impossible)⟩

theorem ipv4Bytes_ok {value : String} {ip : Be32} : ipv4Bytes value = .ok ip ↔ parseIPv4 value = some ip := by
  unfold ipv4Bytes
  cases parsed : parseIPv4 value with
  | none => exact ⟨(fun impossible => by cases impossible),(fun impossible => by cases impossible)⟩
  | some other => exact ⟨fun same => congrArg some (Except.ok.inj same),fun same => congrArg Except.ok (Option.some.inj same)⟩

theorem bind_ok {ε : Type} {first : Except ε α} {next : α → Except ε β} {value : β} :
    first >>= next = .ok value ↔ ∃ middle, first = .ok middle ∧ next middle = .ok value := by
  cases first with
  | error err => exact ⟨(fun impossible => by cases impossible),fun ⟨_,impossible,_⟩ => by cases impossible⟩
  | ok middle => exact ⟨fun same => ⟨middle,rfl,same⟩,fun ⟨_,here,same⟩ => by cases here; exact same⟩

theorem marshalFrontendKey_ok {nodeIP : String} {nodePort : Int32} {key : NodePortKey} :
    marshalFrontendKey nodeIP nodePort = .ok key ↔
      ∃ ip port, parseIPv4 nodeIP = some ip ∧ portBytes nodePort = .ok port ∧ key = ⟨ip,port,protoTCP,0⟩ := by
  simp only [marshalFrontendKey,bind_ok,annotate_ok,ipv4Bytes_ok]
  constructor
  · rintro ⟨ip,parsed,port,ranged,same⟩
    exact ⟨ip,port,parsed,ranged,(Except.ok.inj same).symm⟩
  · rintro ⟨ip,port,parsed,ranged,rfl⟩
    exact ⟨ip,parsed,port,ranged,rfl⟩

theorem marshalServiceValue_ok {snatIP : String} {count : Nat} {value : NodePortValue} :
    marshalServiceValue snatIP count = .ok value ↔ ∃ ip, parseIPv4 snatIP = some ip ∧ value = ⟨UInt32.ofNat count,0,ip⟩ := by
  simp only [marshalServiceValue,bind_ok,annotate_ok,ipv4Bytes_ok]
  constructor
  · rintro ⟨ip,parsed,same⟩
    exact ⟨ip,parsed,(Except.ok.inj same).symm⟩
  · rintro ⟨ip,parsed,rfl⟩
    exact ⟨ip,parsed,rfl⟩

theorem marshalBackendValue_ok {backend : Backend} {value : NodePortBackendValue} :
    marshalBackendValue backend = .ok value ↔ ∃ address nodeIP port, parseIPv4 backend.address = some address ∧
      parseIPv4 backend.nodeIP = some nodeIP ∧ portBytes backend.port = .ok port ∧ value = ⟨address,port,(0,0),nodeIP⟩ := by
  simp only [marshalBackendValue,bind_ok,annotate_ok,ipv4Bytes_ok]
  constructor
  · rintro ⟨address,parsed,nodeIP,parsed',port,ranged,same⟩
    exact ⟨address,nodeIP,port,parsed,parsed',ranged,(Except.ok.inj same).symm⟩
  · rintro ⟨address,nodeIP,port,parsed,parsed',ranged,rfl⟩
    exact ⟨address,parsed,nodeIP,parsed',port,ranged,rfl⟩

theorem key_of_frontend {e : NodePortEntry} {key : NodeportKey} (found : e.frontend = some key) :
    ∃ goKey, marshalFrontendKey e.nodeIP e.id.nodePort = .ok goKey ∧ goKey.toC = key := by
  obtain ⟨goKey,marshalled,same⟩ := Option.map_eq_some_iff.mp found
  cases result : marshalFrontendKey e.nodeIP e.id.nodePort with
  | error err =>
    rw [result] at marshalled
    cases marshalled
  | ok other =>
    rw [result] at marshalled
    exact ⟨other,rfl,(congrArg NodePortKey.toC (Option.some.inj marshalled)).trans same⟩

theorem frontend_nodePort {e other : NodePortEntry} {key : NodeportKey} (left : e.frontend = some key)
    (right : other.frontend = some key) : e.id.nodePort = other.id.nodePort := by
  have ported : ∀ {e : NodePortEntry}, e.frontend = some key → portBytes e.id.nodePort = .ok key.port := by
    intro e found
    obtain ⟨goKey,marshalled,rfl⟩ := key_of_frontend found
    obtain ⟨_,port,_,ranged,rfl⟩ := marshalFrontendKey_ok.mp marshalled
    exact ranged
  exact portBytes_injective (ported left) (ported right)

-- What the loop writes, also when it stops at a backend it cannot marshal.
theorem upsertBackends_source {e : NodePortEntry} {key : NodePortKey} {backends : List Backend} {index : Nat}
    {write : Write Cell Word} (member : write ∈ (upsertBackends false e key index backends).writes) :
    ∃ i backend value, backends[i]? = some backend ∧ marshalBackendValue backend = .ok value ∧
      write = (.backend ⟨key.toC,UInt32.ofNat (index + i)⟩,some (.backend value.toC)) := by
  induction backends generalizing index with
  | nil => cases member
  | cons backend rest ih =>
    unfold upsertBackends at member
    split at member
    · cases member
    · rename_i value marshalled
      rw [writes_andThen,writes_emit,if_pos (error_emit _ _ _)] at member
      rcases List.mem_append.mp member with here | later
      · exact ⟨0,backend,value,rfl,marshalled,List.mem_singleton.mp here⟩
      · obtain ⟨i,other,value',found,marshalled',same⟩ := ih later
        refine ⟨i + 1,other,value',found,marshalled',?_⟩
        rw [same,Nat.add_assoc,Nat.add_comm 1 i]

theorem upsertBackends_all {e : NodePortEntry} {key : NodePortKey} {backends : List Backend} {index : Nat}
    (succeeded : (upsertBackends false e key index backends).error = none) (i : Nat) (low : i < backends.length) :
    ∃ value, marshalBackendValue (backends[i]) = .ok value ∧
      ((.backend ⟨key.toC,UInt32.ofNat (index + i)⟩,some (.backend value.toC)) : Write Cell Word) ∈
        (upsertBackends false e key index backends).writes := by
  induction backends generalizing index i with
  | nil => exact absurd low (Nat.not_lt_zero i)
  | cons backend rest ih =>
    unfold upsertBackends at succeeded ⊢
    split at succeeded
    · cases succeeded
    · rename_i value marshalled
      have ended := ((error_andThen _ _).mp succeeded).2
      rw [writes_andThen,writes_emit,if_pos (error_emit _ _ _)]
      cases i with
      | zero => exact ⟨value,marshalled,List.mem_append_left _ List.mem_cons_self⟩
      | succ i =>
        obtain ⟨value',marshalled',member⟩ := ih ended i (Nat.lt_of_succ_lt_succ low)
        refine ⟨value',marshalled',List.mem_append_right _ ?_⟩
        rwa [Nat.add_assoc,Nat.add_comm 1 i] at member

theorem upsert_source {e : NodePortEntry} {write : Write Cell Word} (member : write ∈ (upsertEntry false e).writes) :
    ∃ key, marshalFrontendKey e.nodeIP e.id.nodePort = .ok key ∧
      ((∃ value, marshalServiceValue e.snatIP e.backends.length = .ok value ∧
          write = (.service key.toC,some (.service value.toC))) ∨
        ∃ i backend value, e.backends[i]? = some backend ∧ marshalBackendValue backend = .ok value ∧
          write = (.backend ⟨key.toC,UInt32.ofNat i⟩,some (.backend value.toC))) := by
  unfold upsertEntry at member
  split at member
  · cases member
  · rename_i key found
    split at member
    · cases member
    · rename_i value counted
      rw [writes_andThen,writes_emit,if_pos (error_emit _ _ _)] at member
      refine ⟨key,found,?_⟩
      rcases List.mem_append.mp member with here | slot
      · exact .inl ⟨value,counted,List.mem_singleton.mp here⟩
      · obtain ⟨i,backend,value,at_i,marshalled,same⟩ := upsertBackends_source slot
        rw [Nat.zero_add] at same
        exact .inr ⟨i,backend,value,at_i,marshalled,same⟩

def NodePortEntry.Marshals (e : NodePortEntry) : Prop := (upsertEntry false e).error = none

instance (e : NodePortEntry) : Decidable e.Marshals := inferInstanceAs (Decidable (_ = _))

theorem upsert_all {e : NodePortEntry} (valid : e.Marshals) :
    ∃ key value, marshalFrontendKey e.nodeIP e.id.nodePort = .ok key ∧
      marshalServiceValue e.snatIP e.backends.length = .ok value ∧
      (.service key.toC,some (.service value.toC)) ∈ (upsertEntry false e).writes ∧
      ∀ i (low : i < e.backends.length), ∃ slot, marshalBackendValue e.backends[i] = .ok slot ∧
        (.backend ⟨key.toC,UInt32.ofNat i⟩,some (.backend slot.toC)) ∈ (upsertEntry false e).writes := by
  unfold NodePortEntry.Marshals at valid
  unfold upsertEntry at valid ⊢
  split at valid
  · cases valid
  · rename_i key found
    split at valid
    · cases valid
    · rename_i value counted
      have ended := ((error_andThen _ _).mp valid).2
      rw [writes_andThen,writes_emit,if_pos (error_emit _ _ _)]
      refine ⟨key,value,found,counted,List.mem_append_left _ List.mem_cons_self,?_⟩
      intro i low
      obtain ⟨slot,marshalled,member⟩ := upsertBackends_all ended i low
      rw [Nat.zero_add] at member
      exact ⟨slot,marshalled,List.mem_append_right _ member⟩

theorem dry_backends (key : NodePortKey) (index : Nat) (backends : List Backend) :
    (upsertBackends true e key index backends).calls = [] := by
  induction backends generalizing index with
  | nil => rfl
  | cons b rest ih =>
    unfold upsertBackends
    split
    · rfl
    · exact ih (index + 1)

theorem dry_upsert (e : NodePortEntry) : (upsertEntry true e).calls = [] := by
  unfold upsertEntry
  split
  · rfl
  · split
    · rfl
    · exact dry_backends _ _ _

theorem delete_source {e : NodePortEntry} {write : Write Cell Word} :
    write ∈ (deleteEntry false e).writes ↔ ∃ key, marshalFrontendKey e.nodeIP e.id.nodePort = .ok key ∧
      ((∃ i < e.backends.length, write = (.backend ⟨key.toC,UInt32.ofNat i⟩,none)) ∨ write = (.service key.toC,none)) := by
  unfold deleteEntry
  split
  · rename_i err failed
    rw [failed]
    constructor
    · intro member
      cases member
    · rintro ⟨_,impossible,_⟩
      cases impossible
  · rename_i key found
    simp only [Script.writes,Bool.false_eq_true,if_false,List.filterMap_append,List.filterMap_map,List.mem_append,
      List.mem_filterMap,List.mem_range,Function.comp_apply,MapOp.write,Option.some.injEq,List.filterMap_cons,
      List.filterMap_nil,List.mem_singleton]
    constructor
    · rintro (⟨i,low,same⟩ | same)
      · exact ⟨key,found,.inl ⟨i,low,same.symm⟩⟩
      · exact ⟨key,found,.inr same⟩
    · rintro ⟨other,found',kind⟩
      cases Except.ok.inj (found.symm.trans found')
      rcases kind with ⟨i,low,same⟩ | same
      · exact .inl ⟨i,low,same.symm⟩
      · exact .inr same

theorem delete_error (dryRun : Bool) (e : NodePortEntry) : (deleteEntry dryRun e).error = none ↔ e.frontend ≠ none := by
  unfold deleteEntry NodePortEntry.frontend
  split
  · rename_i err failed
    simp [Script.fail,failed,Except.toOption]
  · rename_i key found
    split <;> simp [Script.done,found,Except.toOption]

theorem frontend_of_key {e : NodePortEntry} {key : NodePortKey} (found : marshalFrontendKey e.nodeIP e.id.nodePort = .ok key) :
    e.frontend = some key.toC := by
  rw [NodePortEntry.frontend,found]
  rfl

theorem delete_accepts {e : NodePortEntry} (valid : e.Marshals) : (deleteEntry false e).error = none := by
  obtain ⟨key,_,found,_,_,_⟩ := upsert_all valid
  rw [delete_error,frontend_of_key found]
  exact Option.some_ne_none _

theorem upsert_local {e : NodePortEntry} {write : Write Cell Word} (member : write ∈ (upsertEntry false e).writes) :
    e.frontend = some write.1.frontend := by
  obtain ⟨key,found,⟨_,_,rfl⟩ | ⟨_,_,_,_,_,rfl⟩⟩ := upsert_source member
  · exact frontend_of_key found
  · exact frontend_of_key found

theorem delete_local {e : NodePortEntry} {write : Write Cell Word} (member : write ∈ (deleteEntry false e).writes) :
    e.frontend = some write.1.frontend := by
  obtain ⟨key,found,⟨_,_,rfl⟩ | rfl⟩ := delete_source.mp member
  · exact frontend_of_key found
  · exact frontend_of_key found

def entryCells (e : NodePortEntry) : View Cell Word := replay blank (upsertEntry false e).writes

-- The delete clears everything the upsert of the same entry can have written.
theorem delete_clears {e : NodePortEntry} {view : View Cell Word} {cell : Cell} (encoded : view cell = entryCells e cell) :
    replay view (deleteEntry false e).writes cell = none := by
  rcases replay_cell (deleteEntry false e).writes cell with ⟨apart,unchanged⟩ | ⟨content,member,fixed⟩
  · rw [unchanged view,encoded]
    rcases replay_cell (upsertEntry false e).writes cell with ⟨_,blank⟩ | ⟨content,member,_⟩
    · exact blank _
    · obtain ⟨key,found,⟨value,_,same⟩ | ⟨i,backend,value,at_i,_,same⟩⟩ := upsert_source member
      · have deleted : (Cell.service key.toC,(none : Option Word)) ∈ (deleteEntry false e).writes :=
          delete_source.mpr ⟨key,found,.inr rfl⟩
        exact (apart _ deleted (congrArg Prod.fst same).symm).elim
      · have low : i < e.backends.length := (List.getElem?_eq_some_iff.mp at_i).1
        have deleted : (Cell.backend ⟨key.toC,UInt32.ofNat i⟩,(none : Option Word)) ∈ (deleteEntry false e).writes :=
          delete_source.mpr ⟨key,found,.inl ⟨i,low,rfl⟩⟩
        exact (apart _ deleted (congrArg Prod.fst same).symm).elim
  · rw [fixed view]
    obtain ⟨_,_,⟨_,_,same⟩ | same⟩ := delete_source.mp member
    · exact congrArg Prod.snd same
    · exact congrArg Prod.snd same

theorem upsert_outside {e : NodePortEntry} {cell : Cell} (apart : e.frontend ≠ some cell.frontend) (view : View Cell Word) :
    replay view (upsertEntry false e).writes cell = view cell := by
  refine replay_outside (fun write member same => apart ?_) view
  rw [← same]
  exact upsert_local member

theorem delete_outside {e : NodePortEntry} {cell : Cell} (apart : e.frontend ≠ some cell.frontend) (view : View Cell Word) :
    replay view (deleteEntry false e).writes cell = view cell := by
  refine replay_outside (fun write member same => apart ?_) view
  rw [← same]
  exact delete_local member

theorem entry_service {e : NodePortEntry} {key : NodeportKey} (valid : e.Marshals) (found : e.frontend = some key) :
    ∃ ip, parseIPv4 e.snatIP = some ip ∧
      entryCells e (.service key) = some (.service ⟨UInt32.ofNat e.backends.length,0,ip⟩) := by
  obtain ⟨goKey,value,marshalled,counted,member,_⟩ := upsert_all valid
  cases Option.some.inj ((frontend_of_key marshalled).symm.trans found)
  obtain ⟨ip,parsed,rfl⟩ := marshalServiceValue_ok.mp counted
  refine ⟨ip,parsed,?_⟩
  rcases replay_cell (upsertEntry false e).writes (.service goKey.toC) with ⟨apart,_⟩ | ⟨content,other,fixed⟩
  · exact absurd rfl (apart _ member)
  · rw [entryCells,fixed]
    obtain ⟨key',found',⟨value',counted',same⟩ | ⟨_,_,_,_,_,same⟩⟩ := upsert_source other
    · obtain ⟨ip',parsed',rfl⟩ := marshalServiceValue_ok.mp counted'
      cases Option.some.inj (parsed.symm.trans parsed')
      exact congrArg Prod.snd same
    · cases same

theorem entry_slot {e : NodePortEntry} {key : NodeportKey} (valid : e.Marshals) (found : e.frontend = some key)
    (short : e.backends.length ≤ 2^32) (slot : UInt32) :
    (∀ low : slot.toNat < e.backends.length, ∃ value, marshalBackendValue e.backends[slot.toNat] = .ok value ∧
      entryCells e (.backend ⟨key,slot⟩) = some (.backend value.toC)) ∧
    (e.backends.length ≤ slot.toNat → entryCells e (.backend ⟨key,slot⟩) = none) := by
  obtain ⟨goKey,_,marshalled,_,_,slots⟩ := upsert_all valid
  cases Option.some.inj ((frontend_of_key marshalled).symm.trans found)
  -- a write to this slot comes from the backend at its own position
  have source : ∀ content, (Cell.backend ⟨goKey.toC,slot⟩,content) ∈ (upsertEntry false e).writes →
      ∃ backend value, e.backends[slot.toNat]? = some backend ∧ marshalBackendValue backend = .ok value ∧
        content = some (.backend value.toC) := by
    intro content member
    obtain ⟨key',found',⟨_,_,same⟩ | ⟨i,backend,value,at_i,ok,same⟩⟩ := upsert_source member
    · cases same
    · have low := (List.getElem?_eq_some_iff.mp at_i).1
      have position := congrArg Prod.fst same
      simp only [Cell.backend.injEq,NodeportBackendKey.mk.injEq] at position
      have number : slot.toNat = i := by
        rw [position.2,UInt32.toNat_ofNat']
        omega
      rw [number]
      exact ⟨backend,value,at_i,ok,congrArg Prod.snd same⟩
  constructor
  · intro low
    obtain ⟨value,ok,member⟩ := slots slot.toNat low
    rw [UInt32.ofNat_toNat] at member
    refine ⟨value,ok,?_⟩
    rcases replay_cell (upsertEntry false e).writes (.backend ⟨goKey.toC,slot⟩) with ⟨apart,_⟩ | ⟨content,other,fixed⟩
    · exact absurd rfl (apart _ member)
    · obtain ⟨backend,value',at_slot,ok',same⟩ := source content other
      obtain ⟨_,here⟩ := List.getElem?_eq_some_iff.mp at_slot
      rw [here,ok'] at ok
      cases Except.ok.inj ok
      rw [entryCells,fixed,same]
  · intro high
    rcases replay_cell (upsertEntry false e).writes (.backend ⟨goKey.toC,slot⟩) with ⟨_,untouched⟩ | ⟨content,other,_⟩
    · exact untouched blank
    · obtain ⟨backend,_,at_slot,_,_⟩ := source content other
      rw [List.getElem?_eq_none high] at at_slot
      cases at_slot

end Scripts
end Aipr.Syncer
