import Aipr.NodeportMaps
import Aipr.NetIP
import Aipr.LastWriter

namespace Aipr.Syncer
open NodeportTc LastWriter

structure ServiceID where
  nameSpace : String
  name : String
  nodePort : Int32
deriving DecidableEq, Repr, Inhabited

structure Backend where
  address : String
  port : Int32
  nodeIP : String
deriving DecidableEq, Repr, Inhabited

structure NodePortEntry where
  id : ServiceID
  nodeIP : String
  snatIP : String
  backends : List Backend
deriving DecidableEq, Repr, Inhabited

-- nodePortEntry.equal, which compares the backends position by position.
def NodePortEntry.equal (e other : NodePortEntry) : Bool :=
  if e.id ≠ other.id ∨ e.nodeIP ≠ other.nodeIP ∨ e.snatIP ≠ other.snatIP then false
  else if e.backends.length ≠ other.backends.length then false
  else (e.backends.zip other.backends).all fun pair => pair.1 = pair.2

theorem equal_iff (e other : NodePortEntry) : e.equal other = true ↔ e = other := by
  have zipped : ∀ one two : List Backend, one.length = two.length →
      ((one.zip two).all fun pair => pair.1 = pair.2) = true → one = two := by
    intro one
    induction one with
    | nil => intro two same _; exact (List.length_eq_zero_iff.mp same.symm).symm
    | cons b rest ih =>
      intro two same all
      cases two with
      | nil => cases same
      | cons c others =>
        simp only [List.zip_cons_cons,List.all_cons,Bool.and_eq_true,decide_eq_true_eq] at all
        rw [all.1,ih others (Nat.succ.inj same) all.2]
  have self : ∀ one : List Backend, ((one.zip one).all fun pair => pair.1 = pair.2) = true := by
    intro one
    induction one with
    | nil => rfl
    | cons b rest ih => simp only [List.zip_cons_cons,List.all_cons,decide_true,Bool.true_and,ih]
  unfold NodePortEntry.equal
  constructor
  · intro same
    split at same
    · cases same
    · rename_i fields
      split at same
      · cases same
      · rename_i length
        push Not at fields length
        cases e
        cases other
        simp only [NodePortEntry.mk.injEq]
        exact ⟨fields.1,fields.2.1,fields.2.2,zipped _ _ length same⟩
  · rintro rfl
    rw [if_neg (by simp),if_neg (by simp)]
    exact self e.backends

structure NodePortKey where
  address : Be32
  port : Be16
  proto : UInt8
  pad : UInt8
deriving DecidableEq, Repr

structure NodePortValue where
  backendCount : UInt32
  flags : UInt32
  snatIP : Be32
deriving DecidableEq, Repr

structure NodePortBackendKey where
  service : NodePortKey
  slot : UInt32
deriving DecidableEq, Repr

structure NodePortBackendValue where
  address : Be32
  port : Be16
  pad : UInt8 × UInt8
  nodeIP : Be32
deriving DecidableEq, Repr

structure DeliveryConfig where
  externalIfindex : UInt32
  localDeliveryIfindex : UInt32
  remoteDeliveryIfindex : UInt32
  routingMode : UInt32
deriving DecidableEq, Repr

def NodePortKey.bytes (k : NodePortKey) : List UInt8 := k.address.bytes ++ k.port.bytes ++ [k.proto,k.pad]
def NodePortValue.bytes (v : NodePortValue) : List UInt8 := bytesLE v.backendCount ++ bytesLE v.flags ++ v.snatIP.bytes
def NodePortBackendKey.bytes (k : NodePortBackendKey) : List UInt8 := k.service.bytes ++ bytesLE k.slot
def NodePortBackendValue.bytes (v : NodePortBackendValue) : List UInt8 :=
  v.address.bytes ++ v.port.bytes ++ [v.pad.1,v.pad.2] ++ v.nodeIP.bytes
def DeliveryConfig.bytes (c : DeliveryConfig) : List UInt8 :=
  bytesLE c.externalIfindex ++ bytesLE c.localDeliveryIfindex ++ bytesLE c.remoteDeliveryIfindex ++ bytesLE c.routingMode

def keyOfBytes : List UInt8 → Option NodeportKey
  | [a0,a1,a2,a3,p0,p1,proto,pad] => some ⟨⟨a0,a1,a2,a3⟩,⟨p0,p1⟩,proto,pad⟩
  | _ => none

def valueOfBytes : List UInt8 → Option NodeportValue
  | [c0,c1,c2,c3,f0,f1,f2,f3,s0,s1,s2,s3] => some ⟨ofBytesLE c0 c1 c2 c3,ofBytesLE f0 f1 f2 f3,⟨s0,s1,s2,s3⟩⟩
  | _ => none

def backendKeyOfBytes : List UInt8 → Option NodeportBackendKey
  | [a0,a1,a2,a3,p0,p1,proto,pad,s0,s1,s2,s3] => some ⟨⟨⟨a0,a1,a2,a3⟩,⟨p0,p1⟩,proto,pad⟩,ofBytesLE s0 s1 s2 s3⟩
  | _ => none

def backendValueOfBytes : List UInt8 → Option NodeportBackendValue
  | [a0,a1,a2,a3,p0,p1,x0,x1,n0,n1,n2,n3] => some ⟨⟨a0,a1,a2,a3⟩,⟨p0,p1⟩,(x0,x1),⟨n0,n1,n2,n3⟩⟩
  | _ => none

def configOfBytes : List UInt8 → Option NodeportConfig
  | [e0,e1,e2,e3,l0,l1,l2,l3,r0,r1,r2,r3,m0,m1,m2,m3] =>
    some ⟨ofBytesLE e0 e1 e2 e3,ofBytesLE l0 l1 l2 l3,ofBytesLE r0 r1 r2 r3,ofBytesLE m0 m1 m2 m3⟩
  | _ => none

def NodePortKey.toC (k : NodePortKey) : NodeportKey := ⟨k.address,k.port,k.proto,k.pad⟩
def NodePortValue.toC (v : NodePortValue) : NodeportValue := ⟨v.backendCount,v.flags,v.snatIP⟩
def NodePortBackendKey.toC (k : NodePortBackendKey) : NodeportBackendKey := ⟨k.service.toC,k.slot⟩
def NodePortBackendValue.toC (v : NodePortBackendValue) : NodeportBackendValue := ⟨v.address,v.port,v.pad,v.nodeIP⟩
def DeliveryConfig.toC (c : DeliveryConfig) : NodeportConfig :=
  ⟨c.externalIfindex,c.localDeliveryIfindex,c.remoteDeliveryIfindex,c.routingMode⟩

@[simp] theorem key_layout (k : NodePortKey) : keyOfBytes k.bytes = some k.toC := rfl

@[simp] theorem value_layout (v : NodePortValue) : valueOfBytes v.bytes = some v.toC := by
  simp only [NodePortValue.bytes,bytesLE,Be32.bytes,List.cons_append,List.nil_append,valueOfBytes,ofBytesLE_bytesLE]
  rfl

@[simp] theorem backendKey_layout (k : NodePortBackendKey) : backendKeyOfBytes k.bytes = some k.toC := by
  simp only [NodePortBackendKey.bytes,NodePortKey.bytes,bytesLE,Be32.bytes,Be16.bytes,List.cons_append,
    List.nil_append,backendKeyOfBytes,ofBytesLE_bytesLE]
  rfl

@[simp] theorem backendValue_layout (v : NodePortBackendValue) : backendValueOfBytes v.bytes = some v.toC := rfl

@[simp] theorem config_layout (c : DeliveryConfig) : configOfBytes c.bytes = some c.toC := by
  simp only [DeliveryConfig.bytes,bytesLE,List.cons_append,List.nil_append,configOfBytes,ofBytesLE_bytesLE]
  rfl

-- The map calls of the control plane; a delete of an absent key is no error.
inductive MapOp where
  | updateService (key : NodePortKey) (value : NodePortValue)
  | updateBackend (key : NodePortBackendKey) (value : NodePortBackendValue)
  | updateConfig (config : DeliveryConfig)
  | deleteBackend (key : NodePortBackendKey)
  | deleteService (key : NodePortKey)
  | deleteRRState (key : NodePortKey)
deriving DecidableEq, Repr

def MapOp.apply (m : Maps) : MapOp → Option Maps
  | .updateService key value => do
    let service ← m.service.update (← keyOfBytes key.bytes) (← valueOfBytes value.bytes)
    some {m with service := service}
  | .updateBackend key value => do
    let backend ← m.backend.update (← backendKeyOfBytes key.bytes) (← backendValueOfBytes value.bytes)
    some {m with backend := backend}
  | .updateConfig config => do some {m with config := some (← configOfBytes config.bytes)}
  | .deleteBackend key => do some {m with backend := m.backend.delete (← backendKeyOfBytes key.bytes)}
  | .deleteService key => do some {m with service := m.service.delete (← keyOfBytes key.bytes)}
  | .deleteRRState key => do some {m with rrState := m.rrState.delete (← keyOfBytes key.bytes)}

inductive Takes (m : Maps) : MapOp → Maps → Prop where
  | updateService (updated : m.service.update key.toC value.toC = some service) :
      Takes m (.updateService key value) {m with service := service}
  | updateBackend (updated : m.backend.update key.toC value.toC = some backend) :
      Takes m (.updateBackend key value) {m with backend := backend}
  | updateConfig : Takes m (.updateConfig config) {m with config := some config.toC}
  | deleteBackend : Takes m (.deleteBackend key) {m with backend := m.backend.delete key.toC}
  | deleteService : Takes m (.deleteService key) {m with service := m.service.delete key.toC}
  | deleteRRState : Takes m (.deleteRRState key) {m with rrState := m.rrState.delete key.toC}

theorem takes_iff {m next : Maps} {op : MapOp} : op.apply m = some next ↔ Takes m op next := by
  constructor
  · intro taken
    cases op with
    | updateService key value =>
      simp only [MapOp.apply,key_layout,value_layout,Option.bind_eq_bind,Option.bind_some,Option.bind_eq_some_iff,
        Option.some.injEq] at taken
      obtain ⟨service,updated,rfl⟩ := taken
      exact .updateService updated
    | updateBackend key value =>
      simp only [MapOp.apply,backendKey_layout,backendValue_layout,Option.bind_eq_bind,Option.bind_some,
        Option.bind_eq_some_iff,Option.some.injEq] at taken
      obtain ⟨backend,updated,rfl⟩ := taken
      exact .updateBackend updated
    | updateConfig config =>
      simp only [MapOp.apply,config_layout,Option.bind_eq_bind,Option.bind_some,Option.some.injEq] at taken
      exact taken ▸ .updateConfig
    | deleteBackend key =>
      simp only [MapOp.apply,backendKey_layout,Option.bind_eq_bind,Option.bind_some,Option.some.injEq] at taken
      exact taken ▸ .deleteBackend
    | deleteService key =>
      simp only [MapOp.apply,key_layout,Option.bind_eq_bind,Option.bind_some,Option.some.injEq] at taken
      exact taken ▸ .deleteService
    | deleteRRState key =>
      simp only [MapOp.apply,key_layout,Option.bind_eq_bind,Option.bind_some,Option.some.injEq] at taken
      exact taken ▸ .deleteRRState
  · intro takes
    cases takes with
    | updateService updated => simp [MapOp.apply,key_layout,value_layout,updated]
    | updateBackend updated => simp [MapOp.apply,backendKey_layout,backendValue_layout,updated]
    | updateConfig => simp [MapOp.apply,config_layout]
    | deleteBackend => simp [MapOp.apply,backendKey_layout]
    | deleteService => simp [MapOp.apply,key_layout]
    | deleteRRState => simp [MapOp.apply,key_layout]

inductive Cell where
  | service (key : NodeportKey)
  | backend (key : NodeportBackendKey)
deriving DecidableEq

inductive Word where
  | service (value : NodeportValue)
  | backend (value : NodeportBackendValue)
deriving DecidableEq

def Cell.frontend : Cell → NodeportKey
  | .service key => key
  | .backend key => key.service

def cells (m : Maps) : View Cell Word
  | .service key => (m.service.lookup key).map .service
  | .backend key => (m.backend.lookup key).map .backend

def MapOp.write : MapOp → Option (Write Cell Word)
  | .updateService key value => some (.service key.toC,some (.service value.toC))
  | .updateBackend key value => some (.backend key.toC,some (.backend value.toC))
  | .deleteBackend key => some (.backend key.toC,none)
  | .deleteService key => some (.service key.toC,none)
  | .updateConfig _ => none
  | .deleteRRState _ => none

theorem apply_cells {m next : Maps} {op : MapOp} (done : op.apply m = some next) :
    cells next = match op.write with
      | some write => put (cells m) write
      | none => cells m := by
  funext cell
  cases takes_iff.mp done with
  | updateService updated =>
    cases cell with
    | service other =>
      simp only [cells,MapOp.write,put,Cell.service.injEq,BoundedMap.lookup_update updated]
      split <;> rfl
    | backend other => simp [cells,MapOp.write,put]
  | updateBackend updated =>
    cases cell with
    | service other => simp [cells,MapOp.write,put]
    | backend other =>
      simp only [cells,MapOp.write,put,Cell.backend.injEq,BoundedMap.lookup_update updated]
      split <;> rfl
  | updateConfig => cases cell <;> rfl
  | deleteBackend =>
    cases cell with
    | service other => simp [cells,MapOp.write,put]
    | backend other =>
      simp only [cells,MapOp.write,put,Cell.backend.injEq,BoundedMap.lookup_delete]
      split <;> rfl
  | deleteService =>
    cases cell with
    | service other =>
      simp only [cells,MapOp.write,put,Cell.service.injEq,BoundedMap.lookup_delete]
      split <;> rfl
    | backend other => simp [cells,MapOp.write,put]
  | deleteRRState => cases cell <;> rfl

-- The control plane never writes the conntrack tables.
theorem apply_conntrack {m next : Maps} {op : MapOp} (done : op.apply m = some next) :
    next.ct = m.ct ∧ next.fwdCt = m.fwdCt := by
  cases takes_iff.mp done <;> exact ⟨rfl,rfl⟩

end Aipr.Syncer
