import Aipr.NodeportMaps

namespace Aipr.Syncer
open NodeportTc

-- The Go structs of the collector are the datapath's own, field by field, and
-- are read from and written to the same bytes.
abbrev NodePortCTKey := NodeportCtKey
abbrev NodePortCTValue := NodeportCtValue
abbrev NodePortFwdCTKey := NodeportFwdCtKey

structure ConntrackGCPlan where
  activeCTCount : Nat
  activeFwdCount : Nat
  staleCT : List NodePortCTKey
  staleFwd : List NodePortFwdCTKey

structure ConntrackGCResult where
  activeCT : Nat
  activeFwd : Nat
  deletedCT : Nat
  deletedFwd : Nat
deriving DecidableEq, Repr

def conntrackExpired (nowMonoNS lastSeenNS timeoutNS : UInt64) : Bool :=
  if timeoutNS = 0 ∨ nowMonoNS ≤ lastSeenNS then false
  else nowMonoNS - lastSeenNS > timeoutNS

def forwardKeyFromCT (key : NodePortCTKey) (value : NodePortCTValue) : NodePortFwdCTKey :=
  ⟨value.clientIp,value.frontendIp,value.clientPort,value.frontendPort,key.proto,(0,0,0)⟩

-- The accumulators of the first loop; Go sets are duplicate-free lists here.
structure CTScan where
  activeCTCount : Nat
  staleCT : List NodePortCTKey
  activeFwd : List NodePortFwdCTKey
  staleFwd : List NodePortFwdCTKey

def scanCT (nowMonoNS timeoutNS : UInt64) (scan : CTScan) (entry : NodePortCTKey × NodePortCTValue) : CTScan :=
  if conntrackExpired nowMonoNS entry.2.lastSeenNs timeoutNS then
    {scan with staleCT := scan.staleCT ++ [entry.1],
               staleFwd := scan.staleFwd.insert (forwardKeyFromCT entry.1 entry.2)}
  else
    {scan with activeCTCount := scan.activeCTCount + 1,
               activeFwd := scan.activeFwd.insert (forwardKeyFromCT entry.1 entry.2)}

def scanFwd (activeFwd : List NodePortFwdCTKey) (acc : Nat × List NodePortFwdCTKey) (key : NodePortFwdCTKey) :
    Nat × List NodePortFwdCTKey :=
  if key ∈ activeFwd then (acc.1 + 1,acc.2) else (acc.1,acc.2.insert key)

def buildConntrackGCPlan (nowMonoNS : UInt64) (timeout : Int64)
    (ctEntries : List (NodePortCTKey × NodePortCTValue)) (fwdKeys : List NodePortFwdCTKey) : ConntrackGCPlan :=
  if timeout ≤ 0 then ⟨ctEntries.length,fwdKeys.length,[],[]⟩
  else
    let scan := ctEntries.foldl (scanCT nowMonoNS timeout.toUInt64) ⟨0,[],[],[]⟩
    let (activeFwdCount,staleFwd) := fwdKeys.foldl (scanFwd scan.activeFwd) (0,scan.staleFwd)
    ⟨scan.activeCTCount,activeFwdCount,scan.staleCT,staleFwd⟩

-- A complete, uninterrupted run whose deletes all succeed.
def reapConntrack (nowMonoNS : UInt64) (timeout : Int64) (m : Maps) : ConntrackGCResult × Maps :=
  if timeout ≤ 0 then (⟨0,0,0,0⟩,m)
  else
    let plan := buildConntrackGCPlan nowMonoNS timeout m.ct.entries m.fwdCt.keys
    (⟨plan.activeCTCount,plan.activeFwdCount,plan.staleCT.length,plan.staleFwd.length⟩,
      {m with ct := m.ct.deleteAll plan.staleCT, fwdCt := m.fwdCt.deleteAll plan.staleFwd})

theorem conntrackExpired_exact (now last timeout : UInt64) :
    conntrackExpired now last timeout = true ↔ 0 < timeout.toNat ∧ last.toNat + timeout.toNat < now.toNat := by
  unfold conntrackExpired
  have zero : timeout = 0 ↔ timeout.toNat = 0 := by
    rw [← UInt64.toNat_inj]
    rfl
  split
  · rename_i early
    rw [zero,UInt64.le_iff_toNat_le] at early
    simp only [Bool.false_eq_true,false_iff]
    omega
  · rename_i late
    rw [zero,UInt64.le_iff_toNat_le] at late
    have order : last ≤ now := UInt64.le_iff_toNat_le.mpr (by omega)
    have difference := UInt64.toNat_sub_of_le _ _ order
    simp only [gt_iff_lt,decide_eq_true_eq,UInt64.lt_iff_toNat_lt,difference]
    omega

section Plan
variable {now timeout : UInt64}

theorem scan_staleCT (entries : List (NodePortCTKey × NodePortCTValue)) (scan : CTScan) (k : NodePortCTKey) :
    k ∈ (entries.foldl (scanCT now timeout) scan).staleCT ↔
      k ∈ scan.staleCT ∨ ∃ v, (k,v) ∈ entries ∧ conntrackExpired now v.lastSeenNs timeout = true := by
  induction entries generalizing scan with
  | nil => simp
  | cons entry rest ih =>
    rw [List.foldl_cons,ih]
    cases expired : conntrackExpired now entry.2.lastSeenNs timeout with
    | true =>
      simp only [scanCT,expired,if_true,List.mem_append,List.mem_cons]
      grind
    | false =>
      simp only [scanCT,expired,Bool.false_eq_true,if_false,List.mem_cons]
      grind

theorem scan_staleFwd (entries : List (NodePortCTKey × NodePortCTValue)) (scan : CTScan) (f : NodePortFwdCTKey) :
    f ∈ (entries.foldl (scanCT now timeout) scan).staleFwd ↔
      f ∈ scan.staleFwd ∨ ∃ k v, (k,v) ∈ entries ∧ conntrackExpired now v.lastSeenNs timeout = true ∧
        forwardKeyFromCT k v = f := by
  induction entries generalizing scan with
  | nil => simp
  | cons entry rest ih =>
    rw [List.foldl_cons,ih]
    cases expired : conntrackExpired now entry.2.lastSeenNs timeout with
    | true =>
      simp only [scanCT,expired,if_true,List.mem_insert_iff,List.mem_cons]
      grind
    | false =>
      simp only [scanCT,expired,Bool.false_eq_true,if_false,List.mem_cons]
      grind

theorem scan_activeFwd (entries : List (NodePortCTKey × NodePortCTValue)) (scan : CTScan) (f : NodePortFwdCTKey) :
    f ∈ (entries.foldl (scanCT now timeout) scan).activeFwd ↔
      f ∈ scan.activeFwd ∨ ∃ k v, (k,v) ∈ entries ∧ conntrackExpired now v.lastSeenNs timeout = false ∧
        forwardKeyFromCT k v = f := by
  induction entries generalizing scan with
  | nil => simp
  | cons entry rest ih =>
    rw [List.foldl_cons,ih]
    cases expired : conntrackExpired now entry.2.lastSeenNs timeout with
    | true =>
      simp only [scanCT,expired,if_true,List.mem_cons]
      grind
    | false =>
      simp only [scanCT,expired,Bool.false_eq_true,if_false,List.mem_insert_iff,List.mem_cons]
      grind

theorem scanFwd_stale (active keys : List NodePortFwdCTKey) (acc : Nat × List NodePortFwdCTKey)
    (f : NodePortFwdCTKey) :
    f ∈ (keys.foldl (scanFwd active) acc).2 ↔ f ∈ acc.2 ∨ (f ∈ keys ∧ f ∉ active) := by
  induction keys generalizing acc with
  | nil => simp
  | cons key rest ih =>
    rw [List.foldl_cons,ih]
    by_cases live : key ∈ active
    · simp only [scanFwd,live,if_true,List.mem_cons]
      grind
    · simp only [scanFwd,live,if_false,List.mem_insert_iff,List.mem_cons]
      grind

end Plan

section Reap
variable {now : UInt64} {timeout : Int64} {ctEntries : List (NodePortCTKey × NodePortCTValue)}
  {fwdKeys : List NodePortFwdCTKey}

theorem plan_staleCT (positive : ¬ timeout ≤ 0) (k : NodePortCTKey) :
    k ∈ (buildConntrackGCPlan now timeout ctEntries fwdKeys).staleCT ↔
      ∃ v, (k,v) ∈ ctEntries ∧ conntrackExpired now v.lastSeenNs timeout.toUInt64 = true := by
  rw [buildConntrackGCPlan,if_neg positive]
  simp [scan_staleCT]

-- A forward key is doomed by an expired entry of its own, or by having no live one.
theorem plan_staleFwd (positive : ¬ timeout ≤ 0) (f : NodePortFwdCTKey) :
    f ∈ (buildConntrackGCPlan now timeout ctEntries fwdKeys).staleFwd ↔
      (∃ k v, (k,v) ∈ ctEntries ∧ conntrackExpired now v.lastSeenNs timeout.toUInt64 = true ∧
        forwardKeyFromCT k v = f) ∨
      (f ∈ fwdKeys ∧ ¬ ∃ k v, (k,v) ∈ ctEntries ∧ conntrackExpired now v.lastSeenNs timeout.toUInt64 = false ∧
        forwardKeyFromCT k v = f) := by
  rw [buildConntrackGCPlan,if_neg positive]
  simp only [scanFwd_stale,scan_staleFwd,scan_activeFwd,List.not_mem_nil,false_or]

theorem reap_ct (positive : ¬ timeout ≤ 0) (m : Maps) (k : NodePortCTKey) :
    (reapConntrack now timeout m).2.ct.lookup k =
      (m.ct.lookup k).filter fun v => !conntrackExpired now v.lastSeenNs timeout.toUInt64 := by
  simp only [reapConntrack,if_neg positive,BoundedMap.lookup_deleteAll,plan_staleCT positive,BoundedMap.mem_entries]
  cases found : m.ct.lookup k with
  | none => simp
  | some v => cases expired : conntrackExpired now v.lastSeenNs timeout.toUInt64 <;> simp [Option.filter,expired]

theorem reap_fwdCt (positive : ¬ timeout ≤ 0) (m : Maps) (f : NodePortFwdCTKey) (v : NodeportFwdCtValue) :
    (reapConntrack now timeout m).2.fwdCt.lookup f = some v ↔
      m.fwdCt.lookup f = some v ∧
      (∃ k w, m.ct.lookup k = some w ∧ conntrackExpired now w.lastSeenNs timeout.toUInt64 = false ∧
        forwardKeyFromCT k w = f) ∧
      ¬ ∃ k w, m.ct.lookup k = some w ∧ conntrackExpired now w.lastSeenNs timeout.toUInt64 = true ∧
        forwardKeyFromCT k w = f := by
  simp only [reapConntrack,if_neg positive,BoundedMap.lookup_deleteAll]
  split
  · rename_i doomed
    simp only [plan_staleFwd positive,BoundedMap.mem_entries,BoundedMap.mem_keys] at doomed
    constructor
    · intro impossible
      cases impossible
    · rintro ⟨found,live,unexpired⟩
      rcases doomed with expired | ⟨_,orphan⟩
      · exact absurd expired unexpired
      · exact absurd live orphan
  · rename_i spared
    simp only [plan_staleFwd positive,BoundedMap.mem_entries,BoundedMap.mem_keys,not_or,not_and,not_not] at spared
    constructor
    · intro found
      exact ⟨found,spared.2 (by rw [found]; exact Option.some_ne_none v),spared.1⟩
    · exact fun facts => facts.1

theorem reap_control (m : Maps) : (reapConntrack now timeout m).2.service = m.service ∧
    (reapConntrack now timeout m).2.snatPort = m.snatPort := by
  unfold reapConntrack
  split <;> exact ⟨rfl,rfl⟩

end Reap
end Aipr.Syncer
