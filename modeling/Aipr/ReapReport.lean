import Aipr.ConntrackGC

namespace Aipr.Syncer
open NodeportTc

section Report
variable (now : UInt64) (timeout : Int64) (m : Maps)

def Expired (w : NodePortCTValue) : Prop := w.lastSeenNs.toNat + timeout.toInt < now.toNat

instance (w : NodePortCTValue) : Decidable (Expired now timeout w) := inferInstanceAs (Decidable (_ < _))

def Silent (f : NodePortFwdCTKey) : Prop := ∃ k w, m.ct.lookup k = some w ∧ Expired now timeout w ∧ forwardKeyFromCT k w = f

def Live (f : NodePortFwdCTKey) : Prop := ∃ k w, m.ct.lookup k = some w ∧ ¬ Expired now timeout w ∧ forwardKeyFromCT k w = f

structure LeavesLive : Prop where
  ct : ∀ k w, (reapConntrack now timeout m).2.ct.lookup k = some w ↔ m.ct.lookup k = some w ∧ ¬ Expired now timeout w
  fwdCt : ∀ f v, (reapConntrack now timeout m).2.fwdCt.lookup f = some v ↔ m.fwdCt.lookup f = some v ∧ Live now timeout m f
  planned : ∀ f ∈ (buildConntrackGCPlan now timeout m.ct.entries m.fwdCt.keys).staleFwd, ¬ Live now timeout m f

structure Truthful : Prop where
  activeCT : (reapConntrack now timeout m).1.activeCT = (reapConntrack now timeout m).2.ct.size
  activeFwd : (reapConntrack now timeout m).1.activeFwd = (reapConntrack now timeout m).2.fwdCt.size
  deletedCT : (reapConntrack now timeout m).1.deletedCT = m.ct.gone (reapConntrack now timeout m).2.ct
  deletedFwd : (reapConntrack now timeout m).1.deletedFwd = m.fwdCt.gone (reapConntrack now timeout m).2.fwdCt

end Report

section Age
variable {now : UInt64} {timeout : Int64} {m : Maps}

theorem positive_unsigned (positive : 0 < timeout) : (timeout.toUInt64.toNat : Int) = timeout.toInt ∧ 0 < timeout.toInt := by
  have low : 0 < timeout.toInt := Int64.lt_iff_toInt_lt.mp positive
  rw [Int64.toNat_toUInt64_of_le (Int64.le_of_lt positive)]
  exact ⟨Int.toNat_of_nonneg (Int.le_of_lt low),low⟩

theorem expired_iff (positive : 0 < timeout) (w : NodePortCTValue) :
    conntrackExpired now w.lastSeenNs timeout.toUInt64 = true ↔ Expired now timeout w := by
  obtain ⟨same,low⟩ := positive_unsigned positive
  rw [conntrackExpired_exact,Expired]
  omega

theorem unexpired_iff (positive : 0 < timeout) (w : NodePortCTValue) :
    conntrackExpired now w.lastSeenNs timeout.toUInt64 = false ↔ ¬ Expired now timeout w := by
  rw [← expired_iff positive,Bool.not_eq_true]

end Age

section Exact
variable (now : UInt64) {timeout : Int64} {m : Maps}

theorem silent_planned (positive : 0 < timeout) {f : NodePortFwdCTKey} :
    f ∈ (buildConntrackGCPlan now timeout m.ct.entries m.fwdCt.keys).staleFwd ↔
      Silent now timeout m f ∨ (m.fwdCt.lookup f ≠ none ∧ ¬ Live now timeout m f) := by
  rw [plan_staleFwd (Int64.not_le.mpr positive)]
  simp only [BoundedMap.mem_entries,BoundedMap.mem_keys,expired_iff positive,unexpired_iff positive]
  rfl

-- The forward key of an expired entry is planned also when a live entry has it.
theorem leaves_live_iff (now : UInt64) {timeout : Int64} (positive : 0 < timeout) (m : Maps) :
    LeavesLive now timeout m ↔ ∀ f, Silent now timeout m f → ¬ Live now timeout m f := by
  constructor
  · intro exact f silent
    exact exact.planned f ((silent_planned now positive).mpr (.inl silent))
  · intro apart
    refine ⟨fun k w => ?_,fun f v => ?_,fun f planned live => ?_⟩
    · rw [reap_ct (Int64.not_le.mpr positive),Option.filter_eq_some_iff,Bool.not_eq_true',unexpired_iff positive]
    · rw [reap_fwdCt (Int64.not_le.mpr positive)]
      simp only [expired_iff positive,unexpired_iff positive]
      exact and_congr_right fun _ => and_iff_left_of_imp fun live silent => apart f silent live
    · rcases (silent_planned now positive).mp planned with silent | ⟨_,orphan⟩
      · exact apart f silent live
      · exact orphan live

end Exact

section Counts
variable (now timeoutNS : UInt64)

theorem scan_counts (entries : List (NodePortCTKey × NodePortCTValue)) (scan : CTScan) :
    (entries.foldl (scanCT now timeoutNS) scan).activeCTCount = scan.activeCTCount +
      (entries.filter fun entry => conntrackExpired now entry.2.lastSeenNs timeoutNS = false).length ∧
    (entries.foldl (scanCT now timeoutNS) scan).staleCT = scan.staleCT ++
      (entries.filter fun entry => conntrackExpired now entry.2.lastSeenNs timeoutNS = true).map Prod.fst := by
  induction entries generalizing scan with
  | nil => exact ⟨rfl,(List.append_nil _).symm⟩
  | cons entry rest ih =>
    obtain ⟨count,stale⟩ := ih (scanCT now timeoutNS scan entry)
    rw [List.foldl_cons,count,stale]
    cases expired : conntrackExpired now entry.2.lastSeenNs timeoutNS with
    | true => simp [scanCT,expired]
    | false =>
      simp [scanCT,expired]
      omega

theorem scan_staleFwd_nodup (entries : List (NodePortCTKey × NodePortCTValue)) (scan : CTScan) (nodup : scan.staleFwd.Nodup) :
    (entries.foldl (scanCT now timeoutNS) scan).staleFwd.Nodup := by
  induction entries generalizing scan with
  | nil => exact nodup
  | cons entry rest ih =>
    refine ih _ ?_
    unfold scanCT
    split
    · exact List.Nodup.insert nodup
    · exact nodup

theorem scanFwd_counts (active keys : List NodePortFwdCTKey) (acc : Nat × List NodePortFwdCTKey) (nodup : acc.2.Nodup) :
    (keys.foldl (scanFwd active) acc).1 = acc.1 + (keys.filter fun key => key ∈ active).length ∧
      (keys.foldl (scanFwd active) acc).2.Nodup := by
  induction keys generalizing acc with
  | nil => exact ⟨rfl,nodup⟩
  | cons key rest ih =>
    rw [List.foldl_cons]
    by_cases live : key ∈ active
    · obtain ⟨count,unique⟩ := ih (scanFwd active acc key) (by simpa [scanFwd,live] using nodup)
      refine ⟨?_,unique⟩
      rw [count]
      simp [scanFwd,live]
      omega
    · obtain ⟨count,unique⟩ := ih (scanFwd active acc key) (by simpa [scanFwd,live] using List.Nodup.insert nodup)
      refine ⟨?_,unique⟩
      rw [count]
      simp [scanFwd,live]

theorem met_in_full {α : Type} [DecidableEq α] {met keys : List α} (nodup : met.Nodup) (unique : keys.Nodup) :
    met.length = (keys.filter fun k => k ∈ met).length ↔ ∀ k ∈ met, k ∈ keys := by
  have same : (keys.filter fun k => k ∈ met).Perm (met.filter fun k => k ∈ keys) := by
    refine (List.perm_ext_iff_of_nodup (unique.filter _) (nodup.filter _)).mpr fun k => ?_
    simp only [List.mem_filter,decide_eq_true_eq]
    exact and_comm
  rw [same.length_eq,eq_comm,List.length_filter_eq_length_iff]
  simp only [decide_eq_true_eq]

end Counts

section Truth
variable (now : UInt64) {timeout : Int64} {m : Maps}

theorem reap_result (positive : 0 < timeout) (m : Maps) : (reapConntrack now timeout m).1 =
    ⟨(buildConntrackGCPlan now timeout m.ct.entries m.fwdCt.keys).activeCTCount,
      (buildConntrackGCPlan now timeout m.ct.entries m.fwdCt.keys).activeFwdCount,
      (buildConntrackGCPlan now timeout m.ct.entries m.fwdCt.keys).staleCT.length,
      (buildConntrackGCPlan now timeout m.ct.entries m.fwdCt.keys).staleFwd.length⟩ := by
  rw [reapConntrack,if_neg (Int64.not_le.mpr positive)]

theorem reap_tables (positive : 0 < timeout) (m : Maps) :
    (reapConntrack now timeout m).2.ct = m.ct.deleteAll (buildConntrackGCPlan now timeout m.ct.entries m.fwdCt.keys).staleCT ∧
    (reapConntrack now timeout m).2.fwdCt =
      m.fwdCt.deleteAll (buildConntrackGCPlan now timeout m.ct.entries m.fwdCt.keys).staleFwd := by
  rw [reapConntrack,if_neg (Int64.not_le.mpr positive)]
  exact ⟨rfl,rfl⟩

theorem plan_ct (positive : 0 < timeout) (m : Maps) :
    (buildConntrackGCPlan now timeout m.ct.entries m.fwdCt.keys).activeCTCount =
      (m.ct.entries.filter fun entry => conntrackExpired now entry.2.lastSeenNs timeout.toUInt64 = false).length ∧
    (buildConntrackGCPlan now timeout m.ct.entries m.fwdCt.keys).staleCT =
      (m.ct.entries.filter fun entry => conntrackExpired now entry.2.lastSeenNs timeout.toUInt64 = true).map Prod.fst := by
  obtain ⟨count,stale⟩ := scan_counts now timeout.toUInt64 m.ct.entries ⟨0,[],[],[]⟩
  rw [buildConntrackGCPlan,if_neg (Int64.not_le.mpr positive)]
  exact ⟨count.trans (Nat.zero_add _),stale⟩

theorem plan_fwd (positive : 0 < timeout) (m : Maps) :
    (∃ active : List NodePortFwdCTKey, (∀ f, f ∈ active ↔ Live now timeout m f) ∧
      (buildConntrackGCPlan now timeout m.ct.entries m.fwdCt.keys).activeFwdCount = (m.fwdCt.keys.filter fun f => f ∈ active).length) ∧
    (buildConntrackGCPlan now timeout m.ct.entries m.fwdCt.keys).staleFwd.Nodup := by
  rw [buildConntrackGCPlan,if_neg (Int64.not_le.mpr positive)]
  obtain ⟨count,nodup⟩ := scanFwd_counts (m.ct.entries.foldl (scanCT now timeout.toUInt64) ⟨0,[],[],[]⟩).activeFwd
    m.fwdCt.keys (0,(m.ct.entries.foldl (scanCT now timeout.toUInt64) ⟨0,[],[],[]⟩).staleFwd)
    (scan_staleFwd_nodup _ _ _ _ List.nodup_nil)
  refine ⟨⟨_,fun f => ?_,count.trans (Nat.zero_add _)⟩,nodup⟩
  rw [scan_activeFwd]
  simp only [List.not_mem_nil,false_or,BoundedMap.mem_entries,unexpired_iff positive]
  rfl

-- Of a reverse key and its entry, one is planned exactly when the other has expired.
theorem doomed_iff (positive : 0 < timeout) {entry : NodePortCTKey × NodePortCTValue} (listed : entry ∈ m.ct.entries) :
    entry.1 ∈ (buildConntrackGCPlan now timeout m.ct.entries m.fwdCt.keys).staleCT ↔
      conntrackExpired now entry.2.lastSeenNs timeout.toUInt64 = true := by
  obtain ⟨k,w⟩ := entry
  rw [plan_staleCT (Int64.not_le.mpr positive)]
  constructor
  · rintro ⟨w',found,expired⟩
    rw [BoundedMap.mem_entries] at found listed
    cases Option.some.inj (listed.symm.trans found)
    exact expired
  · exact fun expired => ⟨w,listed,expired⟩

theorem ct_truthful (positive : 0 < timeout) (m : Maps) :
    (reapConntrack now timeout m).1.activeCT = (reapConntrack now timeout m).2.ct.size ∧
    (reapConntrack now timeout m).1.deletedCT = m.ct.gone (reapConntrack now timeout m).2.ct := by
  obtain ⟨count,stale⟩ := plan_ct now positive m
  have doomed := fun entry (listed : entry ∈ m.ct.entries) => doomed_iff now positive listed
  rw [reap_result now positive,(reap_tables now positive m).1,BoundedMap.gone_deleteAll,BoundedMap.size,BoundedMap.keys_deleteAll]
  dsimp only
  rw [count,stale,List.length_map,← stale]
  constructor
  · refine BoundedMap.count_entries m.ct fun entry listed => ?_
    rw [decide_eq_decide,doomed entry listed,Bool.not_eq_true]
  · refine BoundedMap.count_entries m.ct fun entry listed => ?_
    rw [decide_eq_decide,doomed entry listed]

-- The plan deletes a forward key that is not there when an expired entry names
-- it, and counts a forward key as active that it deletes when a live one does too.
theorem fwd_truthful (positive : 0 < timeout) (m : Maps) :
    ((reapConntrack now timeout m).1.activeFwd = (reapConntrack now timeout m).2.fwdCt.size ↔
      ∀ f, m.fwdCt.lookup f ≠ none → Silent now timeout m f → ¬ Live now timeout m f) ∧
    ((reapConntrack now timeout m).1.deletedFwd = m.fwdCt.gone (reapConntrack now timeout m).2.fwdCt ↔
      ∀ f, Silent now timeout m f → m.fwdCt.lookup f ≠ none) := by
  obtain ⟨⟨active,live,count⟩,nodup⟩ := plan_fwd now positive m
  have planned := fun f => silent_planned now (m := m) (f := f) positive
  rw [reap_result now positive,(reap_tables now positive m).2,BoundedMap.gone_deleteAll,BoundedMap.size,BoundedMap.keys_deleteAll]
  dsimp only
  constructor
  · have kept : (m.fwdCt.keys.filter fun f => f ∉ (buildConntrackGCPlan now timeout m.ct.entries m.fwdCt.keys).staleFwd) =
        (m.fwdCt.keys.filter fun f => f ∈ active).filter fun f =>
          f ∉ (buildConntrackGCPlan now timeout m.ct.entries m.fwdCt.keys).staleFwd := by
      rw [List.filter_filter]
      refine List.filter_congr fun f present => ?_
      have held := (BoundedMap.mem_keys m.fwdCt f).mp present
      rw [← Bool.decide_and,decide_eq_decide,live,planned]
      exact (and_iff_left_of_imp fun spared => not_not.mp fun orphan => spared (.inr ⟨held,orphan⟩)).symm
    rw [count,kept,eq_comm,List.length_filter_eq_length_iff]
    refine forall_congr' fun f => ?_
    simp only [List.mem_filter,decide_eq_true_eq,live,planned,BoundedMap.mem_keys]
    constructor
    · exact fun spared held silent living => spared ⟨held,living⟩ (.inl silent)
    · exact fun apart met doomed => doomed.elim (fun silent => apart met.1 silent met.2) fun orphan => orphan.2 met.2
  · rw [met_in_full nodup m.fwdCt.keys_nodup]
    refine forall_congr' fun f => ?_
    rw [planned,BoundedMap.mem_keys]
    constructor
    · exact fun met silent => met (.inl silent)
    · exact fun met doomed => doomed.elim met And.left

end Truth

-- The result is right exactly when every expired entry has its forward key in the
-- table, and no live entry has the same one.
theorem truthful_iff (now : UInt64) {timeout : Int64} (positive : 0 < timeout) (m : Maps) :
    Truthful now timeout m ↔ ∀ f, Silent now timeout m f → m.fwdCt.lookup f ≠ none ∧ ¬ Live now timeout m f := by
  obtain ⟨activeCT,deletedCT⟩ := ct_truthful now positive m
  obtain ⟨activeFwd,deletedFwd⟩ := fwd_truthful now positive m
  constructor
  · intro truthful f silent
    have held := deletedFwd.mp truthful.deletedFwd f silent
    exact ⟨held,activeFwd.mp truthful.activeFwd f held silent⟩
  · intro paired
    exact ⟨activeCT,activeFwd.mpr fun f _ silent => (paired f silent).2,deletedCT,deletedFwd.mpr fun f silent => (paired f silent).1⟩

section Examples

def activeKey : NodeportCtKey := ⟨⟨10,0,0,2⟩,⟨10,0,0,1⟩,⟨0x1f,0x90⟩,⟨0x9c,0x40⟩,6,(0,0,0)⟩
def staleKey : NodeportCtKey := ⟨⟨10,0,0,3⟩,⟨10,0,0,1⟩,⟨0x1f,0x90⟩,⟨0x9c,0x41⟩,6,(0,0,0)⟩
def activeValue : NodeportCtValue := ⟨⟨192,168,1,10⟩,⟨192,168,1,201⟩,⟨0x30,0x39⟩,⟨0x75,0x70⟩,95⟩
def staleValue : NodeportCtValue := ⟨⟨192,168,1,11⟩,⟨192,168,1,202⟩,⟨0x30,0x3a⟩,⟨0x75,0x70⟩,10⟩
def pinned : NodeportFwdCtValue := ⟨⟨10,0,0,2⟩,⟨10,0,0,1⟩,⟨0x1f,0x90⟩,⟨0x9c,0x40⟩,4⟩

def tracked (ct : List (NodeportCtKey × NodeportCtValue)) (fwdKeys : List NodeportFwdCtKey) : Maps where
  __ := Maps.empty
  ct := ct.foldl (fun table entry => (table.update entry.1 entry.2).getD table) .empty
  fwdCt := fwdKeys.foldl (fun table f => (table.update f pinned).getD table) .empty

def usual : Maps := tracked [(activeKey,activeValue),(staleKey,staleValue)]
  [forwardKeyFromCT activeKey activeValue,forwardKeyFromCT staleKey staleValue]

def reconnected : Maps := tracked [(activeKey,activeValue),(staleKey,{activeValue with lastSeenNs := 10})]
  [forwardKeyFromCT activeKey activeValue]

def widowed : Maps := tracked [(staleKey,staleValue)] []

theorem usual_paired (f : NodePortFwdCTKey) (silent : Silent 100 30 usual f) :
    usual.fwdCt.lookup f ≠ none ∧ ¬ Live 100 30 usual f := by
  have entries : usual.ct.entries = [(staleKey,staleValue),(activeKey,activeValue)] := rfl
  have due : ∀ k w, usual.ct.lookup k = some w → (k = staleKey ∧ w = staleValue) ∨ (k = activeKey ∧ w = activeValue) := by
    intro k w found
    rw [← BoundedMap.mem_entries,entries] at found
    simpa using found
  have fresh : ¬ Expired 100 30 activeValue := by decide
  have old : Expired 100 30 staleValue := by decide
  obtain ⟨k,w,found,expired,rfl⟩ := silent
  rcases due k w found with ⟨rfl,rfl⟩ | ⟨rfl,rfl⟩
  · refine ⟨by decide,?_⟩
    rintro ⟨k',w',found',unexpired,same⟩
    rcases due k' w' found' with ⟨rfl,rfl⟩ | ⟨rfl,rfl⟩
    · exact unexpired old
    · exact absurd same (by decide)
  · exact absurd expired fresh

theorem usual_leaves_live : LeavesLive 100 30 usual :=
  (leaves_live_iff 100 (by decide) usual).mpr fun f silent => (usual_paired f silent).2

theorem usual_truthful : Truthful 100 30 usual := (truthful_iff 100 (by decide) usual).mpr usual_paired

-- The forward entry in use is deleted with the old one.
theorem reconnected_cut : ¬ ∀ (now : UInt64) (timeout : Int64) (m : Maps), 0 < timeout → LeavesLive now timeout m := by
  intro always
  have kept := ((always 100 30 reconnected (by decide)).fwdCt (forwardKeyFromCT activeKey activeValue) pinned).mpr
    ⟨by decide,activeKey,activeValue,by decide,by decide,rfl⟩
  revert kept
  decide

-- One forward entry is reported deleted, and none has gone.
theorem widowed_overcounted : ¬ ∀ (now : UInt64) (timeout : Int64) (m : Maps), 0 < timeout → Truthful now timeout m := by
  intro always
  have told := (always 100 30 widowed (by decide)).deletedFwd
  revert told
  decide

end Examples
end Aipr.Syncer
