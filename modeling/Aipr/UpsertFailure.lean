import Aipr.ScriptRun

namespace Aipr.Syncer
open NodeportTc

-- What an upsert that stops at backend `i` has left of the entry: the record with
-- the whole count, the backends before it, and nothing else.
structure PartlyInstalled (e : NodePortEntry) (key : NodePortKey) (value : NodePortValue) (i : Nat) (m left : Maps) : Prop where
  service : ∀ k, left.service.lookup k = if k = key.toC then some value.toC else m.service.lookup k
  filled : ∀ j, j < i → ∃ b slot, e.backends[j]? = some b ∧ marshalBackendValue b = .ok slot ∧
    left.backend.lookup ⟨key.toC,UInt32.ofNat j⟩ = some slot.toC
  others : ∀ k, (∀ j < i, k ≠ ⟨key.toC,UInt32.ofNat j⟩) → left.backend.lookup k = m.backend.lookup k
  rest : left = {m with service := left.service, backend := left.backend}

section Loop
variable {e : NodePortEntry} {key : NodePortKey} {m left : Maps} {err : String}

theorem execute_cons {k : Kernel} {c : Call} {rest : List Call} {error : Option String} :
    Script.execute ⟨c :: rest,error⟩ k m = (left,some err) →
    left = m ∨ ∃ next, Takes m c.op next ∧ Script.execute ⟨rest,error⟩ k.next next = (left,some err) := by
  intro stopped
  rw [Script.execute,executeCalls] at stopped
  cases refused : k.fails 0 with
  | true =>
    rw [refused] at stopped
    exact .inl (congrArg Prod.fst stopped).symm
  | false =>
    cases taken : c.op.apply m with
    | none =>
      rw [refused,taken] at stopped
      exact .inl (congrArg Prod.fst stopped).symm
    | some next =>
      rw [refused,taken] at stopped
      exact .inr ⟨next,takes_iff.mp taken,stopped⟩

structure LoopStopped (key : NodePortKey) (backends : List Backend) (index i : Nat) (m left : Maps) : Prop where
  short : i < backends.length
  bounded : index + i ≤ 4096
  filled : ∀ j < i, ∃ b slot, backends[j]? = some b ∧ marshalBackendValue b = .ok slot ∧
    left.backend.lookup ⟨key.toC,UInt32.ofNat (index + j)⟩ = some slot.toC
  others : ∀ k, (∀ j < i, k ≠ ⟨key.toC,UInt32.ofNat (index + j)⟩) → left.backend.lookup k = m.backend.lookup k
  rest : left = {m with backend := left.backend}

theorem loop_unmoved {b : Backend} {rest : List Backend} {index : Nat} (low : index ≤ 4096) (same : left = m) :
    LoopStopped key (b :: rest) index 0 m left := by
  subst same
  exact ⟨Nat.zero_lt_succ _,low,fun j none => absurd none (Nat.not_lt_zero j),fun _ _ => rfl,rfl⟩

theorem loop_advanced {b : Backend} {rest : List Backend} {value : NodePortBackendValue} {backend : BackendMap} {index i : Nat}
    (marshalled : marshalBackendValue b = .ok value)
    (updated : m.backend.update ⟨key.toC,UInt32.ofNat index⟩ value.toC = some backend)
    (stopped : LoopStopped key rest (index + 1) i {m with backend := backend} left) :
    LoopStopped key (b :: rest) index (i + 1) m left := by
  have looked := BoundedMap.lookup_update updated
  have bounded := stopped.bounded
  refine ⟨Nat.succ_lt_succ stopped.short,by omega,fun j below => ?_,fun k apart => ?_,stopped.rest⟩
  · cases j with
    | zero =>
      refine ⟨b,value,rfl,marshalled,?_⟩
      rw [Nat.add_zero,stopped.others _ fun j later same => ?_,looked,if_pos rfl]
      have numbers := congrArg (fun k => k.slot.toNat) same
      simp only [UInt32.toNat_ofNat'] at numbers
      omega
    | succ j =>
      obtain ⟨b',slot,listed,marshalled',here⟩ := stopped.filled j (Nat.lt_of_succ_lt_succ below)
      rw [Nat.add_assoc,Nat.add_comm 1 j] at here
      exact ⟨b',slot,listed,marshalled',here⟩
  · have elsewhere : ∀ j < i, k ≠ ⟨key.toC,UInt32.ofNat (index + 1 + j)⟩ := by
      intro j later
      rw [Nat.add_assoc,Nat.add_comm 1 j]
      exact apart (j + 1) (Nat.succ_lt_succ later)
    rw [stopped.others k elsewhere]
    exact (looked k).trans (if_neg (apart 0 (Nat.zero_lt_succ i)))

-- With the slots before `index` filled, the table's size keeps the numbers of the
-- later ones from wrapping.
theorem loop_stops {k : Kernel} {backends : List Backend} {index : Nat} (low : index ≤ 4096)
    (before : ∀ j < index, m.backend.lookup ⟨key.toC,UInt32.ofNat j⟩ ≠ none)
    (stopped : (upsertBackends false e key index backends).execute k m = (left,some err)) :
    ∃ i, LoopStopped key backends index i m left := by
  induction backends generalizing index m k with
  | nil => cases congrArg Prod.snd stopped
  | cons b rest ih =>
    unfold upsertBackends at stopped
    split at stopped
    · exact ⟨0,loop_unmoved low (congrArg Prod.fst stopped).symm⟩
    rename_i value marshalled
    rw [emit_andThen] at stopped
    rcases execute_cons stopped with same | ⟨next,taken,later⟩
    · exact ⟨0,loop_unmoved low same⟩
    cases taken
    rename_i backend updated
    have filled : ∀ j < index + 1, backend.lookup ⟨key.toC,UInt32.ofNat j⟩ ≠ none := by
      intro j below
      rw [BoundedMap.lookup_update updated]
      split
      · exact Option.some_ne_none _
      · rename_i apart
        refine before j (Nat.lt_of_le_of_ne (Nat.le_of_lt_succ below) ?_)
        rintro rfl
        exact apart rfl
    have fits : index + 1 ≤ 4096 := slots_fit (m := {m with backend := backend}) (by omega) filled
    obtain ⟨i,stopped⟩ := ih fits filled later
    exact ⟨i + 1,loop_advanced marshalled updated stopped⟩

end Loop

section Upsert
variable {e : NodePortEntry}

theorem execute_nothing {s : Script} {k : Kernel} {m : Maps} (none : s.calls = []) : (s.execute k m).1 = m := by
  rw [Script.execute,none]
  rfl

-- An upsert that fails before its service record is written changes nothing; one that
-- fails later is not taken back.
theorem failed_upsert {dryRun : Bool} {e : NodePortEntry} {k : Kernel} {m left : Maps} {err : String}
    (failed : (upsertEntry dryRun e).execute k m = (left,some err)) :
    left = m ∨ ∃ key value i, marshalFrontendKey e.nodeIP e.id.nodePort = .ok key ∧
      marshalServiceValue e.snatIP e.backends.length = .ok value ∧ i < e.backends.length ∧
      PartlyInstalled e key value i m left := by
  cases dryRun with
  | true =>
    have unchanged := execute_nothing (k := k) (m := m) (dry_upsert e)
    rw [failed] at unchanged
    exact .inl unchanged
  | false =>
    unfold upsertEntry at failed
    split at failed
    · exact .inl (congrArg Prod.fst failed).symm
    rename_i key found
    split at failed
    · exact .inl (congrArg Prod.fst failed).symm
    rename_i value counted
    rw [emit_andThen] at failed
    rcases execute_cons failed with same | ⟨next,taken,later⟩
    · exact .inl same
    cases taken
    rename_i service updated
    obtain ⟨i,stopped⟩ := loop_stops (Nat.zero_le _) (fun j none => absurd none (Nat.not_lt_zero j)) later
    have record : left.service = service := congrArg Maps.service stopped.rest
    refine .inr ⟨key,value,i,found,counted,stopped.short,?_,fun j below => ?_,fun k apart => ?_,?_⟩
    · rw [record]
      exact BoundedMap.lookup_update updated
    · have slots := stopped.filled j below
      rwa [Nat.zero_add] at slots
    · exact stopped.others k fun j below => (Nat.zero_add j).symm ▸ apart j below
    · rw [record]
      exact stopped.rest

end Upsert

section Examples

def halfGood : NodePortEntry :=
  ⟨⟨"default","shop",30080⟩,"192.168.56.10","192.168.56.10",[⟨"10.244.1.5",8080,"192.168.56.11"⟩,⟨"10.244.2.7",70000,"192.168.56.12"⟩]⟩

def halfDone : Maps := ((upsertEntry false halfGood).execute willing .empty).1

theorem halfGood_fails : ∃ err, (upsertEntry false halfGood).execute willing .empty = (halfDone,some err) := by
  have told : ((upsertEntry false halfGood).execute willing .empty).2.isSome = true := by decide
  obtain ⟨err,same⟩ := Option.isSome_iff_exists.mp told
  exact ⟨err,Prod.ext rfl same⟩

theorem halfGood_left : halfDone = .empty ∨ ∃ key value i, marshalFrontendKey halfGood.nodeIP halfGood.id.nodePort = .ok key ∧
    marshalServiceValue halfGood.snatIP halfGood.backends.length = .ok value ∧ i < halfGood.backends.length ∧
    PartlyInstalled halfGood key value i .empty halfDone := by
  obtain ⟨err,failed⟩ := halfGood_fails
  exact failed_upsert failed

-- The record promises two backends, and there is one.
theorem halfGood_published : ¬ ∀ (dryRun : Bool) (e : NodePortEntry) (k : Kernel) (m left : Maps) (err : String),
    (upsertEntry dryRun e).execute k m = (left,some err) → left.service = m.service ∧ left.backend = m.backend := by
  intro always
  obtain ⟨err,failed⟩ := halfGood_fails
  have kept := congrArg (·.lookup ⟨⟨192,168,56,10⟩,⟨0x75,0x80⟩,6,0⟩) (always false halfGood willing .empty halfDone err failed).1
  revert kept
  decide

end Examples
end Aipr.Syncer
