import Mathlib.Data.List.TakeWhile
import Aipr.EnvDetect
import Aipr.Grouping

namespace Aipr.EnvDetect
open Syncer FirstPerKey Grouping

def written (opts : DetectOptions) : List String := distinctNames (innerFields opts.innerIfaces)

def LocalFallsBack (machine : Machine) (opts : DetectOptions) (facts : ClusterFacts) : Prop :=
  trimmed opts.localDeliveryIface = "" ∧ detectIfaceForTargets machine (localTargets facts) = ""

def RemoteFallsBack (machine : Machine) (opts : DetectOptions) (facts : ClusterFacts) : Prop :=
  trimmed opts.remoteDeliveryIface = "" ∧ detectIfaceForTargets machine (remoteTargets facts) = ""

def Positional (machine : Machine) (opts : DetectOptions) (facts : ClusterFacts) (env : Environment) : Prop :=
  (LocalFallsBack machine opts facts → ∀ name, (written opts)[0]? = some name → env.localDeliveryIface = name) ∧
    (RemoteFallsBack machine opts facts → ∀ name, (written opts)[1]? = some name → env.remoteDeliveryIface = name)

def InPlace (listed : List String) (i : Nat) : Prop :=
  ∀ name, listed[i]? = some name → (listed.countP fun other => other < name) = i

theorem mem_splitAt {separator : Char → Bool} {s field : List Char} (member : field ∈ splitAt separator s) {c : Char}
    (inside : c ∈ field) : c ∈ s := by
  induction s generalizing field with
  | nil =>
    rw [splitAt,List.mem_singleton] at member
    rw [member] at inside
    exact inside
  | cons first rest ih =>
    rw [splitAt] at member
    split at member
    · rcases List.mem_cons.mp member with rfl | later
      · cases inside
      · exact List.mem_cons_of_mem _ (ih later inside)
    · split at member
      · rw [List.mem_singleton.mp member] at inside
        rw [List.mem_singleton.mp inside]
        exact List.mem_cons_self
      · rename_i head fields found
        rcases List.mem_cons.mp member with rfl | later
        · rcases List.mem_cons.mp inside with rfl | inside
          · exact List.mem_cons_self
          · exact List.mem_cons_of_mem _ (ih (found ▸ List.mem_cons_self) inside)
        · exact List.mem_cons_of_mem _ (ih (found ▸ List.mem_cons_of_mem _ later) inside)

theorem trimSpace_nil {s : List Char} : trimSpace s = [] ↔ ∀ c ∈ s, isSpace c := by
  rw [trimSpace,List.reverse_eq_nil_iff,List.dropWhile_eq_nil_iff]
  constructor
  · intro blank c member
    rw [← List.takeWhile_append_dropWhile (p := isSpace) (l := s)] at member
    rcases List.mem_append.mp member with front | back
    · exact List.mem_takeWhile_imp front
    · exact blank c (List.mem_reverse.mpr back)
  · intro blank c member
    exact blank c ((List.dropWhile_sublist isSpace).subset (List.mem_reverse.mp member))

theorem trimmed_empty {s : String} : trimmed s = "" ↔ ∀ c ∈ s.toList, isSpace c := by
  rw [← trimSpace_nil,trimmed]
  constructor
  · intro empty
    have chars := congrArg String.toList empty
    rw [String.toList_ofList] at chars
    exact chars
  · intro empty
    rw [empty]

theorem mem_distinctNames {items : List String} {name : String} (member : name ∈ distinctNames items) :
    name ≠ "" ∧ ∃ item ∈ items, trimmed item = name := by
  obtain ⟨listed,given⟩ := List.mem_filter.mp (mem_of_firsts member).1
  exact ⟨of_decide_eq_true given,List.mem_map.mp listed⟩

theorem nodup_distinctNames (items : List String) : (distinctNames items).Nodup := by
  have keys : ((distinctNames items).map id).Nodup := nodup_keys
  rw [List.map_id] at keys
  exact keys

theorem normalizeCSV_sorted (raw : String) : normalizeCSV raw = (distinctNames (innerFields raw)).insertionSort (· ≤ ·) := by
  unfold normalizeCSV
  split
  · rename_i blank
    have none : distinctNames (innerFields raw) = [] := by
      apply List.eq_nil_iff_forall_not_mem.mpr
      intro name member
      obtain ⟨given,item,listed,rfl⟩ := mem_distinctNames member
      obtain ⟨field,found,rfl⟩ := List.mem_map.mp listed
      apply given
      apply trimmed_empty.mpr
      intro c inside
      rw [String.toList_ofList] at inside
      exact trimmed_empty.mp blank c (mem_splitAt (List.mem_filter.mp found).1 inside)
    rw [none]
    rfl
  · rfl

section Detected
variable {machine : Machine} {opts : DetectOptions} {facts : ClusterFacts} {env : Environment} {name : String}

theorem detect_parts (detected : detect machine opts facts = .ok env) :
    detectLocal machine opts facts = .ok env.localDeliveryIface ∧
      detectRemote machine opts facts = .ok env.remoteDeliveryIface := by
  obtain ⟨resolvedExternal,-,rest⟩ := bind_ok.mp detected
  obtain ⟨resolvedLocal,near,rest⟩ := bind_ok.mp rest
  obtain ⟨resolvedRemote,far,rest⟩ := bind_ok.mp rest
  obtain ⟨resolvedMode,-,same⟩ := bind_ok.mp rest
  cases same
  exact ⟨near,far⟩

theorem normalizeCSV_given (place : Nat) (listed : (normalizeCSV opts.innerIfaces)[place]? = some name) : name ≠ "" := by
  rw [normalizeCSV_sorted] at listed
  have member := List.mem_of_getElem? listed
  rw [List.mem_insertionSort] at member
  exact (mem_distinctNames member).1

theorem firstNonEmpty_third (given : name ≠ "") (rest : List String) : firstNonEmpty ("" :: "" :: name :: rest) = name := by
  unfold firstNonEmpty
  simp [given]

theorem detectLocal_fallback (falls : LocalFallsBack machine opts facts)
    (listed : (normalizeCSV opts.innerIfaces)[0]? = some name) : detectLocal machine opts facts = .ok name := by
  have given := normalizeCSV_given 0 listed
  have unconfigured : ¬ ("" ≠ "" ∧ !ifaceExists machine "") := fun both => both.1 rfl
  unfold detectLocal
  dsimp only
  rw [falls.1,falls.2,List.getD_eq_getElem?_getD,listed,Option.getD_some,if_neg unconfigured,firstNonEmpty_third given]
  split
  · exact absurd rfl given
  · rfl

theorem detectRemote_fallback (falls : RemoteFallsBack machine opts facts)
    (listed : (normalizeCSV opts.innerIfaces)[1]? = some name) : detectRemote machine opts facts = .ok name := by
  have given := normalizeCSV_given 1 listed
  have unconfigured : ¬ ("" ≠ "" ∧ !ifaceExists machine "") := fun both => both.1 rfl
  unfold detectRemote
  dsimp only
  rw [falls.1,falls.2,List.getD_eq_getElem?_getD,listed,Option.getD_some,if_neg unconfigured,firstNonEmpty_third given]

-- The sorted list has at a place the name written there exactly when it is in place.
theorem sorted_in_place (place : Nat) (listed : (written opts)[place]? = some name) :
    ∃ chosen, (normalizeCSV opts.innerIfaces)[place]? = some chosen ∧
      (chosen = name ↔ ((written opts).countP fun other => other < name) = place) := by
  have sameLength : ((written opts).insertionSort (· ≤ ·)).length = (written opts).length :=
    List.length_insertionSort _ _
  obtain ⟨low,-⟩ := List.getElem?_eq_some_iff.mp listed
  rw [← sameLength] at low
  rw [normalizeCSV_sorted]
  refine ⟨_,List.getElem?_eq_getElem low,?_⟩
  have rank : ((written opts).insertionSort (· ≤ ·))[place]? = some name ↔
      ((written opts).countP fun other => other < name) = place :=
    sort_getElem_iff (nodup_distinctNames _) (List.mem_of_getElem? listed) place
  rw [← rank,List.getElem?_eq_getElem low,Option.some.injEq]

end Detected

theorem positional_in_place {machine : Machine} {opts : DetectOptions} {facts : ClusterFacts} {env : Environment}
    (detected : detect machine opts facts = .ok env) : Positional machine opts facts env ↔
      (LocalFallsBack machine opts facts → InPlace (written opts) 0) ∧
        (RemoteFallsBack machine opts facts → InPlace (written opts) 1) := by
  obtain ⟨near,far⟩ := detect_parts detected
  refine and_congr (forall_congr' fun falls => forall_congr' fun name => forall_congr' fun listed => ?_)
    (forall_congr' fun falls => forall_congr' fun name => forall_congr' fun listed => ?_)
  · obtain ⟨chosen,sorted,same⟩ := sorted_in_place 0 listed
    rw [detectLocal_fallback falls sorted] at near
    rw [← Except.ok.inj near]
    exact same
  · obtain ⟨chosen,sorted,same⟩ := sorted_in_place 1 listed
    rw [detectRemote_fallback falls sorted] at far
    rw [← Except.ok.inj far]
    exact same

def plainMachine : Machine := ⟨.ok "k8s-worker1",fun _ => true,.ok [],fun _ => ("",none)⟩

def listOnly (raw : String) : DetectOptions := ⟨"eth0","","","native","",raw,""⟩

def noTargets : ClusterFacts := ⟨"k8s-worker1","",[],[]⟩

theorem listOnly_local (raw : String) : LocalFallsBack plainMachine (listOnly raw) noTargets := ⟨rfl,rfl⟩

theorem listOnly_remote (raw : String) : RemoteFallsBack plainMachine (listOnly raw) noTargets := ⟨rfl,rfl⟩

theorem listOnly_detected (raw : String) : ∃ env, detect plainMachine (listOnly raw) noTargets = .ok env := by
  have iface : trimmed "eth0" = "eth0" := by decide
  have blank : trimmed "" = "" := rfl
  have outside : detectExternal plainMachine (listOnly raw) noTargets = .ok "eth0" := by
    simp [detectExternal,listOnly,plainMachine,ifaceExists,firstNonEmpty,iface]
  have near : ∃ iface, detectLocal plainMachine (listOnly raw) noTargets = .ok iface := by
    cases listed : (normalizeCSV raw)[0]? with
    | some name => exact ⟨name,detectLocal_fallback (listOnly_local raw) listed⟩
    | none =>
      have bridge : firstExisting plainMachine localDeliveryCandidates = "cni0" := by decide
      have targets : detectIfaceForTargets plainMachine (localTargets noTargets) = "" := rfl
      have empty : normalizeCSV raw = [] := List.eq_nil_of_length_eq_zero (Nat.le_zero.mp (List.getElem?_eq_none_iff.mp listed))
      refine ⟨"cni0",?_⟩
      simp [detectLocal,listOnly,snatDelivery,ifaceExists,firstNonEmpty,blank,targets,empty,bridge]
  obtain ⟨resolvedLocal,near⟩ := near
  have far : ∃ iface, detectRemote plainMachine (listOnly raw) noTargets = .ok iface := ⟨_,rfl⟩
  obtain ⟨resolvedRemote,far⟩ := far
  have lower : toLower (trimmed "native") = "native" := by decide
  have mode : detectMode (listOnly raw) "eth0" resolvedRemote = .ok "native" := by
    simp [detectMode,listOnly,lower]
  exact ⟨_,bind_ok.mpr ⟨_,outside,bind_ok.mpr ⟨_,near,bind_ok.mpr ⟨_,far,bind_ok.mpr ⟨_,mode,rfl⟩⟩⟩⟩⟩

-- The list is positional for every machine and all other options when the first two
-- names are in place, and only then.
theorem inner_list_iff (raw : String) :
    ((∀ machine opts facts env, opts.innerIfaces = raw → detect machine opts facts = .ok env →
        Positional machine opts facts env) ↔
      InPlace (distinctNames (innerFields raw)) 0 ∧ InPlace (distinctNames (innerFields raw)) 1) ∧
    ∀ machine opts facts env, opts.innerIfaces = raw → detect machine opts facts = .ok env →
      (Positional machine opts facts env ↔
        (LocalFallsBack machine opts facts → InPlace (distinctNames (innerFields raw)) 0) ∧
          (RemoteFallsBack machine opts facts → InPlace (distinctNames (innerFields raw)) 1)) := by
  refine ⟨⟨?_,?_⟩,?_⟩
  · intro positional
    obtain ⟨env,detected⟩ := listOnly_detected raw
    obtain ⟨near,far⟩ := (positional_in_place detected).mp (positional _ _ _ _ rfl detected)
    exact ⟨near (listOnly_local raw),far (listOnly_remote raw)⟩
  · rintro ⟨near,far⟩ machine opts facts env rfl detected
    exact (positional_in_place detected).mpr ⟨fun _ => near,fun _ => far⟩
  · rintro machine opts facts env rfl detected
    exact positional_in_place detected

theorem flannel_first : distinctNames (innerFields "flannel.1,cni0") = ["flannel.1","cni0"] ∧
    LocalFallsBack plainMachine (listOnly "flannel.1,cni0") noTargets ∧
    RemoteFallsBack plainMachine (listOnly "flannel.1,cni0") noTargets ∧
    detect plainMachine (listOnly "flannel.1,cni0") noTargets =
      .ok ⟨"eth0","cni0","flannel.1","native",["cni0","flannel.1"]⟩ := by
  refine ⟨by decide,listOnly_local _,listOnly_remote _,by decide⟩

end Aipr.EnvDetect
