import TunnelPorts.PortSet
import TunnelPorts.Proofs.Distinct

/-!
Port sets over whole runs: what is in a set after a sequence of ports went in, and in which order,
and which of the ports were new when they went in.
-/

namespace TunnelPorts.PortSet

-- The set after some ports went into `s`, one after the other.
def insertAll (s : PortSet) (ports : List String) : PortSet :=
  ports.foldl insert s

@[simp]
theorem insertAll_nil (s : PortSet) : s.insertAll [] = s :=
  rfl

theorem insertAll_append (s : PortSet) (ps qs : List String) :
    s.insertAll (ps ++ qs) = (s.insertAll ps).insertAll qs :=
  List.foldl_append

theorem toList_insertAll (s : PortSet) (ports : List String) :
    (s.insertAll ports).toList = s.toList ++ (ports.filter (· ∉ s.toList)).eraseDups := by
  have h := foldl_distinct toList id toList_insert s ports
  rwa [List.map_id] at h

theorem toList_ofList (ports : List String) : (ofList ports).toList = ports.eraseDups := by
  have h := toList_insertAll .empty ports
  rw [List.filter_eq_self.2 (by simp)] at h
  exact h

theorem nodup_eraseDups (ports : List String) : ports.eraseDups.Nodup :=
  toList_ofList ports ▸ (ofList ports).nodup

-- In which order ports come does not matter for which of them are distinct.
theorem eraseDups_perm {ps qs : List String} (h : ps.Perm qs) :
    ps.eraseDups.Perm qs.eraseDups := by
  refine List.perm_ext_iff_of_nodup (nodup_eraseDups ps) (nodup_eraseDups qs) |>.mpr fun p => ?_
  rw [List.mem_eraseDups, List.mem_eraseDups, h.mem_iff]

theorem beq_iff_perm {s t : PortSet} : s == t ↔ s.toList.Perm t.toList := by
  have hb : s == t ↔ s.size = t.size ∧ ∀ p ∈ s.toList, p ∈ t.toList := by
    change (s.size == t.size && s.toList.all t.contains) = true ↔ _
    simp
  rw [hb]
  constructor
  case mp =>
    intro ⟨hs, hm⟩
    exact s.nodup.subperm hm |>.perm_of_length_le hs.ge
  case mpr =>
    intro h
    exact ⟨h.length_eq, fun p hp => h.mem_iff.mp hp⟩

-- A port is new if it is not there yet, and it is there afterwards in any case.
theorem insertNew_eq (s : PortSet) (port : String) :
    s.insertNew port = (decide (port ∉ s.toList), s.insert port) := by
  by_cases h : port ∈ s.toList
  case pos => simp [insertNew, insert, h]
  case neg => simp [insertNew, h]

-- Ports go in one after the other: whether each of them was new, and the set in the end.
def insertEach (s : PortSet) : List String → List Bool × PortSet
  | []            => ([], s)
  | port :: ports =>
    let (isNew, s) := s.insertNew port
    let (news, s) := s.insertEach ports
    (isNew :: news, s)

theorem insertEach_eq (s : PortSet) (ports : List String) :
    s.insertEach ports =
      (ports.mapIdx fun i p => decide (p ∉ s.toList ∧ p ∉ ports.take i), s.insertAll ports) := by
  induction ports generalizing s
  case nil => rfl
  case cons port ports hi =>
    rw [insertEach, insertNew_eq]
    dsimp only
    rw [hi, List.mapIdx_cons]
    simp [insertAll, and_assoc]

theorem mem_toList_ofList {ports : List String} {port : String} :
    port ∈ (ofList ports).toList ↔ port ∈ ports := by
  rw [toList_ofList, List.mem_eraseDups]

theorem ofList_concat (ports : List String) (port : String) :
    ofList (ports ++ [port]) = (ofList ports).insert port :=
  List.foldl_concat ..

-- Ports are in the order in which they went in for the first time.
theorem pairwise_toList_ofList (ports : List String) :
    (ofList ports).toList.Pairwise fun p q => ports.idxOf p < ports.idxOf q := by
  induction ports using List.reverseRecOn
  case nil => exact .nil
  case append_singleton ports port hi =>
    have hm {p} (h : p ∈ (ofList ports).toList) : (ports ++ [port]).idxOf p = ports.idxOf p :=
      List.idxOf_append_of_mem <| mem_toList_ofList.mp h
    have hp : (ofList ports).toList.Pairwise fun p q =>
        (ports ++ [port]).idxOf p < (ports ++ [port]).idxOf q :=
      hi.imp_of_mem fun hp hq h => by rwa [hm hp, hm hq]
    rw [ofList_concat, toList_insert]
    split
    case isTrue    => exact hp
    case isFalse h =>
      refine List.pairwise_append.mpr ⟨hp, List.pairwise_singleton .., fun p hp q hq => ?_⟩
      rw [List.mem_singleton.mp hq, hm hp,
        List.idxOf_append_of_notMem <| mem_toList_ofList.not.mp h]
      have := List.idxOf_lt_length_of_mem <| mem_toList_ofList.mp hp
      omega

theorem size_ofList (ports : List String) : (ofList ports).size = ports.toFinset.card := by
  rw [size, ← List.toFinset_card_of_nodup (ofList ports).nodup]
  congr 1
  ext port
  rw [List.mem_toFinset, List.mem_toFinset, mem_toList_ofList]

theorem isEmpty_ofList {ports : List String} : (ofList ports).isEmpty ↔ ports = [] := by
  simp only [isEmpty, List.isEmpty_iff, List.eq_nil_iff_forall_not_mem, mem_toList_ofList]

theorem ofList_beq_iff {ports ports' : List String} :
    ofList ports == ofList ports' ↔ ∀ p, p ∈ ports ↔ p ∈ ports' := by
  rw [beq_iff_perm, List.perm_ext_iff_of_nodup (ofList ports).nodup (ofList ports').nodup]
  simp only [mem_toList_ofList]

-- A set that was empty holds the ports that went in, in the order in which each of them was new.
theorem insertEach_empty (ports : List String) :
    let news := (empty.insertEach ports).1
    let s := (empty.insertEach ports).2
    news = (ports.mapIdx fun i p => decide (p ∉ ports.take i)) ∧
      s.toList = ports.eraseDups ∧
      s.toList.Pairwise (fun p q => ports.idxOf p < ports.idxOf q) ∧
      s.size = ports.toFinset.card ∧
      (s.isEmpty ↔ ports = []) ∧
      (∀ p, s.contains p ↔ p ∈ ports) ∧
      ∀ ports', s == (empty.insertEach ports').2 ↔ ∀ p, p ∈ ports ↔ p ∈ ports' := by
  have he ports : empty.insertEach ports =
      (ports.mapIdx fun i p => decide (p ∉ ports.take i), ofList ports) := by
    rw [insertEach_eq]
    simp [insertAll, ofList]
  simp only [he]
  refine ⟨trivial, toList_ofList ports, pairwise_toList_ofList ports, size_ofList ports,
    isEmpty_ofList, fun p => ?_, fun ports' => ofList_beq_iff⟩
  rw [contains_iff, mem_toList_ofList]

end TunnelPorts.PortSet
