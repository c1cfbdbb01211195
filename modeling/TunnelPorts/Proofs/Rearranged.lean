import TunnelPorts.Proofs.Extract

/-!
Documents in another order. Two documents that hold the same entries, though in different orders at
any of their levels, name the same tunnels: extraction writes the same tokens, in another order, and
counts and collects the same.
-/

namespace TunnelPorts

namespace Level

variable {α β : Type}

-- Two entries of one name whose values are related by `R`.
def Alike (R : α → α → Prop) (e f : String × α) : Prop :=
  e.1 = f.1 ∧ R e.2 f.2

-- The same entries in another order, with values that are related by `R`.
inductive Rearranged (R : α → α → Prop) : Level α → Level α → Prop
  | object {es fs : Entries α} {l} : es.toList.Perm l → List.Forall₂ (Alike R) l fs.toList →
    Rearranged R (.object es) (.object fs)
  | notObject (found : Found) : Rearranged R (.notObject found) (.notObject found)

variable {R : α → α → Prop}

theorem forall_mem_iff_of_alike {P : String × α → Prop} {l l' : List (String × α)}
    (h : List.Forall₂ (Alike R) l l') (hP : ∀ k v v', R v v' → (P (k, v) ↔ P (k, v'))) :
    (∀ e ∈ l, P e) ↔ ∀ e ∈ l', P e := by
  induction h
  case nil => exact Iff.rfl
  case cons e f _ _ he _ hi =>
    have ⟨k, v⟩ := e
    have ⟨k', v'⟩ := f
    have ⟨hk, hv⟩ := he
    cases hk
    rw [List.forall_mem_cons, List.forall_mem_cons, hP k v v' hv, hi]

theorem flatMap_perm_of_alike {f : String × α → List β} {l l' : List (String × α)}
    (h : List.Forall₂ (Alike R) l l') (hf : ∀ k v v', R v v' → (f (k, v)).Perm (f (k, v'))) :
    (l.flatMap f).Perm (l'.flatMap f) := by
  induction h
  case nil => exact .refl _
  case cons e e' _ _ he _ hi =>
    have ⟨k, v⟩ := e
    have ⟨k', v'⟩ := e'
    have ⟨hk, hv⟩ := he
    cases hk
    exact (hf k v v' hv).append hi

namespace Rearranged

variable {level level' : Level α}

theorem all_iff {P : String × α → Prop} (h : Rearranged R level level')
    (hP : ∀ k v v', R v v' → (P (k, v) ↔ P (k, v'))) : level.All P ↔ level'.All P := by
  cases h
  case notObject => exact Iff.rfl
  case object es fs l hp hr =>
    have hl : (∀ e ∈ es.toList, P e) ↔ ∀ e ∈ l, P e := by simp [hp.mem_iff]
    exact hl.trans <| forall_mem_iff_of_alike hr hP

-- What entries contribute, they contribute in another order.
theorem flatMap_perm {f : String × α → List β} (h : Rearranged R level level')
    (hf : ∀ k v v', R v v' → (f (k, v)).Perm (f (k, v'))) :
    (level.entries.flatMap f).Perm (level'.entries.flatMap f) := by
  cases h
  case notObject    => exact .refl _
  case object hp hr => exact (hp.flatMap_right f).trans <| flatMap_perm_of_alike hr hf

theorem names_perm (h : Rearranged R level level') :
    (level.entries.map Prod.fst).Perm (level'.entries.map Prod.fst) := by
  rw [List.map_eq_flatMap, List.map_eq_flatMap]
  exact h.flatMap_perm fun _ _ _ _ => .refl _

end Rearranged
end Level

namespace Document

-- The same document but for the order of its sites, of the datacenters of each site and of the
-- tunnels of each datacenter.
def Rearranged : Document → Document → Prop :=
  Level.Rearranged <| Level.Rearranged <| Level.Rearranged (· = ·)

namespace Rearranged

variable {doc doc' : Document}

theorem isSound_iff (h : doc.Rearranged doc') : doc.IsSound ↔ doc'.IsSound := by
  refine h.all_iff fun _ s s' hs => hs.all_iff fun _ d d' hd => hd.all_iff fun k t t' ht => ?_
  rw [ht]

theorem datacenters_perm (h : doc.Rearranged doc') :
    (doc.datacenters.map Prod.fst).Perm (doc'.datacenters.map Prod.fst) := by
  simp only [datacenters, List.map_flatMap]
  exact h.flatMap_perm fun _ s s' hs => hs.names_perm

theorem keys_perm (h : doc.Rearranged doc') : doc.keys.Perm doc'.keys := by
  simp only [keys, datacenters, List.flatMap_assoc]
  exact h.flatMap_perm fun _ s s' hs => hs.flatMap_perm fun _ d d' hd => hd.names_perm

theorem ports_perm (h : doc.Rearranged doc') : doc.ports.Perm doc'.ports :=
  PortSet.eraseDups_perm <| h.keys_perm.map _

theorem summary_eq (h : doc.Rearranged doc') : doc.summary = doc'.summary := by
  have hs := h.names_perm.length_eq
  have hd := h.datacenters_perm.length_eq
  rw [List.length_map, List.length_map] at hs hd
  rw [summary, summary, hs, hd, h.keys_perm.length_eq, h.ports_perm.length_eq]

end Rearranged
end Document

-- The order of a document matters for the order of what is written, and for nothing else.
theorem extract_rearranged {doc doc' : Document} (h : doc.Rearranged doc') (out out' : Collected) :
    ((∃ o, (extract doc out).1 = .ok o) ↔ ∃ o', (extract doc' out').1 = .ok o') ∧
      ∀ o o', (extract doc out).1 = .ok o → (extract doc' out').1 = .ok o' →
        (doc.keys.map Key.token).Perm (doc'.keys.map Key.token) ∧
        (extract doc out).2.sink.received = out.received ++
          ((doc.keys.map Key.token).flatMap Text.utf8 ++ Text.utf8 "ports:\n" ++
            o.ports.toList.flatMap fun p => Text.utf8 (":" ++ p ++ ",")) ∧
        (extract doc' out').2.sink.received = out'.received ++
          ((doc'.keys.map Key.token).flatMap Text.utf8 ++ Text.utf8 "ports:\n" ++
            o'.ports.toList.flatMap fun p => Text.utf8 (":" ++ p ++ ",")) ∧
        o.summary = o'.summary ∧ o.ports == o'.ports := by
  refine ⟨extract_isOk_iff.trans <| h.isSound_iff.trans extract_isOk_iff.symm, ?_⟩
  intro o o' ho ho'
  have ⟨hr, hp, hs⟩ := extract_of_ok ho
  have ⟨hr', hp', hs'⟩ := extract_of_ok ho'
  refine ⟨h.keys_perm.map _, ?_, ?_, ?_, ?_⟩
  case refine_1 => rw [hr, hp, Document.output, Key.tokens, List.flatMap_map]
  case refine_2 => rw [hr', hp', Document.output, Key.tokens, List.flatMap_map]
  case refine_3 => rw [hs, hs', h.summary_eq]
  case refine_4 =>
    rw [PortSet.beq_iff_perm, hp, hp']
    exact h.ports_perm

theorem extract_rearranged_swapped :
    let d : Entries Unit := { toList := [("a_b_c_x_1", ()), ("a_b_c_y_2", ())] }
    let d' : Entries Unit := { toList := [("a_b_c_y_2", ()), ("a_b_c_x_1", ())] }
    let s : Entries Datacenter := { toList := [("d", .object d), ("e", .object {})] }
    let s' : Entries Datacenter := { toList := [("e", .object {}), ("d", .object d')] }
    let doc : Document := .object { toList := [("s", .object s), ("t", .object {})] }
    let doc' : Document := .object { toList := [("t", .object {}), ("s", .object s')] }
    let out : Collected := {}
    doc.Rearranged doc' ∧ ∃ o o', (extract doc out).1 = .ok o ∧ (extract doc' out).1 = .ok o' ∧
      (extract doc out).2.sink.received.toList = Text.utf8 "x:1,y:2,ports:\n:1,:2," ∧
      (extract doc' out).2.sink.received.toList = Text.utf8 "y:2,x:1,ports:\n:2,:1," ∧
      o.summary = o'.summary ∧ o.ports == o'.ports := by
  intro d d' s s' doc doc' out
  have hd : Level.Rearranged (· = ·) (.object d) (.object d') :=
    .object (.swap _ _ []) (.cons ⟨rfl, rfl⟩ <| .cons ⟨rfl, rfl⟩ .nil)
  have he {α : Type} {R : α → α → Prop} : Level.Rearranged R (.object {}) (.object {}) :=
    .object .nil .nil
  have hs : Level.Rearranged (Level.Rearranged (· = ·)) (.object s) (.object s') :=
    .object (.swap _ _ []) (.cons ⟨rfl, he⟩ <| .cons ⟨rfl, hd⟩ .nil)
  have h : doc.Rearranged doc' :=
    .object (.swap _ _ []) (.cons ⟨rfl, he⟩ <| .cons ⟨rfl, hs⟩ .nil)
  have ⟨hi, hr⟩ := extract_rearranged h out out
  have ⟨o, ho⟩ : ∃ o, (extract doc out).1 = .ok o := extract_isOk_iff.mpr (by decide +kernel)
  have ⟨o', ho'⟩ := hi.mp ⟨o, ho⟩
  have ⟨_, _, _, hc, hp⟩ := hr o o' ho ho'
  refine ⟨h, o, o', ho, ho', ?_, ?_, hc, hp⟩
  case refine_1 => rw [(extract_of_ok ho).left]; decide +kernel
  case refine_2 => rw [(extract_of_ok ho').left]; decide +kernel

end TunnelPorts
