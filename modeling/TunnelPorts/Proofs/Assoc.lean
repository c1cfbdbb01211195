import Mathlib
import TunnelPorts.Assoc

/-!
Lists of named values in which no name occurs twice, and all of whose values are of some sort. They
stay so when a name is given a value of that sort.
-/

namespace TunnelPorts.Assoc

variable {α : Type} {P : α → Prop} {l : List (String × α)} {k : String} {v : α}

structure Distinct (P : α → Prop) (l : List (String × α)) : Prop where
  nodup : (l.map Prod.fst).Nodup
  values : ∀ e ∈ l, P e.2

theorem lookup_cons (k k' : String) (v : α) (l : List (String × α)) :
    List.lookup k ((k', v) :: l) = if k = k' then some v else l.lookup k := by
  by_cases h : k = k'
  case pos => simp [h]
  case neg => simp [h, List.lookup_cons, beq_eq_false_iff_ne.mpr h]

theorem lookup_eq_none (h : k ∉ l.map Prod.fst) : l.lookup k = none := by
  rw [List.lookup_eq_none_iff]
  intro e he
  rw [bne_iff_ne]
  rintro rfl
  exact h <| List.mem_map_of_mem he

theorem lookup_of_mem (hn : (l.map Prod.fst).Nodup) (h : (k, v) ∈ l) : l.lookup k = some v := by
  induction l
  case nil => contradiction
  case cons e l hi =>
    have ⟨k', u⟩ := e
    have ⟨hm, hn⟩ := List.nodup_cons.mp hn
    rw [lookup_cons]
    cases h
    case head => exact if_pos rfl
    case tail h =>
      have hk : k ≠ k' := by
        rintro rfl
        exact hm <| List.mem_map.mpr ⟨_, h, rfl⟩
      rw [if_neg hk, hi hn h]

theorem set_of_not_mem (h : k ∉ l.map Prod.fst) : set k v l = l ++ [(k, v)] := by
  induction l
  case nil => rfl
  case cons e l hi =>
    simp only [List.map_cons, List.mem_cons, not_or] at h
    rw [set, if_neg (Ne.symm h.left), hi h.right, List.cons_append]

theorem mem_set {e : String × α} (h : e ∈ set k v l) : e ∈ l ∨ e = (k, v) := by
  induction l
  case nil => simpa [set] using h
  case cons e' l hi =>
    rw [set] at h
    split at h
    case isTrue  => grind
    case isFalse => rcases List.mem_cons.mp h with h | h <;> grind

namespace Distinct

theorem nil : Distinct P [] where
  nodup := List.nodup_nil
  values _ h := nomatch h

theorem lookup (h : Distinct P l) (hv : l.lookup k = some v) : P v := by
  have ⟨l₁, l₂, hl, _⟩ := List.lookup_eq_some_iff.mp hv
  exact h.values (k, v) (by simp [hl])

theorem set (h : Distinct P l) (hv : P v) (k : String) : Distinct P (set k v l) where
  nodup := nodup_set k v h.nodup
  values e he := by
    rcases mem_set he with he | rfl
    case inl => exact h.values e he
    case inr => exact hv

end Distinct
end TunnelPorts.Assoc
