import TunnelPorts.Entries
import TunnelPorts.Proofs.Distinct

/-!
Entries over whole runs: what is there after a sequence of named values went in, and in which order.
-/

namespace TunnelPorts

-- Lists of named values without duplicates are known by their names and what these stand for.
theorem Assoc.eq_of_lookup {α : Type} {l l' : List (String × α)} (hn : (l.map Prod.fst).Nodup)
    (hk : l.map Prod.fst = l'.map Prod.fst) (hl : ∀ k, l.lookup k = l'.lookup k) : l = l' := by
  induction l generalizing l'
  case nil => simpa using hk
  case cons e l hi =>
    cases l'
    case nil        => simp at hk
    case cons e' l' =>
      have ⟨k, v⟩ := e
      have ⟨k', v'⟩ := e'
      simp at hk hn
      have ⟨he, ht⟩ := hk
      subst he
      have hv : v = v' := by simpa using hl k
      have hj j : l.lookup j = l'.lookup j := by
        by_cases hj : j = k
        case neg => simpa [List.lookup_cons, beq_eq_false_iff_ne.mpr hj] using hl j
        case pos =>
          have hk : k ∉ l'.map Prod.fst := ht ▸ (by simpa using hn.left)
          rw [hj, List.lookup_eq_none_iff.mpr, List.lookup_eq_none_iff.mpr] <;> grind
      rw [hv, hi hn.right ht hj]

namespace Entries

variable {α : Type}

theorem eq_of_lookup {es fs : Entries α} (hk : es.keys = fs.keys)
    (hl : ∀ k, es.toList.lookup k = fs.toList.lookup k) : es = fs := by
  have h := Assoc.eq_of_lookup es.nodup hk hl
  cases es
  cases fs
  congr

-- The entries after some members went into `es`, one after the other.
def insertAll (es : Entries α) (members : List (String × α)) : Entries α :=
  members.foldl (fun es e => es.insert e.1 e.2) es

theorem keys_insertAll (es : Entries α) (members : List (String × α)) :
    (es.insertAll members).keys =
      es.keys ++ ((members.map Prod.fst).filter (· ∉ es.keys)).eraseDups :=
  foldl_distinct keys Prod.fst (fun es e => keys_insert es e.1 e.2) es members

theorem lookup_insertAll (es : Entries α) (members : List (String × α)) (k : String) :
    (es.insertAll members).toList.lookup k =
      (members.reverse.lookup k).or (es.toList.lookup k) := by
  induction members generalizing es
  case nil          => rfl
  case cons e ms hi =>
    have ⟨name, v⟩ := e
    have h : (es.insert name v).toList.lookup k = if k = name then some v else es.toList.lookup k :=
      Assoc.lookup_set name k v es.toList
    rw [insertAll, List.foldl_cons, ← insertAll, hi, h, List.reverse_cons, List.lookup_append]
    by_cases hk : k = name
    case pos => simp [hk]
    case neg => simp [hk, List.lookup_cons, beq_eq_false_iff_ne.mpr hk]

end Entries
end TunnelPorts
