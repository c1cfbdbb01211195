import Mathlib

/-!
Collections that take in one value after the other and keep the order in which they saw them first.
-/

namespace TunnelPorts

variable {σ α β : Type} [BEq β] [LawfulBEq β]

-- What comes on top of a collection are the names that are not in it, each where it is first seen.
theorem foldl_distinct {insert : σ → α → σ} (names : σ → List β) (name : α → β)
    (h : ∀ s a, names (insert s a) = if name a ∈ names s then names s else names s ++ [name a])
    (s : σ) (l : List α) :
    names (l.foldl insert s) = names s ++ ((l.map name).filter (· ∉ names s)).eraseDups := by
  induction l generalizing s
  case nil => simp
  case cons a l hi =>
    rw [List.foldl_cons, hi, h]
    split
    case isTrue hm => simp [hm]
    case isFalse hm =>
      simp only [List.map_cons, List.filter_cons, hm, not_false_iff, decide_true, if_true,
        List.eraseDups_cons, List.filter_filter, List.append_assoc, List.singleton_append]
      congr 3
      exact List.filter_congr (by grind)

end TunnelPorts
