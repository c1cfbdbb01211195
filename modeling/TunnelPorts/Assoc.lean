/-!
Lists of named values. `set` gives a name a value: in the name's place if it has one, and at the end
otherwise, so that a name occurs once if it did before.
-/

namespace TunnelPorts.Assoc

variable {α : Type}

def set (key : String) (v : α) : List (String × α) → List (String × α)
  | []          => [(key, v)]
  | (k, u) :: l => if k = key then (key, v) :: l else (k, u) :: set key v l

theorem map_fst_set (key : String) (v : α) (l : List (String × α)) :
    (set key v l).map Prod.fst =
      if key ∈ l.map Prod.fst then l.map Prod.fst else l.map Prod.fst ++ [key] := by
  induction l with
  | nil => rfl
  | cons e l ih =>
    by_cases h : e.1 = key
    · simp [set, h]
    · have h' : key ≠ e.1 := fun e => h e.symm
      simp only [set, h, if_false, List.map_cons, ih, List.mem_cons, h', false_or]
      split <;> rfl

theorem nodup_set (key : String) (v : α) {l : List (String × α)} (h : (l.map Prod.fst).Nodup) :
    ((set key v l).map Prod.fst).Nodup := by
  rw [map_fst_set]
  split
  case isTrue => exact h
  case isFalse hk => exact List.nodup_append.2 ⟨h, by simp, by grind⟩

theorem lookup_set (key k : String) (v : α) (l : List (String × α)) :
    (set key v l).lookup k = if k = key then some v else l.lookup k := by
  induction l with
  | nil => grind [set]
  | cons e l ih => by_cases he : e.1 = key <;> by_cases hk : k = e.1 <;> grind [set]

end TunnelPorts.Assoc
