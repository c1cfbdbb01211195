import Mathlib
import TunnelPorts.Text.Split

/-!
Lists split at a separator. What was put together with separators in between, or with one behind
each part, is taken apart again; and pieces that are taken one at a time are those of the whole.
-/

namespace TunnelPorts.Text

variable {α : Type} [DecidableEq α]

theorem split_eq_splitOn (separator : α) (as : List α) :
    split separator as = as.splitOn separator := by
  induction as
  case nil         => rfl
  case cons a _ hi =>
    rw [List.splitOn] at hi ⊢
    by_cases h : a = separator <;> simp [split, h, hi, List.splitOnP_cons_eq_if_modifyHead]

variable {separator : α} {as : List α}

theorem split_of_not_mem (h : separator ∉ as) : split separator as = [as] := by
  induction as
  case nil => rfl
  case cons a as hi =>
    have ⟨ha, has⟩ := not_or.mp <| List.mem_cons.not.mp h
    rw [split, if_neg (Ne.symm ha), hi has, List.modifyHead_cons]

theorem split_append_cons (as bs : List α) :
    split separator (as ++ separator :: bs) = split separator as ++ split separator bs := by
  induction as
  case nil => simp [split]
  case cons a as hi =>
    rw [List.cons_append, split, split, hi]
    split
    case isTrue  => rfl
    case isFalse =>
      -- There is always a first piece to extend.
      have hl := length_split separator as
      cases hs : split separator as
      case nil  => simp [hs] at hl
      case cons => rfl

-- A separator behind each part, and something without one behind the last.
theorem split_terminated {parts : List (List α)} (hp : ∀ p ∈ parts, separator ∉ p)
    (ha : separator ∉ as) :
    split separator ((parts.flatMap fun p => p ++ [separator]) ++ as) = parts ++ [as] := by
  induction parts
  case nil => exact split_of_not_mem ha
  case cons p ps hi =>
    have ⟨hp, hps⟩ := List.forall_mem_cons.mp hp
    rw [List.flatMap_cons, List.append_assoc, List.append_assoc, List.singleton_append,
      split_append_cons, split_of_not_mem hp, hi hps]
    rfl

theorem split_eq_cut (separator : α) (as : List α) :
    split separator as =
      (cut separator as).1 :: (cut separator as).2.elim [] (split separator) := by
  induction as
  case nil => rfl
  case cons a as hi =>
    rw [split, cut]
    split
    case isTrue  => rfl
    case isFalse => rw [hi, List.modifyHead_cons]

theorem cut_append (separator : α) (as : List α) :
    (cut separator as).1 ++ (cut separator as).2.elim [] (separator :: ·) = as := by
  induction as
  case nil => rfl
  case cons a as hi =>
    rw [cut]
    split
    case isTrue h  => simp [h]
    case isFalse   => exact congrArg (a :: ·) hi

theorem not_mem_cut (separator : α) (as : List α) : separator ∉ (cut separator as).1 := by
  induction as
  case nil => exact List.not_mem_nil
  case cons a as hi =>
    rw [cut]
    split
    case isTrue    => exact List.not_mem_nil
    case isFalse h => simp [hi, Ne.symm h]

-- The first piece ends where the text does, or at a separator with the other pieces behind it.
theorem exists_of_split {piece : List α} {pieces : List (List α)}
    (h : split separator as = piece :: pieces) :
    separator ∉ piece ∧ (pieces = [] ∧ as = piece ∨
      ∃ bs, as = piece ++ separator :: bs ∧ split separator bs = pieces) := by
  have ha := cut_append separator as
  have hm := not_mem_cut separator as
  rw [split_eq_cut] at h
  rcases hc : cut separator as with ⟨piece', _ | bs⟩ <;> simp only [hc] at h ha hm <;> cases h
  case none => exact ⟨hm, .inl ⟨rfl, by simpa using ha.symm⟩⟩
  case some => exact ⟨hm, .inr ⟨bs, ha.symm, rfl⟩⟩

theorem exists_of_split_cons {piece next : List α} {pieces : List (List α)}
    (h : split separator as = piece :: next :: pieces) :
    separator ∉ piece ∧
      ∃ bs, as = piece ++ separator :: bs ∧ split separator bs = next :: pieces := by
  have ⟨hm, h⟩ := exists_of_split h
  exact ⟨hm, h.resolve_left (nomatch ·.left)⟩

namespace Pieces

-- The pieces that are still to be taken.
def toList (separator : α) (p : Pieces α) : List (List α) :=
  p.rest?.elim [] (split separator)

theorem next?_fst (separator : α) (p : Pieces α) :
    (p.next? separator).1 = (p.toList separator).head? := by
  have ⟨rest?⟩ := p
  cases rest?
  case none => rfl
  case some => simp [next?, toList, split_eq_cut]

theorem toList_next? (separator : α) (p : Pieces α) :
    (p.next? separator).2.toList separator = (p.toList separator).tail := by
  have ⟨rest?⟩ := p
  cases rest?
  case none => rfl
  case some => simp [next?, toList, split_eq_cut separator (_ : List α)]

-- Pieces are taken in order, and none twice.
theorem nth?_eq (separator : α) (p : Pieces α) (n : Nat) :
    (p.nth? separator n).1 = (p.toList separator)[n]? ∧
      (p.nth? separator n).2.toList separator = (p.toList separator).drop (n + 1) := by
  induction n generalizing p
  case zero => simp [nth?, next?_fst, toList_next?, List.head?_eq_getElem?]
  case succ n hi =>
    have hf := next?_fst separator p
    have ht := toList_next? separator p
    rw [nth?]
    rcases h : p.next? separator with ⟨_ | piece, q⟩ <;> rw [h] at hf ht
    case none =>
      have hl : p.toList separator = [] := List.head?_eq_none_iff.mp hf.symm
      rw [hl] at ht ⊢
      exact ⟨rfl, ht⟩
    case some =>
      have ⟨ps, hl⟩ := List.head?_eq_some_iff.mp hf.symm
      rw [hl] at ht ⊢
      simpa [ht] using hi q

end Pieces
end TunnelPorts.Text
