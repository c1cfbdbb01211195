import Mathlib
import TunnelPorts.Text.Scan

/-!
What a scan does to a text, as equations by which it is followed step by step, and what it gives,
wherever it is put. `scan.Gives P` says that whatever `scan` reads is of the sort `P`, which is all
that matters where the spelling of a value does not. `scan.Leaves s rest` says how far `scan` gets,
which is all that matters where something that cannot be read stands behind.
-/

namespace TunnelPorts.Scan

variable {α β : Type}

-- No character of the sort stands first.
def Stops (p : Char → Bool) (s : List Char) : Prop :=
  s.head?.any p = false

section

variable {scan : Scan α} {f : α → Scan β} {a : α} {c : Char} {p : Char → Bool} {n : Nat}
  {cs s s' : List Char}

theorem run_bind (scan : Scan α) (f : α → Scan β) (s : List Char) :
    (scan >>= f).run s = (scan.run s).bind fun x => (f x.1).run x.2 :=
  rfl

-- A scan goes on from what its first step left.
theorem run_bind_of (h : scan.run s = some (a, s')) : (scan >>= f).run s = (f a).run s' := by
  rw [run_bind, h, Option.bind_some]

theorem run_map_of (g : α → β) (h : scan.run s = some (a, s')) :
    (g <$> scan).run s = some (g a, s') := by
  rw [← bind_pure_comp, run_bind_of h]
  rfl

theorem run_get (s : List Char) : (get : Scan (List Char)).run s = some (s, s) :=
  rfl

theorem run_next (c : Char) (s : List Char) : next.run (c :: s) = some (c, s) :=
  rfl

theorem run_eat (c : Char) (s : List Char) : (eat c).run (c :: s) = some ((), s) := by
  have h : (satisfy (· = c)).run (c :: s) = some (c, s) := by simp [satisfy, StateT.run]
  exact run_bind_of h

theorem run_eats (c : Char) (s : List Char) : (eats c).run (c :: s) = some (true, s) := by
  simp [eats, StateT.run]

theorem run_eats_of_stops (h : Stops (· = c) s) : (eats c).run s = some (false, s) := by
  cases s
  case nil  => rfl
  case cons => simp_all [Stops, eats, StateT.run]

theorem run_eatsWord_of_not {word : String} (h : word.toList.isPrefixOf s = false) :
    (eatsWord word).run s = some (false, s) := by
  simp [eatsWord, StateT.run, h]

theorem dropWhile_append (h : ∀ c ∈ cs, p c) (hs : Stops p s) :
    (cs ++ s).dropWhile p = s := by
  rw [List.dropWhile_append_of_pos h]
  cases s
  case nil  => rfl
  case cons => simp_all [Stops]

theorem run_skipWhile (h : ∀ c ∈ cs, p c) (hs : Stops p s) :
    (skipWhile p).run (cs ++ s) = some ((), s) := by
  simp [skipWhile, StateT.run, dropWhile_append h hs]

theorem run_takeWhile₁ (h : ∀ c ∈ cs, p c) (hc : cs ≠ []) (hs : Stops p s) :
    (takeWhile₁ p).run (cs ++ s) = some (cs, s) := by
  have ht : (takeWhile p).run (cs ++ s) = some (cs, s) := by
    simp only [takeWhile, StateT.run, dropWhile_append h hs, List.takeWhile_append_of_pos h]
    cases s
    case nil  => simp
    case cons => simp_all [Stops]
  rw [takeWhile₁, run_bind_of ht]
  simp [hc]

theorem run_exactly (h : cs.all p) (hn : cs.length = n) :
    (exactly n p).run (cs ++ s) = some (cs, s) := by
  subst hn
  simpa [exactly, StateT.run] using h

theorem run_bind_of_none (h : scan.run s = none) : (scan >>= f).run s = none := by
  rw [run_bind, h, Option.bind_none]

-- If anything is read from `s`, then `rest` is what is left of it.
def Leaves (scan : Scan α) (s rest : List Char) : Prop :=
  ∀ a rest', scan.run s = some (a, rest') → rest' = rest

namespace Leaves

theorem of_run (h : scan.run s = some (a, s')) : Leaves scan s s' := by
  intro b rest hr
  cases h.symm.trans hr
  rfl

theorem of_none (h : scan.run s = none) : Leaves scan s s' := by
  intro b rest hr
  rw [h] at hr
  contradiction

theorem bind {rest : List Char} (h : Leaves scan s s') (hf : ∀ a, Leaves (f a) s' rest) :
    Leaves (scan >>= f) s rest := by
  intro b rest' hr
  rw [run_bind, Option.bind_eq_some_iff] at hr
  have ⟨⟨a, s''⟩, ha, hb⟩ := hr
  rw [h _ _ ha] at hb
  exact hf a _ _ hb

theorem bind_of {rest : List Char} (h : scan.run s = some (a, s')) (hf : Leaves (f a) s' rest) :
    Leaves (scan >>= f) s rest := by
  intro b rest' hr
  rw [run_bind_of h] at hr
  exact hf b rest' hr

theorem lift (o : Option α) (s : List Char) : Leaves (liftM o) s s := by
  cases o
  case none => exact of_none rfl
  case some => exact of_run rfl

-- Nothing is read if what is left cannot be.
theorem run_bind (h : Leaves scan s s') (hf : ∀ a, (f a).run s' = none) :
    (scan >>= f).run s = none := by
  rw [Scan.run_bind, Option.bind_eq_none_iff]
  intro ⟨a, rest⟩ ha
  rw [h _ _ ha]
  exact hf a

end Leaves

end

variable {P : α → Prop} {Q : β → Prop}

def Gives (scan : Scan α) (P : α → Prop) : Prop :=
  ∀ s a rest, scan.run s = some (a, rest) → P a

namespace Gives

theorem pure {a : α} (h : P a) : Gives (Pure.pure a) P := by
  intro s b rest hr
  cases hr
  exact h

theorem failure : Gives (Alternative.failure : Scan α) P :=
  nofun

theorem bind {scan : Scan α} {f : α → Scan β} (h : Gives scan P) (hf : ∀ a, P a → Gives (f a) Q) :
    Gives (scan >>= f) Q := by
  intro s b rest hr
  rw [run_bind, Option.bind_eq_some_iff] at hr
  have ⟨⟨a, s'⟩, ha, hb⟩ := hr
  exact hf a (h _ _ _ ha) _ _ _ hb

-- Nothing is known of what the first scan gives.
theorem after {scan : Scan α} {f : α → Scan β} (hf : ∀ a, Gives (f a) Q) :
    Gives (scan >>= f) Q :=
  bind (P := fun _ => True) (fun _ _ _ _ => trivial) fun a _ => hf a

theorem map {scan : Scan α} {f : α → β} (hf : ∀ a, Q (f a)) : Gives (f <$> scan) Q := by
  rw [← bind_pure_comp]
  exact .after fun a => .pure (hf a)

theorem foldlM {f : α → β → Scan α} {a : α} {l : List β} (ha : P a)
    (h : ∀ b ∈ l, ∀ a, P a → Gives (f a b) P) : Gives (l.foldlM f a) P := by
  induction l generalizing a
  case nil          => exact .pure ha
  case cons b l hi =>
    have ⟨hb, h⟩ := List.forall_mem_cons.mp h
    rw [List.foldlM_cons]
    exact (hb a ha).bind fun a ha => hi ha h

theorem orElse {scan scan' : Scan α} (h : Gives scan P) (h' : Gives scan' P) :
    Gives (scan <|> scan') P := by
  intro s a rest hr
  have hr : (scan.run s).orElse (fun _ => scan'.run s) = some (a, rest) := hr
  cases hs : scan.run s
  case none   => exact h' s a rest (by simpa [hs] using hr)
  case some x => exact h s a rest (by simpa [hs] using hr)

theorem lift {o : Option α} (h : ∀ a, o = some a → P a) : Gives (liftM o : Scan α) P := by
  intro s a rest hr
  cases o
  case none   => cases hr
  case some b =>
    cases hr
    exact h _ rfl

theorem whole? {scan : Scan α} {s : List Char} {a : α} (h : Gives scan P)
    (ha : scan.whole? s = some a) : P a := by
  rw [Scan.whole?] at ha
  split at ha
  case h_1 hr =>
    cases ha
    exact h _ _ _ hr
  case h_2 => cases ha

end Gives
end TunnelPorts.Scan
