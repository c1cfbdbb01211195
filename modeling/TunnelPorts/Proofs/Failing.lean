import Mathlib

/-!
Computations that may fail and keep their state when they do, applied to a state. Writing to a sink
and walking a document are both of this kind, and these are the rules by which they are unfolded.
-/

namespace TunnelPorts.Failing

variable {ε σ α β : Type}

@[simp]
theorem pure_apply (a : α) (s : σ) : (pure a : ExceptT ε (StateM σ) α) s = (.ok a, s) :=
  rfl

@[simp]
theorem throw_apply (e : ε) (s : σ) : (throw e : ExceptT ε (StateM σ) α) s = (.error e, s) :=
  rfl

@[simp]
theorem modify_apply (f : σ → σ) (s : σ) :
    (modify f : ExceptT ε (StateM σ) Unit) s = (.ok (), f s) :=
  rfl

@[simp]
theorem get_apply (s : σ) : (get : ExceptT ε (StateM σ) σ) s = (.ok s, s) :=
  rfl

@[simp]
theorem set_apply (s t : σ) : (set t : ExceptT ε (StateM σ) Unit) s = (.ok (), t) :=
  rfl

-- What follows a computation goes on from its state, unless it failed.
theorem bind_apply (x : ExceptT ε (StateM σ) α) (f : α → ExceptT ε (StateM σ) β) (s : σ) :
    (x >>= f) s =
      match x s with
      | (.ok a, t)    => f a t
      | (.error e, t) => (.error e, t) := by
  change (ExceptT.bindCont f (x s).1) (x s).2 = _
  rcases x s with ⟨_ | _, _⟩ <;> rfl

@[simp]
theorem map_apply (f : α → β) (x : ExceptT ε (StateM σ) α) (s : σ) :
    (f <$> x) s = ((x s).1.map f, (x s).2) := by
  rw [← bind_pure_comp, bind_apply]
  rcases x s with ⟨_ | _, _⟩ <;> rfl

theorem adapt_apply {ε' : Type} (f : ε → ε') (x : ExceptT ε (StateM σ) α) (s : σ) :
    (x.adapt f) s = ((x s).1.mapError f, (x s).2) := by
  change ((fun r => Except.mapError f r) <$> (x : StateM σ (Except ε α))) s = _
  rfl

theorem bind_ok {x : ExceptT ε (StateM σ) α} {f : α → ExceptT ε (StateM σ) β} {s t : σ} {a : α}
    (h : x s = (.ok a, t)) : (x >>= f) s = f a t := by
  rw [bind_apply, h]

theorem bind_error {x : ExceptT ε (StateM σ) α} {f : α → ExceptT ε (StateM σ) β} {s t : σ} {e : ε}
    (h : x s = (.error e, t)) : (x >>= f) s = (.error e, t) := by
  rw [bind_apply, h]

-- The computation keeps to states with `P`, whether it fails or not.
def Keeps (P : σ → Prop) (x : ExceptT ε (StateM σ) α) : Prop :=
  ∀ s, P s → P (x s).2

namespace Keeps

variable {P : σ → Prop} {x : ExceptT ε (StateM σ) α} {f : α → ExceptT ε (StateM σ) β}

theorem pure (a : α) : Keeps P (Pure.pure a : ExceptT ε (StateM σ) α) :=
  fun _ h => h

theorem throw (e : ε) : Keeps P (MonadExcept.throw e : ExceptT ε (StateM σ) α) :=
  fun _ h => h

theorem get : Keeps P (MonadState.get : ExceptT ε (StateM σ) σ) :=
  fun _ h => h

theorem modify {g : σ → σ} (h : ∀ s, P s → P (g s)) :
    Keeps P (modify g : ExceptT ε (StateM σ) Unit) :=
  h

theorem bind (hx : Keeps P x) (hf : ∀ a, Keeps P (f a)) : Keeps P (x >>= f) := by
  intro s hs
  have ht := hx s hs
  rw [bind_apply]
  split
  case h_1 a t h => exact hf a t <| by rwa [h] at ht
  case h_2 e t h => rwa [h] at ht

theorem foldlM {step : β → α → ExceptT ε (StateM σ) β} (h : ∀ b a, Keeps P (step b a)) :
    ∀ (as : List α) (b : β), Keeps P (as.foldlM step b)
  | [], b      => pure b
  | a :: as, b => bind (h b a) (foldlM h as)

end Keeps
end TunnelPorts.Failing
