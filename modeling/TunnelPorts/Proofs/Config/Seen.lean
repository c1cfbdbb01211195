import TunnelPorts.Proofs.Config.Decode

/-!
Configurations as they look along paths of keys. The order of the entries of a dictionary is not
seen, and nothing else is lost: what is seen of two layers is all that matters for what is seen of
them on top of each other, and for what is decoded from them.
-/

namespace TunnelPorts.Config

namespace Value

-- What is seen of a value at the end of a path: the surface of what stands there.
def seen? (v : Value) : List String → Option Value
  | []          => some v.surface
  | key :: path => (v.get? key).bind (·.seen? path)

variable {v v' : Value}

theorem surface_eq_of_seen? (h : v.seen? = v'.seen?) : v.surface = v'.surface :=
  Option.some.inj <| congrFun h []

theorem isDict_eq_of_seen? (h : v.seen? = v'.seen?) : v.isDict = v'.isDict := by
  rw [← isDict_surface, surface_eq_of_seen? h, isDict_surface]

-- Nothing is lost of a value that is no dictionary.
theorem eq_of_seen? (h : v.seen? = v'.seen?) (hd : v.isDict = false) : v = v' := by
  have hs := surface_eq_of_seen? h
  cases v <;> cases v' <;> simp_all [surface, isDict]

theorem Distinct.get? {u : Value} {key : String} (h : v.Distinct) (hu : v.get? key = some u) :
    u.Distinct := by
  cases v
  case dict => exact (Dict.distinct_of_value h).lookup hu
  all_goals contradiction

end Value

-- A value on the way to the end of a path covers what is further down in a layer below, unless it
-- is a dictionary.
def Covers (seen? : List String → Option Value) (path : List String) : Prop :=
  ∃ way key v, way ++ [key] <+: path ∧ seen? way = some v ∧ v.isDict = false

theorem covers_cons_iff {seen? : List String → Option Value} {key : String} {path : List String}
    (h : ∀ v, seen? [] = some v → v.isDict) :
    Covers seen? (key :: path) ↔ Covers (fun way => seen? (key :: way)) path := by
  constructor
  case mp =>
    rintro ⟨_ | ⟨k, way⟩, k', v, hp, hv, hd⟩
    case nil => simp [h v hv] at hd
    case cons =>
      have ⟨hk, hp⟩ := List.cons_prefix_cons.mp hp
      exact ⟨way, k', v, hp, hk ▸ hv, hd⟩
  case mpr =>
    intro ⟨way, k', v, hp, hv, hd⟩
    exact ⟨key :: way, k', v, List.cons_prefix_cons.mpr ⟨rfl, hp⟩, hv, hd⟩

namespace Value

variable {v v' u : Value} {o : Option Value} {path : List String}

-- What is seen of a value on top of another.
theorem seen?_onto_iff (hv : v.Distinct) :
    (v.onto o).seen? path = some u ↔ v.seen? path = some u ∨
      v.seen? path = none ∧ ¬Covers v.seen? path ∧ o.bind (·.seen? path) = some u := by
  induction path generalizing v o
  case nil => simp [seen?, surface_onto]
  case cons key path hi =>
    have ho : o.bind (·.seen? (key :: path)) = (o.bind (·.get? key)).bind (·.seen? path) :=
      (Option.bind_assoc ..).symm
    cases hd : v.isDict
    case false =>
      have hc : Covers v.seen? (key :: path) :=
        ⟨[], key, v.surface, by simp, rfl, v.isDict_surface.trans hd⟩
      simp [onto_of_not_dict hd, seen?, get?_of_not_dict hd, hc]
    case true =>
      have hs w (hw : v.seen? [] = some w) : w.isDict := by
        rw [← Option.some.inj hw, isDict_surface, hd]
      rw [covers_cons_iff hs, ho, seen?, get?_onto hv hd]
      cases hk : v.get? key
      case none =>
        have hn way : v.seen? (key :: way) = none := by rw [seen?, hk, Option.bind_none]
        simp [hn, Covers]
      case some w =>
        have hw way : v.seen? (key :: way) = w.seen? way := by rw [seen?, hk, Option.bind_some]
        simp only [hw]
        exact hi <| hv.get? hk

end Value

namespace Dict

-- What is seen of a layer, which is nothing where no path has begun.
def seen? (d : Dict) : List String → Option Value
  | []          => none
  | key :: path => (d.get? key).bind (·.seen? path)

variable {d d' old old' new new' : Dict} {u : Value} {path : List String}

theorem seen?_merge_iff (hn : new.Distinct) :
    (old.merge new).seen? path = some u ↔ new.seen? path = some u ∨
      new.seen? path = none ∧ ¬Covers new.seen? path ∧ old.seen? path = some u := by
  cases path
  case nil => simp [seen?]
  case cons key path =>
    have ho : old.seen? (key :: path) = (old.get? key).bind (·.seen? path) := rfl
    rw [covers_cons_iff (by simp [seen?]), ho, seen?, get?_merge hn.nodup]
    cases hk : new.get? key
    case none =>
      have hn way : new.seen? (key :: way) = none := by rw [seen?, hk, Option.bind_none]
      simp [hn, Covers]
    case some v =>
      have hv way : new.seen? (key :: way) = v.seen? way := by rw [seen?, hk, Option.bind_some]
      simp only [hv]
      exact Value.seen?_onto_iff <| hn.lookup hk

-- Where the later layer neither covers what the earlier one gives nor contradicts it, both are seen.
theorem seen?_merge_iff_or (hn : new.Distinct)
    (h : ∀ w, old.seen? path = some w →
      ¬Covers new.seen? path ∧ ∀ w', new.seen? path = some w' → w' = w) :
    (old.merge new).seen? path = some u ↔ old.seen? path = some u ∨ new.seen? path = some u := by
  rw [seen?_merge_iff hn]
  constructor
  case mp =>
    rintro (hu | ⟨_, _, hu⟩)
    case inl => exact .inr hu
    case inr => exact .inl hu
  case mpr =>
    rintro (hu | hu)
    case inr => exact .inl hu
    case inl =>
      obtain ⟨hc, he⟩ := h u hu
      cases hw : new.seen? path
      case none   => exact .inr ⟨rfl, hc, hu⟩
      case some w => exact .inl <| congrArg some <| he w hw

theorem seen?_merge_congr (hn : new.Distinct) (hn' : new'.Distinct) (ho : old.seen? = old'.seen?)
    (h : new.seen? = new'.seen?) : (old.merge new).seen? = (old'.merge new').seen? := by
  funext path
  ext u
  rw [seen?_merge_iff hn, seen?_merge_iff hn', ho, h]

theorem get?_rel (h : d.seen? = d'.seen?) (key : String) :
    Option.Rel (fun v v' => v.seen? = v'.seen?) (d.get? key) (d'.get? key) := by
  have he path : (d.get? key).bind (·.seen? path) = (d'.get? key).bind (·.seen? path) :=
    congrFun h (key :: path)
  cases hv : d.get? key <;> cases hv' : d'.get? key <;> simp only [hv, hv'] at he
  case none.none => exact .none
  case some.some => exact .some <| funext he
  all_goals exact nomatch he []

theorem seen?_eq_of_value {o o' : Origin}
    (h : (Value.dict d o).seen? = (Value.dict d' o').seen?) : d.seen? = d'.seen? := by
  funext path
  cases path
  case nil           => rfl
  case cons key path => exact congrFun h (key :: path)

end Dict

namespace Decode

variable {d d' : Dict} {v v' : Value} {path : List String} {o : Origin}

theorem kind_surface (path : List String) (v : Value) : kind path v.surface = kind path v := by
  cases v <;> rfl

theorem text_surface (expected : String) (o : Origin) (v : Value) :
    text expected o v.surface = text expected o v := by
  cases v <;> rfl

theorem kind_congr (h : v.seen? = v'.seen?) (path : List String) : kind path v = kind path v' := by
  rw [← kind_surface, Value.surface_eq_of_seen? h, kind_surface]

theorem text_congr (h : v.seen? = v'.seen?) (expected : String) (o : Origin) :
    text expected o v = text expected o v' := by
  rw [← text_surface, Value.surface_eq_of_seen? h, text_surface]

theorem ofDict_congr (h : d.seen? = d'.seen?) (o : Origin) : ofDict d o = ofDict d' o := by
  have hk := Dict.get?_rel h kindKey
  have hf := Dict.get?_rel h "file_name"
  have hd := Dict.get?_rel h "document"
  rw [ofDict, ofDict]
  generalize d.get? kindKey = k, d'.get? kindKey = k' at hk ⊢
  generalize d.get? "file_name" = f, d'.get? "file_name" = f' at hf ⊢
  generalize d.get? "document" = t, d'.get? "document" = t' at hd ⊢
  cases hk
  case none => rfl
  case some hk =>
    dsimp only
    rw [kind_congr hk]
    congr
    funext k
    cases k
    case file =>
      cases hf
      case none    => rfl
      case some hf => simp only [fileName, text_congr hf]
    case inMemory =>
      cases hd
      case none    => rfl
      case some hd => simp only [document, text_congr hd]

theorem ofValue_congr (h : v.seen? = v'.seen?) : ofValue v = ofValue v' := by
  cases hd : v.isDict
  case false => rw [Value.eq_of_seen? h hd]
  case true =>
    have hd' := Value.isDict_eq_of_seen? h ▸ hd
    match v, v' with
    | .dict d o, .dict d' o' =>
      have ho : o = o' := by simpa [Value.surface] using Value.surface_eq_of_seen? h
      rw [ofValue, ofValue, ofDict_congr (Dict.seen?_eq_of_value h), ho]

end Decode

theorem decode_congr {config config' : Dict} (h : config.seen? = config'.seen?) :
    decode config = decode config' := by
  have hs := Dict.get?_rel h Decode.sourceKey
  rw [decode, decode]
  generalize config.get? Decode.sourceKey = v, config'.get? Decode.sourceKey = v' at hs ⊢
  cases hs
  case none    => rfl
  case some hs => exact Decode.ofValue_congr hs

end TunnelPorts.Config
