import TunnelPorts.Config.Decode
import TunnelPorts.Proofs.Assoc

/-!
Layers on top of each other. What a key stands for in two layers is what the later one gives for it,
except that dictionaries merge. `field?` is what a layer gives for a field of the source, and
`field?_merge` is how two layers share the fields among them.
-/

namespace TunnelPorts.Config

namespace Value

def isDict : Value → Bool
  | dict _ _ => true
  | _        => false

def get? : Value → String → Option Value
  | dict d _, key => Dict.get? d key
  | _, _          => none

-- No key is given twice in a dictionary. Nothing is asked of sequences, for they never merge.
inductive Distinct : Value → Prop
  | leaf {v} : v.isDict = false → Distinct v
  | dict {d o} : (d.map Prod.fst).Nodup → (∀ e ∈ d, Distinct e.2) → Distinct (.dict d o)

-- The value on top of what stood in its place before.
def onto (v : Value) : Option Value → Value
  | some u => u.merge v
  | none   => v

variable {v : Value}

theorem onto_of_not_dict (h : v.isDict = false) (old : Option Value) : v.onto old = v := by
  cases old
  case none   => rfl
  case some u => cases v <;> first | contradiction | simp [onto, merge]

theorem get?_of_not_dict (h : v.isDict = false) (key : String) : v.get? key = none := by
  cases v
  case dict => contradiction
  all_goals rfl

-- What a value is by itself. Of a dictionary, that is only which layer gave it.
def surface : Value → Value
  | dict _ o => dict [] o
  | v        => v

theorem isDict_surface (v : Value) : v.surface.isDict = v.isDict := by
  cases v <;> rfl

-- A value below has no part in it.
theorem surface_onto (v : Value) (old : Option Value) : (v.onto old).surface = v.surface := by
  match v, old with
  | dict .., some (dict ..) => simp [onto, merge, surface]
  | dict .., some (scalar ..) | dict .., some (sequence ..) => simp [onto, merge]
  | scalar .., some _ | sequence .., some _ | _, none => simp [onto, merge]

-- What a value looks like from outside: of a dictionary, only that it is one.
def outline : Value → Value
  | dict _ _ => dict [] .defaults
  | v        => v

theorem outline_of_not_dict (h : v.isDict = false) : v.outline = v := by
  cases v
  case dict => contradiction
  all_goals rfl

theorem isDict_outline (v : Value) : v.outline.isDict = v.isDict := by
  cases v <;> rfl

theorem outline_surface (v : Value) : v.surface.outline = v.outline := by
  cases v <;> rfl

theorem outline_onto (v : Value) (old : Option Value) : (v.onto old).outline = v.outline := by
  rw [← outline_surface, surface_onto, outline_surface]

-- Nothing is hidden of a value that is no dictionary.
theorem eq_of_outline {o o' : Option Value} (h : ∀ v, o = some v → v.isDict = false)
    (ho : o.map outline = o'.map outline) : o = o' := by
  match o, o' with
  | none, none           => rfl
  | some v, some v'      =>
    have ho : v.outline = v'.outline := Option.some.inj ho
    have hv := h v rfl
    have hv' : v'.isDict = false := by rw [← isDict_outline, ← ho, isDict_outline, hv]
    rw [← outline_of_not_dict hv, ho, outline_of_not_dict hv']
  | none, some _ | some _, none => contradiction

end Value

namespace Dict

def Distinct (d : Dict) : Prop :=
  Assoc.Distinct Value.Distinct d

variable {old new d : Dict} {k key : String} {v : Value} {o : Origin}

theorem distinct_of_value (h : (Value.dict d o).Distinct) : d.Distinct := by
  cases h
  case leaf       => contradiction
  case dict hn hv => exact ⟨hn, hv⟩

theorem Distinct.toValue (h : d.Distinct) (o : Origin) : (Value.dict d o).Distinct :=
  .dict h.nodup h.values

theorem get?_cons (k' : String) (v : Value) (d : Dict) :
    Dict.get? ((k', v) :: d) k = if k = k' then some v else d.get? k :=
  Assoc.lookup_cons k k' v d

theorem get?_set (old : Dict) (k' : String) (v : Value) :
    (old.set k' v).get? k = if k = k' then some v else old.get? k :=
  Assoc.lookup_set k' k v old

theorem merge_cons (old new : Dict) (k : String) (v : Value) :
    old.merge ((k, v) :: new) = (old.set k (v.onto (old.get? k))).merge new := by
  rw [Dict.merge]
  cases old.get? k <;> rfl

-- The one equation that merging is known by.
theorem get?_merge (h : (new.map Prod.fst).Nodup) :
    (old.merge new).get? k = match new.get? k with
      | some v => some (v.onto (old.get? k))
      | none   => old.get? k := by
  induction new generalizing old
  case nil => rfl
  case cons e new hi =>
    have ⟨k', v⟩ := e
    simp only [List.map_cons, List.nodup_cons] at h
    rw [merge_cons, hi h.right, get?_set, get?_cons]
    by_cases hk : k = k'
    case neg => simp [hk]
    case pos =>
      have hn : Dict.get? new k = none := Assoc.lookup_eq_none (hk ▸ h.left)
      simp [hk, hk ▸ hn]

theorem distinct_merge (h : old.Distinct)
    (hv : ∀ e ∈ new, ∀ o : Option Value, (∀ u, o = some u → u.Distinct) → (e.2.onto o).Distinct) :
    (old.merge new).Distinct := by
  induction new generalizing old
  case nil            => exact h
  case cons e new hi =>
    rw [merge_cons]
    refine hi (h.set ?_ e.1) fun e' he' => hv e' (List.mem_cons_of_mem e he')
    exact hv e List.mem_cons_self _ fun u hu => h.lookup hu

end Dict

theorem Value.Distinct.onto {v : Value} (hv : v.Distinct) {o : Option Value}
    (ho : ∀ u, o = some u → u.Distinct) : (v.onto o).Distinct := by
  induction hv generalizing o
  case leaf h =>
    rw [onto_of_not_dict h]
    exact .leaf h
  case dict d o' hn hd hi =>
    have hd : Dict.Distinct d := ⟨hn, hd⟩
    match o with
    | none => exact hd.toValue o'
    | some (.dict e _) =>
      have he := Dict.distinct_of_value <| ho _ rfl
      rw [Value.onto, Value.merge]
      exact (Dict.distinct_merge he fun e h _ hu => hi e h hu).toValue o'
    | some (.scalar ..) | some (.sequence ..) => exact hd.toValue o'

theorem Dict.Distinct.merge {old new : Dict} (ho : old.Distinct) (hn : new.Distinct) :
    (old.merge new).Distinct :=
  Dict.distinct_merge ho fun e he _ h => (hn.values e he).onto h

variable {v : Value} {key : String}

theorem Value.get?_onto (hv : v.Distinct) (hd : v.isDict) (old : Option Value) :
    (v.onto old).get? key = match v.get? key with
      | some u => some (u.onto (old.bind (·.get? key)))
      | none   => old.bind (·.get? key) := by
  cases hv
  case leaf h =>
    rw [h] at hd
    contradiction
  case dict d o hn _ =>
    cases old
    case none => simp only [onto, get?]; cases Dict.get? d key <;> rfl
    case some u =>
      cases u
      case dict => simp [onto, merge, get?, Dict.get?_merge hn]
      all_goals simp only [onto, merge, get?, Option.bind_some]; cases Dict.get? d key <;> rfl

-- The fields that a source is decoded from.
def sourceFields : List String :=
  [Decode.kindKey, "file_name", "document"]

namespace Dict

variable {old new d : Dict}

-- What a layer gives for a field of the source.
def field? (d : Dict) (key : String) : Option Value :=
  (d.get? Decode.sourceKey).bind (·.get? key)

-- The source is a table, if the layer mentions it at all.
def isTabular (d : Dict) : Bool :=
  (d.get? Decode.sourceKey).all Value.isDict

-- None of the fields of the source is a table, but the source itself is.
structure IsPlain (d : Dict) : Prop where
  tabular : d.isTabular
  flat : ∀ key ∈ sourceFields, ∀ v, d.field? key = some v → v.isDict = false

theorem isTabular_of_field? (h : d.field? key = some v) : d.isTabular := by
  have ⟨u, hu, hv⟩ := Option.bind_eq_some_iff.mp h
  rw [isTabular, hu]
  cases u <;> first | rfl | contradiction

theorem field?_merge (hn : new.Distinct) (ht : new.isTabular) :
    (old.merge new).field? key = match new.field? key with
      | some v => some (v.onto (old.field? key))
      | none   => old.field? key := by
  rw [field?, field?, get?_merge hn.nodup]
  rw [isTabular] at ht
  cases h : new.get? Decode.sourceKey
  case none   => rfl
  case some v => exact Value.get?_onto (hn.lookup h) (by simpa [h] using ht) _

-- What a field looks like is up to the later layer, if that sets it.
theorem outline_field?_merge (hn : new.Distinct) (ht : new.isTabular) :
    ((old.merge new).field? key).map Value.outline =
      ((new.field? key).or (old.field? key)).map Value.outline := by
  rw [field?_merge hn ht]
  cases new.field? key
  case none => rfl
  case some => exact congrArg some <| Value.outline_onto ..

theorem field?_merge_of_not_tabular (hn : new.Distinct) (ht : new.isTabular = false) :
    (old.merge new).field? key = none := by
  rw [isTabular] at ht
  cases h : new.get? Decode.sourceKey
  case none => simp [h] at ht
  case some v =>
    have hv : v.isDict = false := by simpa [h] using ht
    rw [field?, get?_merge hn.nodup, h]
    simp only [Value.onto_of_not_dict hv, Option.bind_some]
    exact Value.get?_of_not_dict hv key

-- What the layer below gives for the source does not matter, not even if that is no table.
theorem field?_merge_of_some (hn : new.Distinct) (hv : v.isDict = false)
    (h : new.field? key = some v) : (old.merge new).field? key = some v := by
  rw [field?_merge hn (isTabular_of_field? h), h]
  exact congrArg some <| Value.onto_of_not_dict hv _

-- A plain layer leaves the fields it does not set as they are.
theorem IsPlain.field?_merge (hp : new.IsPlain) (hn : new.Distinct) (hk : key ∈ sourceFields) :
    (old.merge new).field? key = (new.field? key).or (old.field? key) := by
  cases h : new.field? key
  case none   => rw [Dict.field?_merge hn hp.tabular, h, Option.none_or]
  case some v => exact field?_merge_of_some hn (hp.flat key hk v h) h

end Dict
end TunnelPorts.Config
