import TunnelPorts.Proofs.Config.Layering
import TunnelPorts.Proofs.Config.Seen

/-!
Variables in another order. Where no two variables speak of the same place of a configuration, all
that any of them gives is seen in their layer, and nothing else is. So their order does not matter.
-/

namespace TunnelPorts

namespace Config.Dict

variable {o o' : Origin} {v v' u u' : Value} {place place' path : List String}

theorem exists_of_seen?_single {key : String} (h : Dict.seen? [(key, v)] path = some u) :
    ∃ rest, path = key :: rest ∧ v.seen? rest = some u := by
  cases path
  case nil => simp [seen?] at h
  case cons k rest =>
    rw [seen?, get?_cons] at h
    split at h
    case isTrue hk => exact ⟨rest, by rw [hk], h⟩
    case isFalse   => contradiction

-- On the way to a value's place there are dictionaries, and beyond it there is the value.
theorem eq_of_seen?_nest (h : (nest o v place).seen? path = some u) :
    place <+: path ∨ path <+: place ∧ u = .dict [] o := by
  induction place generalizing path
  case nil => exact .inl List.nil_prefix
  case cons key place hi =>
    cases place
    case nil =>
      have ⟨rest, hp, _⟩ := exists_of_seen?_single h
      exact .inl ⟨rest, hp.symm⟩
    case cons =>
      have ⟨rest, hp, hu⟩ := exists_of_seen?_single h
      rw [hp, List.cons_prefix_cons, List.cons_prefix_cons, and_iff_right rfl, and_iff_right rfl]
      cases rest
      case nil  => exact .inr ⟨List.nil_prefix, (Option.some.inj hu).symm⟩
      case cons => exact hi hu

theorem isPrefix_of_covers_nest (h : Covers (nest o v place).seen? path) : place <+: path := by
  have ⟨way, key, u, hp, hu, hd⟩ := h
  rcases eq_of_seen?_nest hu with hw | ⟨_, rfl⟩
  case inl => exact hw.trans <| (List.prefix_append way [key]).trans hp
  case inr => contradiction

-- Nothing is seen of one value at the place of another, or beyond it, if neither place is on the way
-- to the other.
theorem not_isPrefix_of_seen?_nest (hn : ¬place <+: place' ∧ ¬place' <+: place)
    (h : (nest o v place').seen? path = some u) : ¬place <+: path := by
  intro hp
  rcases eq_of_seen?_nest h with hp' | ⟨hp', _⟩
  case inl => exact (List.prefix_or_prefix_of_prefix hp hp').elim hn.left hn.right
  case inr => exact hn.left <| hp.trans hp'

end Config.Dict

namespace Environment

open Config (Dict Value Covers)

variable {env env' : Environment} {var var' : String × String} {path : List String} {u u' : Value}

theorem exists_place_of_seen? (h : (ofVariable var).seen? path = some u) :
    ∃ place ∈ Config.Variable.path? var.1,
      ofVariable var = Dict.nest .environment (Config.EnvironmentValue.ofText var.2) place := by
  rw [ofVariable] at h ⊢
  split at h
  case h_1 => cases path <;> simp [Dict.seen?, Dict.get?] at h
  case h_2 place hp => exact ⟨place, hp, rfl⟩

-- Two variables speak of different places of a configuration, and neither place is on the way to
-- the other. A variable whose name spells no keys speaks of none.
def Apart (var var' : String × String) : Prop :=
  ∀ place ∈ Config.Variable.path? var.1, ∀ place' ∈ Config.Variable.path? var'.1,
    ¬place <+: place' ∧ ¬place' <+: place

instance : DecidableRel Apart := fun var var' =>
  inferInstanceAs <| Decidable <| ∀ place ∈ Config.Variable.path? var.1,
    ∀ place' ∈ Config.Variable.path? var'.1, ¬place <+: place' ∧ ¬place' <+: place

namespace Apart

theorem symm (h : Apart var var') : Apart var' var :=
  fun place hp place' hp' => (h place' hp' place hp).symm

-- Neither of the two hides anything of the other …
theorem not_covers (ha : Apart var var') (h : (ofVariable var').seen? path = some u) :
    ¬Covers (ofVariable var).seen? path := by
  intro hc
  have ⟨_, _, _, _, hs, _⟩ := hc
  have ⟨place, hp, hv⟩ := exists_place_of_seen? hs
  have ⟨place', hp', hv'⟩ := exists_place_of_seen? h
  rw [hv] at hc
  rw [hv'] at h
  exact Dict.not_isPrefix_of_seen?_nest (ha place hp place' hp') h <|
    Dict.isPrefix_of_covers_nest hc

-- … for where both are seen, they are both on the way to their places.
theorem eq_of_seen? (ha : Apart var var') (h : (ofVariable var).seen? path = some u)
    (h' : (ofVariable var').seen? path = some u') : u = u' := by
  have ⟨place, hp, hv⟩ := exists_place_of_seen? h
  have ⟨place', hp', hv'⟩ := exists_place_of_seen? h'
  rw [hv] at h
  rw [hv'] at h'
  have hn := ha place hp place' hp'
  have ⟨_, hu⟩ := Dict.eq_of_seen?_nest h |>.resolve_left <|
    Dict.not_isPrefix_of_seen?_nest hn h'
  have ⟨_, hu'⟩ := Dict.eq_of_seen?_nest h' |>.resolve_left <|
    Dict.not_isPrefix_of_seen?_nest hn.symm h
  rw [hu, hu']

end Apart

def IsConflictFree (env : Environment) : Prop :=
  env.Pairwise Apart

instance : DecidablePred IsConflictFree := fun env =>
  inferInstanceAs <| Decidable <| env.Pairwise Apart

theorem IsConflictFree.perm (h : env.IsConflictFree) (hp : env.Perm env') : env'.IsConflictFree :=
  hp.pairwise h Apart.symm

-- All that any of the variables gives is seen in their layer, and nothing else is.
theorem seen?_layer_iff (h : env.IsConflictFree) :
    env.layer.seen? path = some u ↔ ∃ var ∈ env, (ofVariable var).seen? path = some u := by
  induction env using List.reverseRecOn generalizing u
  case nil => cases path <;> simp [layer, Dict.seen?, Dict.get?]
  case append_singleton env var hi =>
    obtain ⟨h, _, ha⟩ := List.pairwise_append.mp h
    rw [layer_concat, Dict.seen?_merge_iff_or (distinct_ofVariable var) ?agrees, hi h]
    case agrees =>
      intro w hw
      obtain ⟨var', hm, hw⟩ := hi h |>.mp hw
      have ha : Apart var var' := (ha var' hm var List.mem_cons_self).symm
      exact ⟨ha.not_covers hw, fun w' hw' => ha.eq_of_seen? hw' hw⟩
    simp [or_and_right, exists_or]

theorem seen?_layer_perm (h : env.IsConflictFree) (hp : env.Perm env') :
    env.layer.seen? = env'.layer.seen? := by
  funext path
  ext u
  simp only [seen?_layer_iff h, seen?_layer_iff (h.perm hp), hp.mem_iff]

end Environment

namespace Config

variable {env env' : Environment}

theorem decode_merged_perm {file : Dict} (h : env.IsConflictFree) (hp : env.Perm env')
    (hf : file.Distinct) : decode (merged env file) = decode (merged env' file) :=
  decode_congr <| Dict.seen?_merge_congr hf hf
    (Dict.seen?_merge_congr env.distinct_layer env'.distinct_layer rfl <|
      Environment.seen?_layer_perm h hp)
    rfl

-- Variables without conflicts may come in any order: the same source is loaded, or loading fails in
-- the same way, for the same reason and at the same place.
theorem load_reordered (h : env.IsConflictFree) (hp : env.Perm env') (fs : FileSystem)
    (named? : Option String) : load fs env named? = load fs env' named? := by
  have ⟨_, hl⟩ := exists_load_eq fs named?
  rw [hl, hl]
  cases hf : namedLayer fs named?
  case error   => rfl
  case ok file =>
    exact congrArg (Except.mapError _) <| decode_merged_perm h hp (distinct_namedLayer hf)

-- Variables give the document, and tables within one table; the kind comes from the file.
theorem load_reordered_reversed :
    let fs : FileSystem :=
      ⟨"/", fun _ => .ok (.file (Text.utf8 "[source_config]\nkind = 'in_memory'"))⟩
    let env : Environment := [
      ("TKX_SOURCE_CONFIG__NOTE__A", "\x7bx=1\x7d"),
      ("HOME", "/"),
      (" tkx_source_config.document", "\x7b\"a\":\x7b\x7d\x7d"),
      ("TKX_SOURCE_CONFIG__NOTE__B", "\x7by=2\x7d")]
    env.IsConflictFree ∧ env.Perm env.reverse ∧
      load fs env (some "/tkx.toml") = load fs env.reverse (some "/tkx.toml") ∧
      load fs env (some "/tkx.toml") = .ok (.inMemory "\x7b\"a\":\x7b\x7d\x7d") := by
  intro fs env
  have hc : env.IsConflictFree := by decide +kernel
  have hp : env.Perm env.reverse := (List.reverse_perm env).symm
  have hl : load fs env (some "/tkx.toml") = .ok (.inMemory "\x7b\"a\":\x7b\x7d\x7d") := by
    decide +kernel
  exact ⟨hc, hp, load_reordered hc hp fs _, hl⟩

end Config
end TunnelPorts
