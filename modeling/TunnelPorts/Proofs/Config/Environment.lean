import TunnelPorts.Config.Environment
import TunnelPorts.Proofs.Config.EnvironmentValue

/-!
The environment variable by variable. Each variable is a layer of its own, the layer of an
environment is what they make on top of each other, and the last variable that sets a field is the
one that counts.
-/

namespace TunnelPorts

namespace Config.Dict

theorem distinct_nest {o : Origin} {v : Value} (h : v.Distinct) (path : List String) :
    (nest o v path).Distinct := by
  induction path
  case nil => exact .nil
  case cons key path hi =>
    cases path
    case nil  => exact .set .nil h key
    case cons => exact .set .nil (hi.toValue o) key

end Config.Dict

namespace Environment

open Config (Dict Value)

variable {env : Environment} {key : String}

-- What a variable gives on its own: nothing, if its name spells no keys.
def ofVariable (var : String × String) : Dict :=
  match Config.Variable.path? var.1 with
  | none      => []
  | some path => Dict.nest .environment (Config.EnvironmentValue.ofText var.2) path

theorem distinct_ofVariable (var : String × String) : (ofVariable var).Distinct := by
  rw [ofVariable]
  split
  case h_1 => exact .nil
  case h_2 => exact Dict.distinct_nest (Config.EnvironmentValue.distinct_ofText _) _

theorem layer_concat (env : Environment) (var : String × String) :
    layer (env ++ [var]) = (layer env).merge (ofVariable var) := by
  have ⟨name, text⟩ := var
  simp only [layer, List.foldl_concat, ofVariable]
  cases Config.Variable.path? name
  case none => rw [Dict.merge]
  case some => rfl

theorem distinct_layer (env : Environment) : (layer env).Distinct := by
  induction env using List.reverseRecOn
  case nil              => exact .nil
  case append_singleton env var hi =>
    rw [layer_concat]
    exact hi.merge (distinct_ofVariable var)

-- What the last variable that sets a field gives for it. A variable that makes the source anything
-- but a table takes away all that variables before it have set.
def lastField? (env : Environment) (key : String) : Option Value :=
  (env.reverse.takeWhile fun var => (ofVariable var).isTabular).findSome? fun var =>
    (ofVariable var).field? key

theorem lastField?_concat (env : Environment) (var : String × String) (key : String) :
    lastField? (env ++ [var]) key =
      if (ofVariable var).isTabular then ((ofVariable var).field? key).or (lastField? env key)
      else none := by
  rw [lastField?, List.reverse_concat, List.takeWhile_cons]
  split
  case isTrue =>
    rw [List.findSome?_cons, ← lastField?]
    cases (ofVariable var).field? key <;> rfl
  case isFalse => rfl

-- A field of the layer looks like what the last variable that sets it gives, if it is not that.
theorem outline_field?_layer (env : Environment) (key : String) :
    ((layer env).field? key).map Value.outline = (lastField? env key).map Value.outline := by
  induction env using List.reverseRecOn
  case nil => rfl
  case append_singleton env var hi =>
    have hd := distinct_ofVariable var
    rw [lastField?_concat, layer_concat]
    cases ht : (ofVariable var).isTabular
    case false => simp [Dict.field?_merge_of_not_tabular hd ht]
    case true  => rw [Dict.outline_field?_merge hd ht, if_pos rfl, Option.map_or, Option.map_or, hi]

theorem field?_layer (h : ∀ v, (layer env).field? key = some v → v.isDict = false) :
    (layer env).field? key = lastField? env key :=
  Value.eq_of_outline h <| outline_field?_layer env key

-- All variables but those of one name.
def without (env : Environment) (name : String) : Environment :=
  env.filter fun var => var.1 ≠ name

-- A variable whose name spells no keys is not looked at.
theorem layer_without {name : String} (h : Config.Variable.path? name = none)
    (env : Environment) : (env.without name).layer = env.layer := by
  rw [layer, without, List.foldl_filter, layer]
  congr
  funext d var
  by_cases hn : var.1 = name
  case pos => simp [hn, h]
  case neg => simp [hn]

end Environment
end TunnelPorts
