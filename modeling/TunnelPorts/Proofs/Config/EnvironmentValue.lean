import TunnelPorts.Config.EnvironmentValue
import TunnelPorts.Proofs.Config.Merge
import TunnelPorts.Proofs.Scan

/-!
Values of environment variables give no key twice: a later member of a dictionary takes the place of
an earlier one with the same key.
-/

namespace TunnelPorts.Config.EnvironmentValue

open Scan

theorem gives_items {α : Type} {P : α → Prop} {closing : Char} {item : Scan α}
    (h : item.Gives P) (fuel : Nat) : (items closing item fuel).Gives fun l => ∀ a ∈ l, P a := by
  induction fuel
  case zero         => exact .failure
  case succ fuel hi =>
    refine .after fun isEnd => ?_
    cases isEnd
    case true  => exact .pure nofun
    case false =>
      refine h.bind fun a ha => .after fun isMore => ?_
      cases isMore
      case true  => exact hi.bind fun l hl => .pure <| List.forall_mem_cons.mpr ⟨ha, hl⟩
      case false => exact .after fun _ => .pure <| by simpa using ha

theorem gives_list {α : Type} {P : α → Prop} {opening closing : Char} {item : Scan α}
    (h : item.Gives P) : (list opening closing item).Gives fun l => ∀ a ∈ l, P a :=
  .after fun _ => .after fun _ => gives_items h _

theorem distinct_foldl {members : List (String × Value)} {d : Dict} (hd : d.Distinct)
    (h : ∀ e ∈ members, e.2.Distinct) :
    Dict.Distinct (members.foldl (fun d (k, v) => Dict.set d k v) d) := by
  induction members generalizing d
  case nil            => exact hd
  case cons e _ hi =>
    have ⟨he, h⟩ := List.forall_mem_cons.mp h
    exact hi (hd.set he e.1) h

theorem gives_dict {inner : Scan Value} (h : inner.Gives Value.Distinct) :
    (dict inner).Gives Value.Distinct := by
  have hm : (member inner).Gives fun e => e.2.Distinct :=
    .after fun _ => .after fun _ => h.bind fun _ hv => .pure hv
  exact (gives_list hm).bind fun _ hl => .pure <| (distinct_foldl .nil hl).toValue _

theorem gives_content {inner : Scan Value} (h : inner.Gives Value.Distinct) :
    (content inner).Gives Value.Distinct := by
  refine .after fun isTrue => ?_
  cases isTrue
  case true  => exact .pure <| .leaf rfl
  case false =>
    refine .after fun isFalse => ?_
    cases isFalse
    case true  => exact .pure <| .leaf rfl
    case false =>
      refine .after fun c => ?_
      split
      case h_1 => exact gives_dict h
      case h_2 => exact .after fun _ => .pure <| .leaf rfl
      case h_3 => exact .after fun _ => .pure <| .leaf rfl
      case h_4 => exact .after fun _ => .after fun _ => .after fun _ => .pure <| .leaf rfl
      case h_5 => exact .after fun _ => .pure <| .leaf rfl

theorem gives_value (fuel : Nat) : (value fuel).Gives Value.Distinct := by
  induction fuel
  case zero    => exact .failure
  case succ hi => exact .after fun _ => (gives_content hi).bind fun _ hv => .after fun _ => .pure hv

theorem distinct_ofText (text : String) : (ofText text).Distinct := by
  rw [ofText]
  cases h : (value (text.toList.length + 1)).whole? text.toList
  case none   => exact .leaf rfl
  case some v => exact (gives_value _).whole? h

end TunnelPorts.Config.EnvironmentValue
