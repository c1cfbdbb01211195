import TunnelPorts.Proofs.Assoc
import TunnelPorts.Proofs.Scan
import TunnelPorts.Toml.Document

/-!
No table of a document has a key twice, neither a table that was written between braces nor one that
came about line by line.
-/

namespace TunnelPorts.Toml

open Scan

namespace Value

def isTable : Value → Bool
  | table _ _ => true
  | _         => false

-- Nothing is asked of arrays: what is in them is never looked up.
inductive Distinct : Value → Prop
  | leaf {v} : v.isTable = false → Distinct v
  | table {form es} : (es.map Prod.fst).Nodup → (∀ e ∈ es, Distinct e.2) → Distinct (.table form es)

end Value

namespace Table

def Distinct (t : Table) : Prop :=
  Assoc.Distinct Value.Distinct t.entries

-- What changes a table leaves its keys distinct.
def Keeps (f : Table → Option Table) : Prop :=
  ∀ t t', t.Distinct → f t = some t' → t'.Distinct

variable {t t' : Table} {v v' : Value} {form : Form} {es : Entries} {f : Table → Option Table}

theorem distinct_of_value (h : (Value.table form es).Distinct) : Distinct ⟨form, es⟩ := by
  cases h
  case leaf        => contradiction
  case table hn hv => exact ⟨hn, hv⟩

theorem Distinct.toValue (h : t.Distinct) : t.toValue.Distinct :=
  .table h.nodup h.values

theorem Distinct.set (h : t.Distinct) (hv : v.Distinct) (key : String) : (t.set key v).Distinct :=
  Assoc.Distinct.set h hv key

theorem Keeps.inside (hf : Keeps f) (hv : v.Distinct) (h : inside? f v = some v') :
    v'.Distinct := by
  rw [inside?.eq_def] at h
  split at h
  case h_1 => cases h
  case h_2 =>
    have ⟨t, ht, hv'⟩ := Option.map_eq_some_iff.mp h
    subst hv'
    exact (hf _ t (distinct_of_value hv) ht).toValue
  case h_3 =>
    split at h
    case h_1 =>
      have ⟨t, _, hv'⟩ := Option.map_eq_some_iff.mp h
      subst hv'
      exact .leaf rfl
    case h_2 => cases h
  case h_4 => cases h

theorem Keeps.descend (hf : Keeps f) (form : Form) (path : List String) :
    Keeps (descend? form f path) := by
  induction path
  case nil            => exact hf
  case cons k path hi =>
    intro t t' ht h
    rw [descend?] at h
    split at h
    case h_1 =>
      have ⟨v, hv, h⟩ := Option.bind_eq_some_iff.mp h
      have ⟨u, hu, hv⟩ := Option.map_eq_some_iff.mp hv
      cases h
      exact hv ▸ ht.set (hi ⟨form, []⟩ u .nil hu).toValue k
    case h_2 w hw =>
      have hd : w.Distinct := Assoc.Distinct.lookup ht hw
      split at h
      case h_1 => cases h
      case h_2 =>
        have ⟨v, hv, h⟩ := Option.bind_eq_some_iff.mp h
        cases h
        exact ht.set (hi.inside hd hv) k

theorem keeps_addKey (hv : v.Distinct) (isDotted : Bool) (key : String) :
    Keeps (addKey? isDotted key v) := by
  intro t t' ht h
  rw [addKey?] at h
  split at h <;> try split at h
  case isTrue          => cases h
  case isFalse.isTrue  => cases h
  case isFalse.isFalse =>
    cases h
    exact ht.set hv key

theorem keeps_addDotted (hv : v.Distinct) (key : List String) : Keeps (addDotted? key v) := by
  intro t t' ht h
  rw [addDotted?, Option.bind_eq_bind, Option.bind_eq_some_iff] at h
  have ⟨last, _, h⟩ := h
  exact (keeps_addKey hv _ last).descend _ _ t t' ht h

theorem keeps_openTable (key : String) : Keeps (openTable? key) := by
  intro t t' ht h
  rw [openTable?] at h
  split at h
  case h_1 =>
    cases h
    exact ht.set (Distinct.toValue (t := ⟨.defined, []⟩) .nil) key
  case h_2 he =>
    cases h
    have hd := distinct_of_value <| Assoc.Distinct.lookup ht he
    exact ht.set (.table hd.nodup hd.values) key
  case h_3 => cases h

theorem keeps_openElement (key : String) : Keeps (openElement? key) := by
  intro t t' ht h
  rw [openElement?] at h
  split at h
  case h_3     => cases h
  all_goals
    cases h
    exact ht.set (.leaf rfl) key

theorem keeps_open (isElement : Bool) (path : List String) : Keeps (open? isElement path) := by
  intro t t' ht h
  rw [open?, Option.bind_eq_bind, Option.bind_eq_some_iff] at h
  have ⟨last, _, h⟩ := h
  cases isElement
  case true  => exact (keeps_openElement last).descend _ _ t t' ht h
  case false => exact (keeps_openTable last).descend _ _ t t' ht h

end Table

theorem gives_pair {α : Type} {P : α → Prop} {value : Scan α} (h : value.Gives P) :
    (pair value).Gives fun p => P p.2 :=
  .after fun _ => .after fun _ => .after fun _ => h.bind fun _ hv => .pure hv

theorem gives_pairs {α : Type} {P : α → Prop} {value : Scan α} (h : value.Gives P) (fuel : Nat) :
    (pairs value fuel).Gives fun l => ∀ p ∈ l, P p.2 := by
  induction fuel
  case zero         => exact .failure
  case succ fuel hi =>
    refine (gives_pair h).bind fun p hp => .after fun _ => .after fun isMore => ?_
    cases isMore
    case true  => exact hi.bind fun l hl => .pure <| List.forall_mem_cons.mpr ⟨hp, hl⟩
    case false => exact .after fun _ => .pure <| by simpa using hp

theorem gives_inlinePairs {α : Type} {P : α → Prop} {value : Scan α} (h : value.Gives P) :
    (inlinePairs value).Gives fun l => ∀ p ∈ l, P p.2 := by
  refine .after fun _ => .after fun isEnd => ?_
  cases isEnd
  case true  => exact .pure nofun
  case false => exact .after fun _ => gives_pairs h _

theorem gives_inlineTable {inner : Scan Value} (h : inner.Gives Value.Distinct) :
    (inlineTable inner).Gives Value.Distinct := by
  refine (gives_inlinePairs h).bind fun l hl => Gives.bind (P := Table.Distinct) ?_ fun t ht => ?_
  case refine_1 =>
    refine .foldlM .nil fun p hp t ht => .lift fun t' ht' => ?_
    exact Table.keeps_addDotted (hl p hp) p.1 t t' ht ht'
  case refine_2 => exact .pure ht.toValue

theorem gives_word : word.Gives Value.Distinct := by
  refine .after fun isTrue => ?_
  cases isTrue
  case true  => exact .pure <| .leaf rfl
  case false =>
    refine .after fun isFalse => ?_
    cases isFalse
    case true  => exact .pure <| .leaf rfl
    case false =>
      have hf : (Value.float <$> Number.float).Gives Value.Distinct := .map fun _ => .leaf rfl
      exact .orElse (.after fun _ => .pure <| .leaf rfl) <| hf.orElse <| .map fun _ => .leaf rfl

theorem gives_value (depth : Nat) : (value depth).Gives Value.Distinct := by
  induction depth
  all_goals
    rw [value]
    refine .after fun c => ?_
  case zero =>
    split
    case h_1 | h_2 => exact .map fun _ => .leaf rfl
    case h_3 | h_4 => exact .failure
    case h_5       => exact gives_word
  case succ hi =>
    split
    case h_1 | h_2 => exact .map fun _ => .leaf rfl
    case h_3       => exact .after fun _ => .after fun _ => .map fun _ => .leaf rfl
    case h_4       => exact .after fun _ => gives_inlineTable hi
    case h_5       => exact gives_word

theorem gives_headerLine {s : State} (h : s.root.Distinct) :
    (headerLine s).Gives fun s => s.root.Distinct := by
  refine .after fun isElement => .after fun path => .after fun _ => .after fun _ => ?_
  exact Gives.bind (.lift (Table.keeps_open isElement path s.root · h)) fun _ ht => .pure ht

theorem gives_pairLine {s : State} (h : s.root.Distinct) :
    (pairLine s).Gives fun s => s.root.Distinct := by
  refine (gives_pair (gives_value _)).bind fun p hp => .after fun _ => ?_
  have hf := (Table.keeps_addDotted hp p.1).descend .implied s.header
  exact Gives.bind (.lift (hf s.root · h)) fun _ ht => .pure ht

theorem gives_line {s : State} (h : s.root.Distinct) :
    (line s).Gives fun s => s.root.Distinct := by
  refine .after fun c => ?_
  split
  case h_1 | h_2 | h_3 => exact .after fun _ => .pure h
  case h_4             => exact .after fun _ => gives_headerLine h
  case h_5             => exact gives_pairLine h

theorem gives_document (fuel : Nat) {s : State} (h : s.root.Distinct) :
    (document fuel s).Gives Table.Distinct := by
  induction fuel generalizing s
  case zero         => exact .failure
  case succ fuel hi =>
    refine .after fun _ => .after fun rest => ?_
    split
    case isTrue  => exact .pure h
    case isFalse => exact (gives_line h).bind fun _ h => hi h

theorem distinct_parse {text : String} {entries : Entries} (h : parse? text = some entries) :
    Assoc.Distinct Value.Distinct entries := by
  rw [parse?] at h
  have ⟨t, ht, he⟩ := Option.map_eq_some_iff.mp h
  subst he
  exact (gives_document _ (s := {}) .nil).whole? ht

end TunnelPorts.Toml
