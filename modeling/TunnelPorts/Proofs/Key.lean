import TunnelPorts.Key
import TunnelPorts.Proofs.Split
import TunnelPorts.Text.Utf8

/-!
What a key is parsed into. The fields of a key are what splitting it at its separators gives, and a
key with at least four separators parses into the fourth and the fifth of them.
-/

namespace TunnelPorts

namespace Key

-- The `n`th field of a key, counted from zero.
def field (key : String) (n : Nat) : String :=
  .ofList ((key.toList.splitOn '_').getD n [])

-- The pair of a key that has all the fields it needs.
def tunnel (key : String) : Tunnel where
  label := field key 3
  port := field key 4

-- The separators of a key; there is one field more.
def separators (key : String) : Nat :=
  key.toList.count '_'

-- The token by which the output names the tunnel of a key.
def token (key : String) : String :=
  field key 3 ++ ":" ++ field key 4 ++ ","

def tokens (keys : List String) : Bytes :=
  keys.flatMap fun k => Text.utf8 (token k)

-- What is taken field by field is what the list of all fields has in these places.
theorem parse_eq_fields (key : String) :
    parse key =
      match (fields key)[3]?, (fields key)[4]? with
      | some label, some port => .ok ⟨.ofList label, .ofList port⟩
      | _, _                  => .error ⟨(fields key).length⟩ := by
  have ⟨hl, hr⟩ := Text.Pieces.nth?_eq separator (.ofList key.toList) 3
  have hp := Text.Pieces.next?_fst separator ((Text.Pieces.ofList key.toList).nth? separator 3).2
  rw [hr, List.head?_drop] at hp
  simp only [parse, labelField, hl, hp]
  rfl

theorem parse_eq (key : String) :
    parse key =
      if separators key < 4 then .error ⟨separators key + 1⟩ else .ok (tunnel key) := by
  have hl : (fields key).length = separators key + 1 := length_fields key
  have hf : key.toList.splitOn '_' = fields key := (Text.split_eq_splitOn ..).symm
  rw [parse_eq_fields, hl]
  split_ifs with hs
  case pos =>
    rw [List.getElem?_eq_none (i := 4) (by omega)]
    cases (fields key)[3]? <;> rfl
  case neg =>
    have h₃ : 3 < (fields key).length := by omega
    have h₄ : 4 < (fields key).length := by omega
    simp [tunnel, field, hf, h₃, h₄]

theorem parse_eq_ok_iff {key : String} {t : Tunnel} :
    parse key = .ok t ↔
      ∃ a b c more, fields key = a :: b :: c :: t.label.toList :: t.port.toList :: more := by
  rw [parse_eq_fields]
  constructor
  case mp =>
    intro h
    rcases hf : fields key with _ | ⟨a, _ | ⟨b, _ | ⟨c, _ | ⟨label, _ | ⟨port, more⟩⟩⟩⟩⟩ <;>
      rw [hf] at h <;> cases h
    exact ⟨a, b, c, more, by simp⟩
  case mpr =>
    intro ⟨a, b, c, more, hf⟩
    simp [hf]

-- A key that is written from five fields, of which the tunnel's are the last two, and that ends
-- there or goes on behind another separator.
def Names (key : String) (t : Tunnel) : Prop :=
  ∃ a b c rest : String,
    (∀ field ∈ [a, b, c, t.label, t.port], '_' ∉ field.toList) ∧
    (rest = "" ∨ ∃ more, rest = "_" ++ more) ∧
    key = a ++ "_" ++ b ++ "_" ++ c ++ "_" ++ t.label ++ "_" ++ t.port ++ rest

theorem Names.exists_fields {key : String} {t : Tunnel} (h : Names key t) :
    ∃ a b c more, fields key = a :: b :: c :: t.label.toList :: t.port.toList :: more := by
  have ⟨a, b, c, rest, hs, hr, hk⟩ := h
  simp only [List.forall_mem_cons] at hs
  have ⟨ha, hb, hc, hl, hp, _⟩ := hs
  have hk : key.toList = a.toList ++ '_' :: (b.toList ++ '_' :: (c.toList ++ '_' ::
      (t.label.toList ++ '_' :: (t.port.toList ++ rest.toList)))) := by
    simp [hk]
  have hr : ∃ more, Text.split '_' (t.port.toList ++ rest.toList) = t.port.toList :: more := by
    rcases hr with rfl | ⟨more, rfl⟩
    case inl => exact ⟨[], by simp [Text.split_of_not_mem hp]⟩
    case inr =>
      exact ⟨_, by simp [Text.split_append_cons, Text.split_of_not_mem hp]; rfl⟩
  have ⟨more, hr⟩ := hr
  refine ⟨a.toList, b.toList, c.toList, more, ?_⟩
  rw [fields, separator, hk]
  simp only [Text.split_append_cons, Text.split_of_not_mem, ha, hb, hc, hl, hr, not_false_iff]
  rfl

theorem names_of_fields {key : String} {t : Tunnel} {a b c : List Char} {more : List (List Char)}
    (h : fields key = a :: b :: c :: t.label.toList :: t.port.toList :: more) : Names key t := by
  have ⟨ha, s₁, hk, h⟩ := Text.exists_of_split_cons h
  have ⟨hb, s₂, h₁, h⟩ := Text.exists_of_split_cons h
  have ⟨hc, s₃, h₂, h⟩ := Text.exists_of_split_cons h
  have ⟨hl, s₄, h₃, h⟩ := Text.exists_of_split_cons h
  have ⟨hp, h⟩ := Text.exists_of_split h
  have hr : ∃ rest : List Char, s₄ = t.port.toList ++ rest ∧
      (rest = [] ∨ ∃ more, rest = '_' :: more) := by
    rcases h with ⟨_, h⟩ | ⟨s₅, h, _⟩
    case inl => exact ⟨[], by simp [h], .inl rfl⟩
    case inr => exact ⟨_, h, .inr ⟨s₅, rfl⟩⟩
  have ⟨rest, h₄, hr⟩ := hr
  refine ⟨.ofList a, .ofList b, .ofList c, .ofList rest, ?_, ?_, ?_⟩
  case refine_1 =>
    simp only [List.forall_mem_cons, String.toList_ofList]
    exact ⟨ha, hb, hc, hl, hp, nofun⟩
  case refine_2 =>
    rcases hr with rfl | ⟨more, rfl⟩
    case inl => exact .inl rfl
    case inr => exact .inr ⟨.ofList more, String.toList_injective (by simp)⟩
  case refine_3 =>
    apply String.toList_injective
    simp [hk, h₁, h₂, h₃, h₄, separator]

-- Which keys name a tunnel, and which tunnel that is; the others are told how many fields they have.
theorem parse_names (key : String) :
    ((∃ t, parse key = .ok t) ↔ 4 ≤ separators key) ∧
      (∀ t, parse key = .ok t ↔ Names key t) ∧
      ∀ n, parse key = .error ⟨n⟩ ↔ n = separators key + 1 ∧ 1 ≤ n ∧ n ≤ 4 := by
  refine ⟨?_, fun t => ?_, fun n => ?_⟩
  case refine_1 =>
    rw [parse_eq]
    split_ifs <;> simp <;> omega
  case refine_2 =>
    rw [parse_eq_ok_iff]
    exact ⟨fun ⟨_, _, _, _, h⟩ => names_of_fields h, Names.exists_fields⟩
  case refine_3 =>
    rw [parse_eq]
    split_ifs <;> simp <;> omega

end Key
end TunnelPorts
