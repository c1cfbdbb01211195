import TunnelPorts.Config.Load
import TunnelPorts.Proofs.Config.Merge
import TunnelPorts.Proofs.FileSystem
import TunnelPorts.Proofs.Toml.Distinct
import TunnelPorts.Proofs.Toml.Fields

/-!
The layer of a configuration file. What a table becomes as part of it has the same keys, unless the
table stands for something else, so that no key is given twice in the layer either.
-/

namespace TunnelPorts

namespace Config

variable {d : Dict} {v : Value} {k : String} {u : Toml.Value} {entries : Toml.Entries}

theorem Dict.ofToml?_cons_iff :
    Dict.ofToml? ((k, u) :: entries) = some d ↔
      ∃ v d', Value.ofToml? u = some v ∧ Dict.ofToml? entries = some d' ∧ d = (k, v) :: d' := by
  simp only [Dict.ofToml?, Option.bind_eq_bind, Option.bind_eq_some_iff, Option.pure_def,
    Option.some_inj, eq_comm (b := d)]
  grind

theorem Dict.keys_ofToml? (h : Dict.ofToml? entries = some d) :
    d.map Prod.fst = entries.map Prod.fst := by
  induction entries generalizing d
  case nil =>
    cases h
    rfl
  case cons e entries hi =>
    have ⟨v, d', _, hd, he⟩ := ofToml?_cons_iff.mp h
    simp [he, hi hd]

theorem Dict.exists_ofToml? (h : Dict.ofToml? entries = some d) {e : String × Value} (he : e ∈ d) :
    ∃ e' ∈ entries, Value.ofToml? e'.2 = some e.2 := by
  induction entries generalizing d
  case nil =>
    cases h
    contradiction
  case cons e' entries hi =>
    have ⟨v, d', hv, hd, hc⟩ := ofToml?_cons_iff.mp h
    rcases List.mem_cons.mp (hc ▸ he) with rfl | he
    case inl => exact ⟨e', List.mem_cons_self, hv⟩
    case inr =>
      have ⟨e'', hm, hv⟩ := hi hd he
      exact ⟨e'', List.mem_cons_of_mem e' hm, hv⟩

theorem Dict.distinct_ofToml? (hn : (entries.map Prod.fst).Nodup)
    (hi : ∀ e ∈ entries, ∀ v, Value.ofToml? e.2 = some v → v.Distinct)
    (h : Dict.ofToml? entries = some d) : d.Distinct where
  nodup := keys_ofToml? h ▸ hn
  values e he :=
    have ⟨e', he', hv⟩ := exists_ofToml? h he
    hi e' he' e.2 hv

theorem Value.distinct_ofToml? (hu : u.Distinct) (h : Value.ofToml? u = some v) : v.Distinct := by
  induction hu generalizing v
  case leaf u hu =>
    cases u
    case table => contradiction
    case moment =>
      cases h
      exact .dict List.nodup_nil nofun
    case array | tables =>
      have ⟨items, _, h⟩ := Option.bind_eq_some_iff.mp h
      cases h
      exact .leaf rfl
    all_goals
      cases h
      exact .leaf rfl
  case table form entries hn _ hi =>
    rw [Value.ofToml?, Option.bind_eq_bind, Option.bind_eq_some_iff] at h
    have ⟨d, hd, h⟩ := h
    have hd : d.Distinct := Dict.distinct_ofToml? hn (fun e he _ => hi e he) hd
    split at h
    case isTrue => cases h
    case isFalse =>
      cases h
      cases hs : d.get? standInKey
      case none   => exact hd.toValue .file
      case some v => exact hd.lookup hs

theorem distinct_fileLayer {fs : FileSystem} {path : String} {layer : Dict}
    (h : fileLayer fs path = .ok layer) : layer.Distinct := by
  rw [fileLayer] at h
  split at h
  case h_1 => cases h
  case h_2 =>
    split at h
    case h_1 hl =>
      cases h
      have ⟨entries, he, hd⟩ := Option.bind_eq_some_iff.mp hl
      have hs := Toml.distinct_parse he
      exact Dict.distinct_ofToml? hs.nodup
        (fun e he _ => Value.distinct_ofToml? (hs.values e he)) hd
    case h_2 => cases h

-- Texts of a table as part of the file layer.
def layerOf (fields : List (String × String)) : Dict :=
  fields.map fun e => (e.1, .scalar (.string e.2) .file)

theorem ofToml?_ofFields (fields : List (String × String)) :
    Dict.ofToml? (Toml.ofFields fields) = some (layerOf fields) := by
  induction fields
  case nil         => rfl
  case cons _ _ hi => exact Dict.ofToml?_cons_iff.mpr ⟨_, _, rfl, hi, rfl⟩

theorem get?_layerOf (fields : List (String × String)) (key : String) :
    (layerOf fields).get? key = (fields.lookup key).map fun s => .scalar (.string s) .file := by
  induction fields
  case nil => rfl
  case cons e fields hi =>
    have ⟨k, s⟩ := e
    rw [layerOf, List.map_cons, Dict.get?_cons, Assoc.lookup_cons, ← layerOf, hi]
    split <;> rfl

-- The layer of a source table that is made of texts.
def sourceTable (fields : List (String × String)) : Dict :=
  [("source_config", .dict (layerOf fields) .file)]

theorem field?_sourceTable (fields : List (String × String)) (key : String) :
    (sourceTable fields).field? key =
      (fields.lookup key).map fun s => .scalar (.string s) .file :=
  get?_layerOf fields key

-- The text of a table `[source_config]` in which each of some keys is given a text, and none of
-- these keys has a meaning of its own.
structure IsSourceTable (fields : List (String × String)) (text : String) : Prop where
  exists_table : ∃ cs, Toml.TableText "source_config" fields cs ∧
    (text.toList = cs ∨ text.toList = Toml.byteOrderMark :: cs)
  nodup : (fields.map Prod.fst).Nodup
  not_reserved : reservedKey ∉ fields.map Prod.fst
  not_standIn : standInKey ∉ fields.map Prod.fst

def writtenTable (fields : List (String × String)) : String :=
  .ofList <| Toml.written "source_config" fields

theorem isSourceTable_written {fields : List (String × String)}
    (h : ∀ e ∈ fields, Toml.BareKey e.1) (hn : (fields.map Prod.fst).Nodup)
    (hu : reservedKey ∉ fields.map Prod.fst) (hs : standInKey ∉ fields.map Prod.fst) :
    IsSourceTable fields (writtenTable fields) where
  exists_table := by
    have hk : Toml.BareKey "source_config" := by simp [Toml.BareKey, Text.isKeyChar]
    exact ⟨_, Toml.tableText_written hk h, .inl String.toList_ofList⟩
  nodup := hn
  not_reserved := hu
  not_standIn := hs

theorem fileLayer_sourceTable {fs : FileSystem} {path text : String}
    {fields : List (String × String)} (hr : fs.readText path = .ok text)
    (h : IsSourceTable fields text) : fileLayer fs path = .ok (sourceTable fields) := by
  have ⟨cs, hc, ht⟩ := h.exists_table
  have hv : Value.ofToml? (.table .defined (Toml.ofFields fields)) =
      some (.dict (layerOf fields) .file) := by
    rw [Value.ofToml?, ofToml?_ofFields]
    simp [get?_layerOf, Assoc.lookup_eq_none h.not_reserved, Assoc.lookup_eq_none h.not_standIn]
  rw [fileLayer, hr]
  dsimp only
  rw [Toml.parse?_tableText hc h.nodup ht, Option.bind_some, Toml.oneTable,
    Dict.ofToml?_cons_iff.mpr ⟨_, _, hv, rfl, rfl⟩, sourceTable]

end Config
end TunnelPorts
