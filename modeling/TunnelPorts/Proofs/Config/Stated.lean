import TunnelPorts.Proofs.Config.Layering

/-!
Sources that a configuration file states in full: both their kind and their text. No environment has
any part in what is loaded then.
-/

namespace TunnelPorts

open Config

variable {source : Source} {fields : List (String × String)} {fs : FileSystem} {named found : String}

namespace Config

-- A file layer has the last word on fields that it gives as texts.
theorem load_of_givenBy {layer : Dict} (hn : fs.findUpward? named = some found)
    (hl : fileLayer fs found = .ok layer) (hg : source.GivenBy layer.field?) (env : Environment) :
    load fs env (some named) = .ok source := by
  have hf : namedLayer fs (some named) = .ok layer := (namedLayer_eq hn).trans hl
  have hd := distinct_fileLayer hl
  have ⟨⟨o, hk⟩, ⟨o', ht⟩⟩ := hg
  rw [load_eq_ok_iff hf]
  exact decode_of_givenBy {
    kind := ⟨o, Dict.field?_merge_of_some hd rfl hk⟩
    text := ⟨o', Dict.field?_merge_of_some hd rfl ht⟩ }

end Config

-- The text is that of a source table which gives the source's kind and its text, and perhaps texts
-- to other keys; each text stands between quotes and may use any escapes.
def Source.WrittenIn (source : Source) (text : String) : Prop :=
  ∃ fields, IsSourceTable fields text ∧
    ("kind", source.kind.name) ∈ fields ∧ (source.field, source.text) ∈ fields

-- There is such a text for every source.
def Source.written (source : Source) : String :=
  writtenTable [("kind", source.kind.name), (source.field, source.text)]

theorem Source.writtenIn_written (source : Source) : source.WrittenIn source.written := by
  refine ⟨[("kind", source.kind.name), (source.field, source.text)], ?_, by simp, by simp⟩
  apply isSourceTable_written
  all_goals
    cases source
    all_goals simp [Source.field, Toml.BareKey, Text.isKeyChar, reservedKey, standInKey]

theorem Config.exists_fileLayer {text : String} (hr : fs.readText found = .ok text)
    (h : source.WrittenIn text) :
    ∃ layer, fileLayer fs found = .ok layer ∧ source.GivenBy layer.field? := by
  have ⟨fields, ht, hk, hf⟩ := h
  refine ⟨_, fileLayer_sourceTable hr ht, ⟨.file, ?_⟩, ⟨.file, ?_⟩⟩
  case refine_1 => rw [field?_sourceTable, Assoc.lookup_of_mem ht.nodup hk, Option.map_some]
  case refine_2 => rw [field?_sourceTable, Assoc.lookup_of_mem ht.nodup hf, Option.map_some]

-- The file wins over every environment, whatever else either of them has to say.
theorem Config.load_stated (h : fs.findUpward? named = some found) (env : Environment) :
    (∀ layer, fileLayer fs found = .ok layer → source.GivenBy layer.field? →
      load fs env (some named) = .ok source) ∧
    ∀ text, fs.readText found = .ok text → source.WrittenIn text →
      load fs env (some named) = .ok source := by
  constructor
  case left  => exact fun layer hl hg => load_of_givenBy h hl hg env
  case right =>
    intro text hr hw
    have ⟨layer, hl, hg⟩ := exists_fileLayer hr hw
    exact load_of_givenBy h hl hg env

theorem Config.load_stated_quotes :
    load ⟨"/", fun _ => .ok (.file (Text.utf8 (Source.written (.file "\"a\\b\"\n🚇"))))⟩
      [("TKX_SOURCE_CONFIG__KIND", "in_memory"), ("TKX_SOURCE_CONFIG__FILE_NAME__X", "[1, 2]"),
        ("TKX_SOURCE_CONFIG", "5")]
      (some "/tkx.toml") = .ok (.file "\"a\\b\"\n🚇") := by
  have hf (contents : Bytes) :
      FileSystem.findUpward? ⟨"/", fun _ => .ok (.file contents)⟩ "/tkx.toml" = some "/tkx.toml" :=
    rfl
  exact load_stated (hf _) _ |>.right _ (FileSystem.readText_of_holds ⟨true, rfl⟩)
    (Source.writtenIn_written _)

end TunnelPorts
