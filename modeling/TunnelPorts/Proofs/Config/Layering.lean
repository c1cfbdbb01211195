import TunnelPorts.Proofs.Config.Decode
import TunnelPorts.Proofs.Config.Environment
import TunnelPorts.Proofs.Config.FileLayer

/-!
Loading by fields. As long as the layers are plain, each field of the source is decided on its own:
by the file if it sets the field, or else by the last variable that does, or else by the defaults.
-/

namespace TunnelPorts.Config

variable {fs : FileSystem} {env : Environment} {named? : Option String} {file : Dict}
  {source : Source} {key : String}

-- The layer of the file that is named; it is empty if none is, or none is found.
def namedLayer (fs : FileSystem) (named? : Option String) : Except Error Dict :=
  match named?.bind fs.findUpward? with
  | some path => fileLayer fs path
  | none      => .ok []

theorem namedLayer_eq {named found : String} (h : fs.findUpward? named = some found) :
    namedLayer fs (some named) = fileLayer fs found := by
  rw [namedLayer, Option.bind_some, h]

theorem distinct_namedLayer (h : namedLayer fs named? = .ok file) : file.Distinct := by
  rw [namedLayer] at h
  split at h
  case h_1 => exact distinct_fileLayer h
  case h_2 =>
    cases h
    exact .nil

-- The environment has a part in what is decoded, and in nothing else.
theorem exists_load_eq (fs : FileSystem) (named? : Option String) :
    ∃ found, ∀ env, load fs env named? =
      (namedLayer fs named? >>= fun file => decode (merged env file)).mapError fun error =>
        { named?, found, error } := by
  refine ⟨((named?.bind fs.findUpward?).map (Path.shown fs.workingDirectory)).getD "", ?_⟩
  intro env
  change ((namedLayer fs named?).mapError _ >>= fun file =>
    (decode (merged env file)).mapError _) = _
  cases namedLayer fs named? <;> rfl

theorem load_eq (env : Environment) (h : namedLayer fs named? = .ok file) :
    ∃ found, load fs env named? =
      (decode (merged env file)).mapError fun error => { named?, found, error } := by
  have ⟨found, hl⟩ := exists_load_eq fs named?
  refine ⟨found, ?_⟩
  rw [hl, h]
  rfl

theorem load_eq_ok_iff (h : namedLayer fs named? = .ok file) :
    load fs env named? = .ok source ↔ decode (merged env file) = .ok source := by
  have ⟨_, hl⟩ := load_eq env h
  rw [hl]
  cases decode (merged env file) <;> simp [Except.mapError]

-- What a field is by default.
def fallback? : String → Option Value
  | "kind"      => some (.scalar (.string "file") .defaults)
  | "file_name" => some (.scalar (.string "../input/tunnels.json") .defaults)
  | _           => none

theorem field?_defaults (h : key ∈ sourceFields) : defaults.field? key = fallback? key := by
  simp only [sourceFields, List.mem_cons, List.not_mem_nil, or_false] at h
  rcases h with rfl | rfl | rfl <;> rfl

-- The value of a field that counts.
def effective? (env : Environment) (file : Dict) (key : String) : Option Value :=
  (file.field? key).or ((env.lastField? key).or (fallback? key))

-- As far as the source is a table in all layers that mention it, its fields look like what counts.
theorem outline_field?_merged (hf : namedLayer fs named? = .ok file) (ht : file.isTabular)
    (he : env.layer.isTabular) (key : String) (hk : key ∈ sourceFields) :
    ((merged env file).field? key).map Value.outline =
      (effective? env file key).map Value.outline := by
  rw [merged, effective?, Dict.outline_field?_merge (distinct_namedLayer hf) ht, Option.map_or,
    Dict.outline_field?_merge env.distinct_layer he, Option.map_or, field?_defaults hk,
    env.outline_field?_layer, Option.map_or, Option.map_or]

-- The configuration that is loaded, by its layers.
structure Loads (fs : FileSystem) (env : Environment) (named? : Option String) (file : Dict) :
    Prop where
  file_eq : namedLayer fs named? = .ok file
  file_plain : file.IsPlain
  env_plain : env.layer.IsPlain

namespace Loads

theorem field?_merged (h : Loads fs env named? file) (hk : key ∈ sourceFields) :
    (merged env file).field? key = effective? env file key := by
  rw [merged, h.file_plain.field?_merge (distinct_namedLayer h.file_eq) hk,
    h.env_plain.field?_merge env.distinct_layer hk, field?_defaults hk,
    Environment.field?_layer (h.env_plain.flat key hk), effective?]

theorem givenBy_iff (h : Loads fs env named? file) :
    source.GivenBy (merged env file).field? ↔ source.GivenBy (effective? env file) :=
  Source.GivenBy.congr (h.field?_merged List.mem_cons_self) <|
    h.field?_merged (by cases source <;> simp [sourceFields, Source.field])

theorem load_eq_ok_iff {name : String} {o : Origin} (h : Loads fs env named? file)
    (hk : effective? env file "kind" = some (.scalar (.string name) o)) :
    load fs env named? = .ok source ↔ source.GivenBy (effective? env file) := by
  rw [Config.load_eq_ok_iff h.file_eq, ← h.givenBy_iff]
  refine decode_eq_ok_iff ((h.field?_merged List.mem_cons_self).trans hk) ?_
  -- The defaults name a file, so that there is always a file name.
  cases source
  case inMemory => nofun
  case file =>
    intro _
    rw [h.field?_merged (by simp [sourceFields, Source.field])]
    simp [effective?, fallback?, Source.field]

end Loads

-- Where the kind is a string, the source that is loaded is the one that the kind and the field of
-- that kind give; nothing else in the layers has any part in it.
theorem load_by_fields {name : String} {o : Origin} (h : Loads fs env named? file)
    (hk : effective? env file "kind" = some (.scalar (.string name) o)) :
    (∀ source, load fs env named? = .ok source ↔ source.GivenBy (effective? env file)) ∧
    ((∃ e, load fs env named? = .error e) ↔
      ∀ source : Source, ¬source.GivenBy (effective? env file)) ∧
    ∀ fs' env' named?' file' source, Loads fs' env' named?' file' →
      load fs env named? = .ok source →
      (∀ key ∈ ["kind", source.field], effective? env' file' key = effective? env file key) →
      load fs' env' named?' = .ok source := by
  have hl source : load fs env named? = .ok source ↔ _ := h.load_eq_ok_iff hk
  refine ⟨hl, ?_, ?_⟩
  case refine_1 =>
    simp only [← hl]
    cases load fs env named? <;> simp
  case refine_2 =>
    intro fs' env' named?' file' source h' hs he
    have hk' := he "kind" List.mem_cons_self
    have hg := Source.GivenBy.congr hk' <| he source.field (by simp)
    exact h'.load_eq_ok_iff (hk'.trans hk) |>.mpr <| hg.mpr <| hl source |>.mp hs

-- The file gives the kind, and a file name that is of no use then; a variable gives the document.
theorem load_by_fields_document :
    load ⟨"/", fun _ => .ok (.file (Text.utf8 (writtenTable
        [("kind", "in_memory"), ("file_name", "x")])))⟩
      [("tkx_Source_Config__Document", "\x7b\"a\":\x7b\x7d\x7d")] (some "/tkx.toml") =
      .ok (.inMemory "\x7b\"a\":\x7b\x7d\x7d") := by
  have he : Environment.layer [("tkx_Source_Config__Document", "\x7b\"a\":\x7b\x7d\x7d")] =
      [("source_config", .dict
        [("document", .scalar (.string "\x7b\"a\":\x7b\x7d\x7d") .environment)]
        .environment)] := by
    cbv
  have ht : IsSourceTable [("kind", "in_memory"), ("file_name", "x")]
      (writtenTable [("kind", "in_memory"), ("file_name", "x")]) := by
    apply isSourceTable_written
    all_goals simp [Toml.BareKey, Text.isKeyChar, reservedKey, standInKey]
  have hf contents : FileSystem.findUpward? ⟨"/", fun _ => .ok (.file contents)⟩ "/tkx.toml" =
      some "/tkx.toml" :=
    rfl
  have hl : Loads _ _ _ (sourceTable [("kind", "in_memory"), ("file_name", "x")]) := {
    file_eq := namedLayer_eq (hf _) |>.trans <|
      fileLayer_sourceTable (FileSystem.readText_of_holds ⟨true, rfl⟩) ht
    file_plain := ⟨rfl, by decide⟩
    env_plain := ⟨by rw [he]; rfl, by rw [he]; decide⟩ }
  have hk : effective? _ _ "kind" = some (.scalar (.string "in_memory") .file) :=
    hl.field?_merged List.mem_cons_self |>.symm.trans (by rw [merged, he]; rfl)
  have hd : effective? _ _ "document" =
      some (.scalar (.string "\x7b\"a\":\x7b\x7d\x7d") .environment) :=
    hl.field?_merged (by decide) |>.symm.trans (by rw [merged, he]; rfl)
  exact load_by_fields hl hk |>.left _ |>.mpr ⟨⟨_, hk⟩, ⟨_, hd⟩⟩

end TunnelPorts.Config
