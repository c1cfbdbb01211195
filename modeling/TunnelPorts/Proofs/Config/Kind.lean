import TunnelPorts.Proofs.Config.Layering

/-!
Kinds that are no kinds. Where the value that counts for the kind of the source stands for no kind,
no source is loaded, whatever its type, and whatever the layers have to say besides.
-/

namespace TunnelPorts

-- The number of a kind.
def Source.Kind.index : Source.Kind → Nat
  | file     => 0
  | inMemory => 1

theorem Source.Kind.ofIndex?_eq_some_iff {n : Nat} {k : Source.Kind} :
    Source.Kind.ofIndex? n = some k ↔ n = k.index := by
  match n with
  | 0 | 1 | _ + 2 => cases k <;> simp [ofIndex?, index]

namespace Config

variable {v : Value} {k : Source.Kind} {d : Dict} {o : Origin} {e : Error} {path : List String}

-- What stands for a kind: its name or its number. No number with a sign does.
def Value.IsKind (v : Value) (k : Source.Kind) : Prop :=
  ∃ o, v = .scalar (.string k.name) o ∨ v = .scalar (.unsigned k.index) o

-- A dictionary is no kind, whatever is in it.
theorem Value.isKind_outline : v.outline.IsKind k ↔ v.IsKind k := by
  cases v
  case dict => simp [IsKind, outline]
  all_goals exact Iff.rfl

theorem Value.isKind_string {name : String} :
    (Value.scalar (.string name) o).IsKind k ↔ name = k.name := by
  simp [IsKind]

namespace Decode

theorem kind_eq_ok_iff_isKind : kind path v = .ok k ↔ v.IsKind k := by
  match v with
  | .scalar (.string name) o => rw [kind_eq_ok_iff, Value.isKind_string]
  | .scalar (.char c) o =>
    -- No kind has a name of one character.
    have hn : String.singleton c ≠ k.name := by
      intro h
      have hl := congrArg String.length h
      cases k <;> revert hl <;> simp [Source.Kind.name] <;> decide
    rw [kind, named_eq_ok_iff]
    simp [hn, Value.IsKind]
  | .scalar (.unsigned n) o =>
    have hi : kind path (.scalar (.unsigned n) o) = .ok k ↔ Source.Kind.ofIndex? n = some k := by
      rw [kind]
      cases Source.Kind.ofIndex? n <;> simp [wrong]
    rw [hi, Source.Kind.ofIndex?_eq_some_iff]
    simp [Value.IsKind]
  | .scalar (.boolean _) _ | .scalar (.signed _) _ | .scalar (.float _) _
  | .sequence .. | .dict .. =>
    simp [kind, wrong, Value.IsKind]

theorem path_of_wrong {α : Type} {m : Mistake} (h : (wrong m path o : Except Error α) = .error e) :
    e.path = sourceKey :: path := by
  cases h
  rfl

theorem path_of_kind_eq_error (h : kind path v = .error e) : e.path = sourceKey :: path := by
  rw [kind.eq_def] at h
  split at h
  case h_1 | h_2 =>
    rw [kind.named] at h
    split at h
    case h_1 => cases h
    case h_2 => exact path_of_wrong h
  case h_3 =>
    split at h
    case h_1 => cases h
    case h_2 => exact path_of_wrong h
  case h_4 => exact path_of_wrong h

theorem path_of_read_eq_error {expected : String} {make : String → Source}
    (h : (text expected o v >>= fun s => pure (make s)) = .error e) : e.path = [sourceKey] := by
  rw [text.eq_def] at h
  split at h
  case h_1 => cases h
  case h_2 => exact path_of_wrong h

-- An error in anything but the kind is one of the source as a whole.
theorem path_of_ofDict_eq_error (hd : d.get? kindKey = some v) (hk : v.IsKind k)
    (h : ofDict d o = .error e) : e.path = [sourceKey] := by
  rw [ofDict, hd] at h
  dsimp only at h
  rw [kind_eq_ok_iff_isKind.mpr hk] at h
  cases k <;> dsimp only [bind, Except.bind] at h
  case file =>
    split at h
    case h_1 => cases h
    case h_2 => exact path_of_read_eq_error h
  case inMemory =>
    split at h
    case h_1 => exact path_of_wrong h
    case h_2 => exact path_of_read_eq_error h

theorem ofDict_eq_error_iff (hd : d.get? kindKey = some v) :
    (∃ e, ofDict d o = .error e ∧ e.path = [sourceKey, kindKey]) ↔ ∀ k, ¬v.IsKind k := by
  constructor
  case mp =>
    intro ⟨e, h, hp⟩ k hk
    rw [path_of_ofDict_eq_error hd hk h] at hp
    contradiction
  case mpr =>
    intro h
    cases hk : kind [kindKey] v
    case ok k => exact absurd (kind_eq_ok_iff_isKind.mp hk) (h k)
    case error e =>
      refine ⟨e, ?_, path_of_kind_eq_error hk⟩
      rw [ofDict, hd]
      simp [hk, bind, Except.bind]

end Decode

theorem decode_eq_error_iff {config : Dict} (h : config.field? Decode.kindKey = some v) :
    (∃ e, decode config = .error e ∧ e.path = ["source_config", "kind"]) ↔ ∀ k, ¬v.IsKind k := by
  have ⟨u, hu, hd⟩ := Option.bind_eq_some_iff.mp h
  match u with
  | .scalar .. | .sequence .. => contradiction
  | .dict d _ =>
    rw [decode, hu]
    exact Decode.ofDict_eq_error_iff hd

variable {fs : FileSystem} {env : Environment} {named? : Option String} {file : Dict}

-- Loading fails for the kind exactly if the value that counts for it stands for no kind. There is
-- no source then, and no other error comes before this one.
theorem load_error_at_kind_iff (hf : namedLayer fs named? = .ok file) (ht : file.isTabular)
    (he : env.layer.isTabular) (hv : effective? env file "kind" = some v) :
    (∃ f, load fs env named? = .error f ∧ f.error.path = ["source_config", "kind"]) ↔
      ∀ k, ¬v.IsKind k := by
  have ho := outline_field?_merged hf ht he "kind" List.mem_cons_self
  rw [hv, Option.map_some, Option.map_eq_some_iff] at ho
  have ⟨w, hw, ho⟩ := ho
  have hk k : v.IsKind k ↔ w.IsKind k := by
    rw [← Value.isKind_outline, ← ho, Value.isKind_outline]
  have ⟨_, hl⟩ := load_eq env hf
  simp only [hl, hk, ← decode_eq_error_iff hw]
  cases decode (merged env file) <;> simp [Except.mapError]

-- A variable gives a good kind, and the file gives a bad one on top of it.
theorem load_error_at_kind_floppy :
    ∃ f, load ⟨"/", fun _ => .ok (.file (Text.utf8 (writtenTable [("kind", "floppy")])))⟩
      [("TKX_SOURCE_CONFIG__KIND", "file")] (some "/tkx.toml") = .error f ∧
        f.error.path = ["source_config", "kind"] := by
  have ht : IsSourceTable [("kind", "floppy")] (writtenTable [("kind", "floppy")]) := by
    apply isSourceTable_written
    all_goals simp [Toml.BareKey, Text.isKeyChar, reservedKey, standInKey]
  have hf contents : FileSystem.findUpward? ⟨"/", fun _ => .ok (.file contents)⟩ "/tkx.toml" =
      some "/tkx.toml" :=
    rfl
  have hl : namedLayer _ _ = .ok (sourceTable [("kind", "floppy")]) :=
    namedLayer_eq (hf _) |>.trans <|
      fileLayer_sourceTable (FileSystem.readText_of_holds ⟨true, rfl⟩) ht
  have hk : effective? [("TKX_SOURCE_CONFIG__KIND", "file")] (sourceTable [("kind", "floppy")])
      "kind" = some (.scalar (.string "floppy") .file) :=
    rfl
  have he : Dict.isTabular (Environment.layer [("TKX_SOURCE_CONFIG__KIND", "file")]) := rfl
  refine load_error_at_kind_iff hl rfl he hk |>.mpr ?_
  intro k
  rw [Value.isKind_string]
  cases k <;> decide

-- The numbers of the kinds are as good as their names, though only a variable can give them.
theorem load_numbered_kind :
    let fs : FileSystem := ⟨"/", fun _ => .error (.system .noSuchFile)⟩
    let env : Environment := [("TKX_SOURCE_CONFIG__KIND", "0")]
    namedLayer fs none = .ok [] ∧ Dict.isTabular [] ∧ env.layer.isTabular ∧
      effective? env [] "kind" = some (.scalar (.unsigned 0) .environment) ∧
      load fs env none = .ok (.file "../input/tunnels.json") := by
  intro fs env
  have hf : namedLayer fs none = .ok [] := rfl
  have he : env.layer =
      [("source_config", .dict [("kind", .scalar (.unsigned 0) .environment)] .environment)] :=
    rfl
  have hl : load fs env none = .ok (.file "../input/tunnels.json") := by
    rw [load_eq_ok_iff hf, merged, he]
    rfl
  exact ⟨hf, rfl, rfl, rfl, hl⟩

end Config
end TunnelPorts
