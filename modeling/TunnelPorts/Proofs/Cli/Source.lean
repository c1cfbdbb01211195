import TunnelPorts.Cli.Run
import TunnelPorts.Proofs.Config.Stated
import TunnelPorts.Proofs.FileSystem

/-!
The configuration of the command. What the command is configured by is what its argument leads to
from the working directory, as long as that is nothing but a regular file: for otherwise a file of
the same name further up is taken in its place.
-/

namespace TunnelPorts

variable {fs : FileSystem} {path : String}

namespace FileSystem

theorem exists?_of_ok {n : Node} (h : fs.look path = .ok n) : fs.exists? path = .ok true := by
  rw [exists?, h]

theorem exists?_of_noSuchFile (h : fs.look path = .error (.system .noSuchFile)) :
    fs.exists? path = .ok false := by
  rw [exists?, h]

theorem exists?_of_error {e : ReadError} (h : fs.look path = .error e)
    (he : e ≠ .system .noSuchFile) : fs.exists? path = .error e := by
  rw [exists?, h]
  split <;> simp_all

theorem isFile_iff : fs.isFile path ↔ ∃ n, fs.look path = .ok n ∧ n.isRegular := by
  rw [isFile]
  split <;> simp_all

end FileSystem

namespace Config

-- The layer of a configuration file with these contents, or without any to be read.
def layerOfContents : Except SystemError Bytes → Except Error Dict
  | .error cause => .error (.unreadable (.system cause))
  | .ok bytes    =>
    match Text.ofUtf8? bytes with
    | none      => .error (.unreadable .notUtf8)
    | some text =>
      match (Toml.parse? text).bind Dict.ofToml? with
      | some layer => .ok layer
      | none       => .error .syntaxError

-- The source that the defaults, the environment and the contents of a file, if there is one, name.
def sourceOf (env : Environment) (contents? : Option (Except SystemError Bytes)) :
    Except Error Source := do
  let file ← contents?.elim (.ok []) layerOfContents
  decode (merged env file)

theorem fileLayer_of_ok {n : Node} (h : fs.look path = .ok n) :
    fileLayer fs path = layerOfContents n.contents := by
  rw [fileLayer, FileSystem.readText_of_ok h]
  cases n.contents
  case error    => rfl
  case ok bytes =>
    rw [layerOfContents]
    dsimp only
    cases Text.ofUtf8? bytes <;> rfl

theorem load_of_not_found {named? : Option String} (h : named?.bind fs.findUpward? = none)
    (env : Environment) :
    load fs env named? = (sourceOf env none).mapError fun error => ⟨named?, "", error⟩ := by
  rw [load]
  simp only [h]
  rfl

theorem load_of_found {named found : String} {n : Node} (h : fs.findUpward? named = some found)
    (hf : fs.look found = .ok n) (env : Environment) :
    load fs env (some named) =
      (sourceOf env (some n.contents)).mapError fun error =>
        ⟨some named, Path.shown fs.workingDirectory found, error⟩ := by
  rw [load]
  simp only [Option.bind_some, h, fileLayer_of_ok hf]
  change _ = (layerOfContents n.contents >>= fun file => decode (merged env file)).mapError _
  cases layerOfContents n.contents <;> rfl

end Config

namespace Cli

-- What the command is configured by, if all it goes by is what its path leads to.
def configured (directory : String) (env : Environment) (path : String) :
    Except ReadError Node → Except Failure Source × Array Log.Line
  | .ok (.leaf true contents)    =>
    ((Config.sourceOf env (some contents)).mapError fun error =>
        .config ⟨some path, Path.shown directory (Path.join directory path), error⟩,
      #[Config.loadingNote (some path)])
  | .ok _                        =>
    ((Config.sourceOf env none).mapError fun error => .config ⟨some path, "", error⟩,
      #[Config.loadingNote (some path)])
  | .error (.system .noSuchFile) =>
    ((Config.sourceOf env none).mapError fun error => .config ⟨none, "", error⟩,
      #[Config.loadingNote none])
  | .error cause                 => (.error (.check path cause), #[])

theorem configured_of_isRegular {n : Node} (h : n.isRegular) (directory : String)
    (env : Environment) (path : String) :
    configured directory env path (.ok n) =
      ((Config.sourceOf env (some n.contents)).mapError fun error =>
          .config ⟨some path, Path.shown directory (Path.join directory path), error⟩,
        #[Config.loadingNote (some path)]) := by
  cases n
  case directory             => cases h
  case leaf regular contents =>
    cases h
    rfl

theorem configured_of_not_isRegular {n : Node} (h : ¬n.isRegular) (directory : String)
    (env : Environment) (path : String) :
    configured directory env path (.ok n) =
      ((Config.sourceOf env none).mapError fun error => .config ⟨some path, "", error⟩,
        #[Config.loadingNote (some path)]) := by
  cases n
  case directory             => rfl
  case leaf regular contents =>
    cases regular
    case true  => exact absurd rfl h
    case false => rfl

theorem configured_of_error {cause : ReadError} (h : cause ≠ .system .noSuchFile)
    (directory : String) (env : Environment) (path : String) :
    configured directory env path (.error cause) = (.error (.check path cause), #[]) := by
  rw [configured]
  exact h

-- What the path leads to is all that is found when files of its name are looked for.
def Settled (t : Tree) (cwd : List String) (path : String) : Prop :=
  Path.isAbsolute path ∨
    (∀ n, t.look cwd path = .ok n → n.isRegular) ∧
      (Path.join (Path.ofSegments cwd) path).utf8ByteSize < Tree.pathLimit

variable {t : Tree} {cwd : List String} {env : Environment}

theorem candidates_of_isAbsolute (h : Path.isAbsolute path) (directory : String) :
    Path.candidates directory path = [path] := by
  rw [Path.candidates, if_pos h]

theorem findUpward?_of_isRegular {n : Node} (hd : t.HasDirectory cwd) (hs : Settled t cwd path)
    (h : t.look cwd path = .ok n) (hn : n.isRegular) :
    let found := Path.join (Path.ofSegments cwd) path
    (t.fileSystem cwd).findUpward? path = some found ∧ t.look cwd found = .ok n := by
  have hf : t.look cwd (Path.join (Path.ofSegments cwd) path) = .ok n := by
    cases hr : Path.isAbsolute path
    case true  => rwa [Path.join, if_pos hr]
    case false =>
      obtain ⟨_, hl⟩ := hs.resolve_left <| by simp [hr]
      have hp : path ≠ "" := by
        rintro rfl
        simp [Tree.look] at h
      rw [hd.look_join hr hp hl, h]
  have hi : (t.fileSystem cwd).isFile (Path.join (Path.ofSegments cwd) path) :=
    FileSystem.isFile_iff.mpr ⟨n, hf, hn⟩
  refine ⟨?_, hf⟩
  rw [FileSystem.findUpward?]
  cases hr : Path.isAbsolute path
  case true  =>
    rw [Path.join, if_pos hr] at hi ⊢
    rw [candidates_of_isAbsolute hr, List.find?_cons_of_pos hi]
  case false =>
    obtain ⟨above, hc⟩ := Path.candidates_ofSegments hd.names hr
    change (Path.candidates (Path.ofSegments cwd) path).find? _ = _
    rw [hc, List.find?_cons_of_pos hi]

theorem findUpward?_of_not_isRegular {n : Node} (hs : Settled t cwd path)
    (h : t.look cwd path = .ok n) (hn : ¬n.isRegular) :
    (t.fileSystem cwd).findUpward? path = none := by
  have hr := hs.resolve_right fun hs => hn <| hs.left n h
  have hi : ¬(t.fileSystem cwd).isFile path := by
    rw [FileSystem.isFile_iff]
    rintro ⟨m, hf, hm⟩
    exact hn <| Except.ok.inj (hf.symm.trans h) ▸ hm
  rw [FileSystem.findUpward?, candidates_of_isAbsolute hr, List.find?_cons_of_neg hi,
    List.find?_nil]

section

variable {fs : FileSystem} {isThere : Bool}

theorem source_of_unchecked {cause : ReadError} (h : fs.exists? path = .error cause)
    (env : Environment) : source fs env path = (.error (.check path cause), #[]) := by
  rw [source, h]

theorem source_of_checked (h : fs.exists? path = .ok isThere) (env : Environment) :
    source fs env path =
      ((Config.load fs env (if isThere then some path else none)).mapError .config,
        #[Config.loadingNote (if isThere then some path else none)]) := by
  rw [source, h]

end

theorem source_eq_configured (hd : t.HasDirectory cwd) (hs : Settled t cwd path)
    (env : Environment) :
    source (t.fileSystem cwd) env path =
      configured (Path.ofSegments cwd) env path (t.look cwd path) := by
  have hx : (t.fileSystem cwd).look path = t.look cwd path := rfl
  cases h : t.look cwd path
  case ok n =>
    rw [source_of_checked (FileSystem.exists?_of_ok (hx.trans h)), if_pos rfl]
    by_cases hn : n.isRegular
    case pos =>
      have ⟨hf, hl⟩ := findUpward?_of_isRegular hd hs h hn
      rw [Config.load_of_found hf hl, configured_of_isRegular hn]
      cases Config.sourceOf env (some n.contents) <;> rfl
    case neg =>
      have hf : (some path).bind (t.fileSystem cwd).findUpward? = none :=
        findUpward?_of_not_isRegular hs h hn
      rw [Config.load_of_not_found hf, configured_of_not_isRegular hn]
      cases Config.sourceOf env none <;> rfl
  case error e =>
    by_cases he : e = .system .noSuchFile
    case pos =>
      subst he
      rw [source_of_checked (FileSystem.exists?_of_noSuchFile (hx.trans h)),
        Config.load_of_not_found rfl, configured]
      cases Config.sourceOf env none <;> rfl
    case neg =>
      rw [source_of_unchecked (FileSystem.exists?_of_error (hx.trans h) he),
        configured_of_error he]

-- The command is configured by the defaults, the environment and the file that its path leads to,
-- if it does lead to a regular file, and by no other file there may be.
theorem source_of_settled (hd : t.HasDirectory cwd) (hs : Settled t cwd path)
    (env : Environment) :
    source (t.fileSystem cwd) env path =
        configured (Path.ofSegments cwd) env path (t.look cwd path) ∧
      ∀ t' : Tree, t'.HasDirectory cwd → t'.look cwd path = t.look cwd path →
        source (t'.fileSystem cwd) env path = source (t.fileSystem cwd) env path := by
  refine ⟨source_eq_configured hd hs env, fun t' hd' hl => ?_⟩
  have hs' : Settled t' cwd path := by rwa [Settled, hl]
  rw [source_eq_configured hd' hs', hl, source_eq_configured hd hs]

theorem names_of_directory : ∀ s ∈ ["w"], Path.IsName s := by
  intro s hs
  rw [List.mem_singleton.mp hs]
  constructor <;> decide

theorem source_of_settled_file :
    let file : Node := .file (Text.utf8 (Source.written (.inMemory "[]")))
    let t : Tree := ⟨[(["w", "tkx.toml"], file), (["tkx.toml"], .file [0xff])]⟩
    let t' : Tree := ⟨[(["w", "tkx.toml"], file)]⟩
    t.look ["w"] "tkx.toml" = .ok file ∧
      source (t.fileSystem ["w"]) [] "tkx.toml" = configured "/w" [] "tkx.toml" (.ok file) ∧
      source (t'.fileSystem ["w"]) [] "tkx.toml" = source (t.fileSystem ["w"]) [] "tkx.toml" := by
  intro file t t'
  have hl : t.look ["w"] "tkx.toml" = .ok file := rfl
  have hd : t.HasDirectory ["w"] := ⟨names_of_directory, rfl⟩
  have hd' : t'.HasDirectory ["w"] := ⟨names_of_directory, rfl⟩
  have hs : Settled t ["w"] "tkx.toml" := by
    refine .inr ⟨fun n hn => ?_, by decide⟩
    rw [← Except.ok.inj (hl.symm.trans hn)]
    rfl
  have ⟨hc, ht⟩ := source_of_settled hd hs []
  exact ⟨hl, hl ▸ hc, ht t' hd' rfl⟩

-- A file that states a source in full settles what the command is configured by, if it is found.
theorem source_of_writtenIn {fs : FileSystem} {found text : String} {s : Source}
    (hx : fs.exists? path = .ok true) (hn : fs.findUpward? path = some found)
    (hr : fs.Holds found text) (hw : s.WrittenIn text)
    (env : Environment) : (source fs env path).1 = .ok s := by
  have ⟨_, hl, hg⟩ := Config.exists_fileLayer (FileSystem.readText_of_holds hr) hw
  rw [source_of_checked hx, if_pos rfl, Config.load_of_givenBy hn hl hg]
  rfl

-- A directory of the name lets a file further up decide, which what the name leads to cannot tell.
theorem source_of_directory_above :
    let above (contents : Bytes) : Tree :=
      ⟨[(["w", "tkx.toml"], .directory), (["tkx.toml"], .file contents)]⟩
    let t := above (Text.utf8 (Source.written (.inMemory "[]")))
    let t' : Tree := ⟨[(["w", "tkx.toml"], .directory)]⟩
    t.HasDirectory ["w"] ∧ t'.HasDirectory ["w"] ∧
      t.look ["w"] "tkx.toml" = .ok .directory ∧ t'.look ["w"] "tkx.toml" = .ok .directory ∧
      (source (t.fileSystem ["w"]) [] "tkx.toml").1 = .ok (.inMemory "[]") ∧
      (source (t'.fileSystem ["w"]) [] "tkx.toml").1 = .ok default := by
  intro above t t'
  have hc : Path.candidates "/w" "tkx.toml" = ["/w/tkx.toml", "/tkx.toml"] := rfl
  refine ⟨⟨names_of_directory, rfl⟩, ⟨names_of_directory, rfl⟩, rfl, rfl, ?_, ?_⟩
  case refine_1 =>
    have hx : (t.fileSystem ["w"]).exists? "tkx.toml" = .ok true :=
      FileSystem.exists?_of_ok (n := .directory) rfl
    have hn contents :
        ((above contents).fileSystem ["w"]).findUpward? "tkx.toml" = some "/tkx.toml" := by
      change (Path.candidates "/w" "tkx.toml").find? _ = _
      rw [hc]
      rfl
    exact source_of_writtenIn hx (hn _) ⟨true, rfl⟩ (Source.writtenIn_written _) []
  case refine_2 =>
    have hx : (t'.fileSystem ["w"]).exists? "tkx.toml" = .ok true :=
      FileSystem.exists?_of_ok (n := .directory) rfl
    have hn : (some "tkx.toml").bind (t'.fileSystem ["w"]).findUpward? = none := by
      rw [Option.bind_some]
      change (Path.candidates "/w" "tkx.toml").find? _ = _
      rw [hc]
      rfl
    rw [source_of_checked hx, if_pos rfl, Config.load_of_not_found hn]
    rfl

end Cli
end TunnelPorts
