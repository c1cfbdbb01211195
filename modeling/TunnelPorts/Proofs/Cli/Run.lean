import TunnelPorts.Proofs.Cli.Source
import TunnelPorts.Proofs.Delivery
import TunnelPorts.Proofs.Notes

/-!
The command as its caller sees it: its exit code, its standard output and the log. It fails at the
first stage that fails, and what it comes to then is told stage by stage. The variable that filters
the log has no part in it, unless the filter cannot be read.
-/

namespace TunnelPorts.Cli

-- What a failure is to be reported as, line by line.
def report : List String → List Log.Line
  | []              => []
  | error :: causes =>
    ⟨.error, "tkx_cli", "💀 error: " ++ error⟩ ::
      causes.map fun cause => ⟨.error, "tkx_cli", "⚠️  cause: " ++ cause⟩

theorem notes_eq_report (f : Failure) : f.notes = report f.chain := by
  rw [Failure.notes]
  cases f.chain
  case nil  => rfl
  case cons => rfl

-- How a command ends, for those who called it: the exit code, all of the output, and what is wrong,
-- from the outside in.
structure Ending where
  exitCode : Nat
  output : Bytes
  messages : List String

-- The configuration loads and names this source; the file at `path` is part of it if it exists.
def Loads (fs : FileSystem) (env : Environment) (path : String) (src : Source) : Prop :=
  ∃ isThere, fs.exists? path = .ok isThere ∧
    Config.load fs env (if isThere then some path else none) = .ok src

-- The ending of a command whose configuration file would be the one at `path`.
inductive Ends (fs : FileSystem) (env : Environment) (path : String) : Ending → Prop
  | unchecked {cause : ReadError} (hx : fs.exists? path = .error cause) :
    Ends fs env path {
      exitCode := 1
      output   := []
      messages := [
        s!"💀 Couldn't check whether the config file exists. Was checking here: '{path}'",
        cause.text] }
  | misconfigured {isThere : Bool} {f : Config.Failure} (hx : fs.exists? path = .ok isThere)
      (hl : Config.load fs env (if isThere then some path else none) = .error f) :
    Ends fs env path {
      exitCode := 1
      output   := []
      messages := [
        "💀 In tkx-cli, main, we couldn't load the config. Take a look at the file and any TKX_* env vars.",
        f.context, f.message] }
  | unloaded {name : String} {e : ReadError} (hc : Loads fs env path (.file name))
      (hu : fs.Unreadable name e) :
    Ends fs env path {
      exitCode := 1
      output   := []
      messages := [
        "💀 Couldn't load the tunnel document. Nothing was extracted.",
        s!"💀 could not read tunnel document '{name}'", e.text] }
  | unparsed {src : Source} {text : String} {e : Json.Error} (hc : Loads fs env path src)
      (ht : src.Supplies fs text) (hp : Document.parse text = .error e) :
    Ends fs env path {
      exitCode := 1
      output   := []
      messages := [
        "💀 The tunnel document isn't valid JSON.",
        "💀 tunnel document is not valid JSON", e.text] }
  | stopped {src : Source} {text : String} {doc : Document} {before after : List Place}
      {place : Place} (hc : Loads fs env path src) (ht : src.Supplies fs text)
      (hp : Document.parse text = .ok doc) (hd : doc.places = before ++ place :: after)
      (hb : ∀ p ∈ before, p.error? = none) (he : place.error? ≠ none) :
    Ends fs env path {
      exitCode := 1
      output   := Key.tokens (before.flatMap Place.keys)
      messages := ["💀 Extraction stopped partway through.", place.report] }
  | finished {src : Source} {text : String} {doc : Document} (hc : Loads fs env path src)
      (ht : src.Supplies fs text) (hp : Document.parse text = .ok doc) (hd : doc.IsSound) :
    Ends fs env path { exitCode := 0, output := doc.output, messages := [] }

-- The result shows the ending and reports nothing but its messages as errors.
structure Result.Shows (r : Result Device) (got : Array UInt8) (e : Ending) : Prop where
  exitCode : r.exitCode = e.exitCode
  sink : r.sink = .accepting (got ++ e.output)
  notes : ∃ quiet : Array Log.Line, Log.Quiet quiet ∧ r.notes = quiet ++ report e.messages

variable {fs : FileSystem} {env : Environment} {path : String} {got : Array UInt8} {e : Ending}
  {isThere : Bool} {src : Source}

theorem source_of_loads (h : Loads fs env path src) : (source fs env path).1 = .ok src := by
  have ⟨_, hx, hl⟩ := h
  rw [source_of_checked hx, hl]
  rfl

-- Without a file and without any variables, the defaults are loaded.
theorem loads_default (hx : fs.exists? path = .ok false) (he : env.layer = []) :
    Loads fs env path default := by
  refine ⟨false, hx, ?_⟩
  have hl : Config.sourceOf env none = .ok default := by
    simp only [Config.sourceOf, Config.merged, he]
    rfl
  change Config.load fs env none = _
  rw [Config.load_of_not_found rfl, hl]
  rfl

theorem source_of_not_loaded {f : Config.Failure} (hx : fs.exists? path = .ok isThere)
    (hl : Config.load fs env (if isThere then some path else none) = .error f) :
    (source fs env path).1 = .error (.config f) := by
  rw [source_of_checked hx, hl]
  rfl

theorem quiet_source (fs : FileSystem) (env : Environment) (path : String) :
    Log.Quiet (source fs env path).2 := by
  rw [source]
  split
  case h_1 => exact .empty
  case h_2 => exact .push .empty (by simp [Config.loadingNote])

section

variable {σ : Type} [Sink σ] {sink : σ}

theorem runConfigured_of_source_error {f : Failure} (h : (source fs env path).1 = .error f)
    (sink : σ) :
    runConfigured fs env path sink = ⟨1, sink, (source fs env path).2 ++ f.notes⟩ := by
  rw [runConfigured]
  dsimp only
  rw [h]

theorem runConfigured_of_run_error {f : Run.Failure} (hc : (source fs env path).1 = .ok src)
    (ho : (runTo fs src sink).outcome = .error f) :
    runConfigured fs env path sink =
      ⟨1, (runTo fs src sink).sink,
        (source fs env path).2 ++ (runTo fs src sink).notes ++ (Failure.run f).notes⟩ := by
  rw [runConfigured]
  dsimp only
  rw [hc]
  dsimp only
  rw [ho]

theorem runConfigured_of_run_ok {summary : Summary} (hc : (source fs env path).1 = .ok src)
    (ho : (runTo fs src sink).outcome = .ok summary) :
    runConfigured fs env path sink =
      ⟨0, (runTo fs src sink).sink,
        (source fs env path).2 ++ (runTo fs src sink).notes⟩ := by
  rw [runConfigured]
  dsimp only
  rw [hc]
  dsimp only
  rw [ho]

-- The command succeeds as soon as each of its stages does.
theorem exitCode_runConfigured (fs : FileSystem) (env : Environment) (path : String) (sink : σ) :
    let r := runConfigured fs env path sink
    (r.exitCode = 0 ↔ ∃ src summary, Loads fs env path src ∧
      (runTo fs src sink).outcome = .ok summary) ∧
    (r.exitCode = 0 ∨ r.exitCode = 1) := by
  cases hx : fs.exists? path
  case error =>
    have hc := congrArg Prod.fst <| source_of_unchecked hx env
    simp [runConfigured_of_source_error hc, Loads, hx]
  case ok isThere =>
    cases hl : Config.load fs env (if isThere then some path else none)
    case error =>
      have hc := source_of_not_loaded hx hl
      simp [runConfigured_of_source_error hc, Loads, hx, hl]
    case ok src =>
      have hc := source_of_loads ⟨_, hx, hl⟩
      cases ho : (runTo fs src sink).outcome
      case error => simp [runConfigured_of_run_error hc ho, Loads, hx, hl, ho]
      case ok    => simp [runConfigured_of_run_ok hc ho, Loads, hx, hl, ho]

end

theorem shows_of_source_error {f : Failure} (h : (source fs env path).1 = .error f) :
    (runConfigured fs env path (Device.accepting got)).Shows got ⟨1, [], f.chain⟩ := by
  rw [runConfigured_of_source_error h, notes_eq_report]
  exact ⟨rfl, by simp, _, quiet_source fs env path, rfl⟩

theorem quiet_run_source (fs : FileSystem) (env : Environment) (path : String) (src : Source)
    (device : Device) :
    Log.Quiet ((source fs env path).2 ++ (runTo fs src device).notes) :=
  quiet_source fs env path |>.append <| quiet_run fs src (⟨device, #[]⟩ : LineBuffer Device)

theorem shows_of_run_error {f : Run.Failure} (hc : (source fs env path).1 = .ok src)
    (h : (run fs src ({} : Collected)).outcome = .error f) :
    (runConfigured fs env path (Device.accepting got)).Shows got
      ⟨1, Run.written fs src, f.chain⟩ := by
  have ⟨ho, _⟩ := runTo_accepting fs src got
  rw [h] at ho
  rw [runConfigured_of_run_error hc ho, notes_eq_report]
  exact ⟨rfl, sink_runTo_accepting fs src got, _, quiet_run_source fs env path src _, rfl⟩

theorem shows_of_run_ok {o : Outcome} (hc : (source fs env path).1 = .ok src)
    (h : (run fs src ({} : Collected)).outcome = .ok o) :
    (runConfigured fs env path (Device.accepting got)).Shows got
      ⟨0, Run.written fs src, []⟩ := by
  have ⟨ho, _⟩ := runTo_accepting fs src got
  rw [h] at ho
  rw [runConfigured_of_run_ok hc ho]
  exact ⟨rfl, sink_runTo_accepting fs src got, _, quiet_run_source fs env path src _,
    Array.append_empty.symm⟩

theorem shows_of_ends (h : Ends fs env path e) :
    (runConfigured fs env path (Device.accepting got)).Shows got e := by
  cases h
  case unchecked hx =>
    exact shows_of_source_error <| congrArg Prod.fst <| source_of_unchecked hx env
  case misconfigured hx hl =>
    exact shows_of_source_error <| source_of_not_loaded hx hl
  case unloaded hc hu =>
    have ⟨ho, hw⟩ := run_collected_of_error <| Run.document_of_unreadable hu
    exact hw ▸ shows_of_run_error (source_of_loads hc) ho
  case unparsed hc ht hp =>
    have ⟨ho, hw⟩ := run_collected_of_error <| Run.document_of_parse_error ht hp
    exact hw ▸ shows_of_run_error (source_of_loads hc) ho
  case stopped doc before after place hc ht hp hd hb he =>
    have ⟨e, he⟩ := Option.ne_none_iff_exists'.mp he
    have ⟨ho, hw⟩ := run_collected_of_ok <| Run.document_of_parse ht hp
    have hs := Document.script_of_stop hd hb he
    have hk : doc.written = Key.tokens (before.flatMap Place.keys) := by
      rw [doc.written_eq, hs, ← Output.bytes_pairPieces, List.map_flatMap]
      rfl
    rw [hs] at ho
    have hr : (runConfigured fs env path (Device.accepting got)).Shows got
      ⟨1, Run.written fs _, Stage.extract.context :: e.chain⟩ :=
      shows_of_run_error (source_of_loads hc) ho
    rwa [hw, hk, Place.chain_eq_report he] at hr
  case finished doc hc ht hp hd =>
    have ⟨ho, hw⟩ := run_collected_of_ok <| Run.document_of_parse ht hp
    have ⟨hb, o, hv, _⟩ := Document.script_of_isSound hd
    rw [hv] at ho
    rw [doc.written_eq, hb] at hw
    exact hw ▸ shows_of_run_ok (source_of_loads hc) ho

theorem exists_ends (fs : FileSystem) (env : Environment) (path : String) :
    ∃ e, Ends fs env path e := by
  cases hx : fs.exists? path
  case error => exact ⟨_, .unchecked hx⟩
  case ok isThere =>
    cases hl : Config.load fs env (if isThere then some path else none)
    case error => exact ⟨_, .misconfigured hx hl⟩
    case ok src =>
      have hc : Loads fs env path src := ⟨_, hx, hl⟩
      rcases src.supplies_or_unreadable fs with ⟨text, ht⟩ | ⟨name, e, rfl, hu⟩
      case inr => exact ⟨_, .unloaded hc hu⟩
      case inl =>
        cases hp : Document.parse text
        case error  => exact ⟨_, .unparsed hc ht hp⟩
        case ok doc =>
          cases he : doc.error?
          case none   => exact ⟨_, .finished hc ht hp <| doc.isSound_iff_error?.mpr he⟩
          case some e =>
            have ⟨_, _, _, hd, hb, he, _⟩ := Document.script_of_error? he
            exact ⟨_, .stopped hc ht hp hd hb (he ▸ Option.some_ne_none e)⟩

theorem level_of_mem_report {messages : List String} {l : Log.Line} (h : l ∈ report messages) :
    l.level = .error := by
  cases messages
  case nil  => contradiction
  case cons =>
    simp only [report, List.mem_cons, List.mem_map] at h
    rcases h with rfl | ⟨_, _, rfl⟩ <;> rfl

-- Without a filter of its own, the log is the report.
theorem log_of_shows {r : Result Device} (h : r.Shows got e) (hv : env.get? logVariable = none) :
    r.log env = (report e.messages).map Log.Line.text := by
  have hf : filter? env = some ⟨[{ rank := Log.Level.error.rank }]⟩ := by
    rw [filter?, hv]
    exact Log.Filter.ofText?_empty
  have ⟨quiet, hq, hn⟩ := h.notes
  have hs l := Log.Filter.shows_errors_iff l
  generalize Log.Filter.mk [{ rank := Log.Level.error.rank }] = filter at hf hs
  have hl : quiet.toList.filter filter.shows = [] := by
    rw [List.filter_eq_nil_iff]
    exact fun l hm => mt (hs l).mp <| hq l (Array.mem_toList_iff.mp hm)
  have hm : (report e.messages).filter filter.shows = report e.messages := by
    rw [List.filter_eq_self]
    exact fun l hm => hs l |>.mpr <| level_of_mem_report hm
  rw [Result.log, hf]
  dsimp only
  rw [hn, Array.toList_appendList, List.filter_append, hl, hm, List.nil_append]

-- The environment counts for nothing but its layer, once the log filter is read.
theorem obey_of_layer {env' : Environment} (h : env'.layer = env.layer) {σ : Type} [Sink σ]
    (fs : FileSystem) (args : List String) (sink : σ) :
    obey fs env' args sink = obey fs env args sink := by
  simp only [obey, runConfigured, source, Config.load, Config.merged, h]

theorem layer_without_logVariable (env : Environment) :
    (env.without logVariable).layer = env.layer :=
  Environment.layer_without rfl env

theorem execute_of_filter {filter : Log.Filter} (h : filter? env = some filter) {σ : Type} [Sink σ]
    (fs : FileSystem) (args : List String) (sink : σ) :
    execute fs env args sink = obey fs env args sink := by
  rw [execute, h]

theorem obey_of_run {args : List String} (h : Request.ofArguments? args = some (.run path))
    {σ : Type} [Sink σ] (fs : FileSystem) (env : Environment) (sink : σ) :
    obey fs env args sink = runConfigured fs env path sink := by
  rw [obey, h]

-- The command ends as its stages do, and reports that; the log filter changes neither its exit code
-- nor its output.
theorem execute_ends {args : List String} {filter : Log.Filter}
    (ha : Request.ofArguments? args = some (.run path)) (hf : filter? env = some filter)
    (fs : FileSystem) (got : Array UInt8) :
    let r := execute fs env args (Device.accepting got)
    (∃ e, Ends fs env path e) ∧
    (∀ e, Ends fs env path e →
      r.exitCode = e.exitCode ∧ r.sink = .accepting (got ++ e.output) ∧
        (env.get? logVariable = none → r.log env = (report e.messages).map Log.Line.text)) ∧
    (r.exitCode = 0 ↔ ∃ src summary, Loads fs env path src ∧
      (runTo fs src (Device.accepting got)).outcome = .ok summary) ∧
    (r.exitCode = 0 ∨ r.exitCode = 1) ∧
    ∀ env' filter', filter? env' = some filter' →
      env'.without logVariable = env.without logVariable →
      let r' := execute fs env' args (Device.accepting got)
      r'.exitCode = r.exitCode ∧ r'.sink = r.sink := by
  intro r
  have hr : r = runConfigured fs env path (Device.accepting got) :=
    execute_of_filter hf fs args _ |>.trans <| obey_of_run ha fs env _
  have ⟨hs, hz⟩ := exitCode_runConfigured fs env path (Device.accepting got)
  refine ⟨exists_ends fs env path, ?_, hr ▸ hs, hr ▸ hz, ?_⟩
  case refine_1 =>
    intro e he
    have h : r.Shows got e := hr ▸ shows_of_ends he
    exact ⟨h.exitCode, h.sink, log_of_shows h⟩
  case refine_2 =>
    intro env' filter' hf' he r'
    have hl : env'.layer = env.layer := by
      rw [← layer_without_logVariable env', he, layer_without_logVariable]
    have hr' : r' = r := by
      rw [hr, ← obey_of_run ha, ← obey_of_layer hl]
      exact execute_of_filter hf' fs args _
    rw [hr']
    exact ⟨rfl, rfl⟩

theorem execute_ends_nope :
    let text := "\x7b\"s\":\x7b\"d\":\x7b\"a_b_c_x_1\":0,\"nope\":0\x7d\x7d\x7d"
    let fs : FileSystem := ⟨"/", fun path =>
      if path = "../input/tunnels.json" then .ok (.file (Text.utf8 text))
      else .error (.system .noSuchFile)⟩
    let r := execute fs [] [] (Device.accepting #[])
    let r' := execute fs [("RUST_LOG", "debug")] [] (Device.accepting #[])
    r.exitCode = 1 ∧ r.sink = .accepting (Text.utf8 "x:1,").toArray ∧
      r.log [] = [
        "ERROR tkx_cli: 💀 error: 💀 Extraction stopped partway through.",
        "ERROR tkx_cli: ⚠️  cause: 💀 encoded key 'nope' under site 's', datacenter 'd' has 1 '_'-separated fields, need at least 5"] ∧
      r'.exitCode = r.exitCode ∧ r'.sink = r.sink := by
  intro text fs r r'
  have ha : Request.ofArguments? [] = some (.run "tkx.toml") := rfl
  have ⟨filter, hf⟩ : ∃ filter, filter? [] = some filter := ⟨_, rfl⟩
  have ⟨_, he, _, _, hv⟩ := execute_ends ha hf fs #[]
  have hc : Loads fs [] "tkx.toml" default :=
    loads_default (FileSystem.exists?_of_noSuchFile rfl) rfl
  let doc : Document := .object { toList := [("s", .object { toList := [("d", .object {
    toList := [("a_b_c_x_1", ()), ("nope", ())] })] })] }
  have hp : Document.parse text = .ok doc := by cbv
  let before : List Place := [.object .root 1, .object (.site "s") 1,
    .object (.datacenter "s" "d") 2, .key "s" "d" "a_b_c_x_1"]
  have hd : doc.places = before ++ .key "s" "d" "nope" :: [] := rfl
  obtain ⟨hx, hs, hl⟩ := he _ <| .stopped hc (.file ⟨true, rfl⟩) hp hd (by decide) (by decide)
  refine ⟨hx, hs.trans ?_, (hl rfl).trans ?_, hv [("RUST_LOG", "debug")] _ rfl rfl⟩
  case refine_1 => decide +kernel
  case refine_2 => decide +kernel

-- A filter with a letter of two bytes behind a blank cannot be read, and nothing else happens then.
theorem execute_torn :
    let fs : FileSystem := ⟨"/", fun path =>
      if path = "../input/tunnels.json" then .ok (.file (Text.utf8 "\x7b\x7d"))
      else .error (.system .noSuchFile)⟩
    let torn := execute fs [("RUST_LOG", " é=x")] [] (Device.accepting #[])
    let r := execute fs [("RUST_LOG", "é=x")] [] (Device.accepting #[])
    torn.exitCode = 101 ∧ torn.sink = .accepting #[] ∧
      r.exitCode = 0 ∧ r.sink = .accepting (Text.utf8 "ports:\n").toArray := by
  intro fs torn r
  have hf : filter? [("RUST_LOG", " é=x")] = none := by rfl
  have ⟨filter, hf'⟩ : ∃ filter, filter? [("RUST_LOG", "é=x")] = some filter := ⟨_, rfl⟩
  have ht : torn = ⟨101, .accepting #[], #[]⟩ := by
    change execute fs _ _ _ = _
    rw [execute, hf]
  have hc : Loads fs [("RUST_LOG", "é=x")] "tkx.toml" default :=
    loads_default (FileSystem.exists?_of_noSuchFile rfl) rfl
  let doc : Document := .object {}
  have hp : Document.parse "\x7b\x7d" = .ok doc := by cbv
  have hr : r.Shows #[] ⟨0, doc.output, []⟩ := by
    change (execute fs _ _ _).Shows #[] _
    rw [execute_of_filter hf', obey_of_run rfl]
    exact shows_of_ends <| .finished hc (.file ⟨true, rfl⟩) hp (by decide)
  exact ⟨ht ▸ rfl, ht ▸ rfl, hr.exitCode, hr.sink.trans (by decide)⟩

end TunnelPorts.Cli
