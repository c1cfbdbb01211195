import TunnelPorts.Proofs.Extract
import TunnelPorts.Proofs.FileSystem
import TunnelPorts.Run

/-!
Runs stage by stage. A document is loaded, read and only then extracted, so that a run is the
extraction of a document or else leaves its sink alone; and where the text of a document comes from
makes no difference to what is done with it.
-/

namespace TunnelPorts

variable {σ : Type} [Sink σ] {fs : FileSystem} {source : Source}

-- The source gives this text.
inductive Source.Supplies (fs : FileSystem) : Source → String → Prop
  | file {path text : String} (h : fs.Holds path text) : Supplies fs (.file path) text
  | inMemory (text : String) : Supplies fs (.inMemory text) text

-- Only a file can fail to give a text.
theorem Source.supplies_or_unreadable (source : Source) (fs : FileSystem) :
    (∃ text, source.Supplies fs text) ∨
      ∃ name e, source = .file name ∧ fs.Unreadable name e := by
  cases source
  case inMemory text => exact .inl ⟨text, .inMemory text⟩
  case file name     =>
    cases fs.holds_or_unreadable name
    case inl h => exact .inl <| h.imp fun _ => .file
    case inr h => exact .inr <| h.imp' (fun _ => name) fun _ h => ⟨_, rfl, h⟩

namespace Run

-- The document of a source, before anything is written.
def document (fs : FileSystem) (source : Source) : Except Failure Document :=
  (Run.text fs source).1.bind parse

theorem text_of_supplies {text : String} (h : source.Supplies fs text) :
    (Run.text fs source).1 = .ok text := by
  cases h
  case file h =>
    have hr := FileSystem.readText_of_holds h
    simp [Run.text, hr, Except.mapError]
  case inMemory => rfl

theorem document_of_supplies {text : String} (h : source.Supplies fs text) :
    document fs source = parse text := by
  rw [document, text_of_supplies h]
  rfl

theorem document_of_unreadable {path : String} {e : ReadError} (h : fs.Unreadable path e) :
    document fs (.file path) = .error ⟨.load, .sourceUnavailable path e⟩ := by
  have hr := FileSystem.readText_of_unreadable h
  simp [document, Run.text, hr, Except.mapError, Except.bind]

theorem document_of_parse {text : String} {doc : Document} (hs : source.Supplies fs text)
    (h : Document.parse text = .ok doc) : document fs source = .ok doc := by
  rw [document_of_supplies hs, parse, Document.ofText, h]
  rfl

theorem document_of_parse_error {text : String} {e : Json.Error} (hs : source.Supplies fs text)
    (h : Document.parse text = .error e) :
    document fs source = .error ⟨.parse, .invalidJson e⟩ := by
  rw [document_of_supplies hs, parse, Document.ofText, h]
  rfl

-- What shows of a run: its outcome and the sink.
def Result.shown {α : Type} (r : Result σ α) : Except Failure α × σ :=
  (r.outcome, r.sink)

end Run

open Run

theorem run_of_error {f : Failure} (h : Run.document fs source = .error f) (sink : σ) :
    (run fs source sink).shown = (.error f, sink) := by
  rw [run]
  dsimp only
  rw [← Run.document, h]
  rfl

theorem run_of_ok {doc : Document} (h : Run.document fs source = .ok doc) (sink : σ) :
    (run fs source sink).shown =
      ((extract doc sink).1.mapError (⟨.extract, ·⟩), (extract doc sink).2.sink) := by
  rw [run]
  dsimp only
  rw [← Run.document, h]
  dsimp only
  rcases extract doc sink with ⟨_ | _, _⟩ <;> rfl

-- A text is read and what it spells extracted, wherever it comes from.
def runText (text : String) (sink : σ) : Except Run.Failure Outcome × σ :=
  match Document.ofText text with
  | .error e => (.error ⟨.parse, e⟩, sink)
  | .ok doc  => ((extract doc sink).1.mapError (⟨.extract, ·⟩), (extract doc sink).2.sink)

theorem run_of_supplies {text : String} (h : source.Supplies fs text) (sink : σ) :
    (run fs source sink).shown = runText text sink := by
  have hd := document_of_supplies h
  rw [Run.parse] at hd
  rw [runText]
  cases hp : Document.ofText text
  case error => exact run_of_error (by rw [hd, hp]; rfl) sink
  case ok    => exact run_of_ok (by rw [hd, hp]; rfl) sink

theorem Document.exists_of_ofText_error {text : String} {e : ExtractError}
    (h : Document.ofText text = .error e) : ∃ cause, e = .invalidJson cause := by
  rw [Document.ofText] at h
  cases hp : Document.parse text
  case ok    => simp [hp, Except.mapError] at h
  case error =>
    simp only [hp, Except.mapError, Except.error.injEq] at h
    exact ⟨_, h.symm⟩

-- A run depends on nothing but the text of its document, however the source gives it. Without a
-- text, or without a document in it, nothing is written.
theorem run_by_text (fs : FileSystem) (sink : σ) :
    (∀ path text, fs.Holds path text →
      (run fs (.file path) sink).shown = (run fs (.inMemory text) sink).shown) ∧
    (∀ source text, source.Supplies fs text → (run fs source sink).shown = runText text sink) ∧
    (∀ source text e, source.Supplies fs text → Document.ofText text = .error e →
      ∃ f : Run.Failure, (run fs source sink).shown = (.error f, sink) ∧
        ∃ cause : Json.Error, e = .invalidJson cause ∧ f = ⟨.parse, e⟩ ∧
          f.chain = ["💀 The tunnel document isn't valid JSON.",
            "💀 tunnel document is not valid JSON", cause.text]) ∧
    ∀ path e, fs.Unreadable path e →
      ∃ f : Run.Failure, (run fs (.file path) sink).shown = (.error f, sink) ∧
        f = ⟨.load, .sourceUnavailable path e⟩ ∧
          f.chain = ["💀 Couldn't load the tunnel document. Nothing was extracted.",
            s!"💀 could not read tunnel document '{path}'", e.text] := by
  refine ⟨?_, fun source text h => run_of_supplies h sink, ?_, ?_⟩
  case refine_1 =>
    intro path text h
    rw [run_of_supplies (.file h), run_of_supplies (.inMemory text)]
  case refine_2 =>
    intro source text e hs he
    have ⟨cause, hc⟩ := Document.exists_of_ofText_error he
    refine ⟨⟨.parse, e⟩, ?_, cause, hc, rfl, by rw [hc]; rfl⟩
    rw [run_of_supplies hs, runText, he]
  case refine_3 =>
    intro path e h
    exact ⟨_, run_of_error (document_of_unreadable h) sink, rfl, rfl⟩

theorem run_by_text_cut :
    let text := "\x7b\"s\":\x7b\"d\":\x7b\"a_b_c_x_1\":0\x7d\x7d\x7d"
    let fs : FileSystem := ⟨"/", fun path =>
      if path = "/t" then .ok (.file (Text.utf8 text))
      else if path = "/d" then .ok .directory
      else .ok (.file [0xff])⟩
    let sink : Limited := { room := 3, refusal := .tookNothing }
    (run fs (.file "/t") sink).shown = (run fs (.inMemory text) sink).shown ∧
      (run fs (.file "/t") sink).shown = (.error ⟨.extract, .output .tookNothing⟩,
        ⟨0, .tookNothing, (Text.utf8 "x:1").toArray⟩) ∧
      (run fs (.inMemory "[") sink).shown.2 = sink ∧ (run fs (.file "/d") sink).shown.2 = sink ∧
      (run fs (.file "/b") sink).shown.2 = sink := by
  intro text fs sink
  have ⟨ha, hs, hp, hu⟩ := run_by_text fs sink
  have hb text : [0xff] ≠ Text.utf8 text := by
    intro h
    have hn : Text.ofUtf8? [0xff] = none := by rfl
    exact Option.some_ne_none _ <| Text.ofUtf8?_eq_some_iff.mpr h |>.symm.trans hn
  have ht : fs.Holds "/t" text := ⟨true, rfl⟩
  refine ⟨ha _ _ ht, ?_, ?_, ?_, ?_⟩
  · rw [hs _ _ (.file ht)]
    cbv
  · have he : Document.ofText "[" = .error _ := rfl
    obtain ⟨f, h, _⟩ := hp _ _ _ (.inMemory "[") he
    rw [h]
  · obtain ⟨f, h, _⟩ := hu "/d" _ (.directory rfl)
    rw [h]
  · obtain ⟨f, h, _⟩ := hu "/b" _ (.noText rfl hb)
    rw [h]

end TunnelPorts
