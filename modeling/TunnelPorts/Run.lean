import TunnelPorts.Config.Source
import TunnelPorts.Extract
import TunnelPorts.FileSystem
import TunnelPorts.Sink.LineBuffer

/-!
Runs: get the document from its source, read it, extract its tunnels. Nothing is written before the
document is read. A run to a device goes through a line buffer, which is flushed at the end whether
the extraction failed or not.
-/

namespace TunnelPorts

-- What a run was about when it failed.
inductive Stage
  | load
  | parse
  | extract
  | flush
  deriving DecidableEq, Repr

namespace Stage

def context : Stage → String
  | load    => "💀 Couldn't load the tunnel document. Nothing was extracted."
  | parse   => "💀 The tunnel document isn't valid JSON."
  | extract => "💀 Extraction stopped partway through."
  | flush   => "💀 stdout would not flush after a successful pass"

end Stage

namespace Run

structure Failure where
  stage : Stage
  error : ExtractError
  deriving DecidableEq, Repr

namespace Failure

-- Messages from the outermost to the root of the failure.
def chain (f : Failure) : List String :=
  f.stage.context :: f.error.chain

end Failure

-- How a run ended, what became of the sink, and what the log says of it.
structure Result (σ α : Type) where
  outcome : Except Failure α
  sink : σ
  notes : Array Log.Line

def readingNotes (path : String) : Except ReadError String → Array Log.Line
  | .ok text => #[reading, ⟨.debug, target, s!"📏 read {text.utf8ByteSize} bytes from '{path}'"⟩]
  | .error _ => #[reading]
where
  target : String := "tkx::backends::file_source"
  reading : Log.Line := ⟨.info, target, s!"📂 reading tunnel document from '{path}'"⟩

-- The text of the document, and the notes on how it was got.
def text (fs : FileSystem) : Source → Except Failure String × Array Log.Line
  | .inMemory document => (.ok document, #[])
  | .file path         =>
    let text := fs.readText path
    (text.mapError fun e => ⟨.load, .sourceUnavailable path e⟩, readingNotes path text)

def parse (text : String) : Except Failure Document :=
  (Document.ofText text).mapError (⟨.parse, ·⟩)

def summaryNote (s : Summary) : Log.Line where
  level := .info
  target := "tkx"
  message := s!"✅ extracted {s.tunnels} tunnel(s) across {s.sites} site(s) and {s.datacenters} datacenter(s), {s.distinctPorts} distinct port(s)"

end Run

open Run

variable {σ : Type} [Sink σ]

-- A run into any sink.
def run (fs : FileSystem) (source : Source) (sink : σ) : Run.Result σ Outcome :=
  let (text, notes) := Run.text fs source
  match text.bind Run.parse with
  | .error f => ⟨.error f, sink, notes⟩
  | .ok doc  =>
    match extract doc sink with
    | (.ok o, p)    => ⟨.ok o, p.sink, (notes ++ p.notes).push (summaryNote o.summary)⟩
    | (.error e, p) => ⟨.error ⟨.extract, e⟩, p.sink, notes ++ p.notes⟩

-- A run to a device. If both the extraction and the last flush fail, the extraction's failure
-- counts; if the document did not load, there is nothing to flush.
def runTo (fs : FileSystem) (source : Source) (device : σ) : Run.Result σ Summary :=
  let r := run fs source ({ behind := device } : LineBuffer σ)
  let (flushed, buffer) := (LineBuffer.flush : Writing (LineBuffer σ) Unit).run.run r.sink
  let outcome := do
    let o ← r.outcome
    flushed.mapError fun e => ⟨.flush, .output e⟩
    return o.summary
  ⟨outcome, buffer.behind, r.notes⟩

end TunnelPorts
