import TunnelPorts.Json.Level
import TunnelPorts.Log
import TunnelPorts.Output
import TunnelPorts.Walk

/-!
Extraction: pairs go out as the walk finds them, and the distinct ports when it is over. The first
failure ends it, and what was written by then stays written.
-/

namespace TunnelPorts

-- The document that `text` spells, for an extraction.
def Document.ofText (text : String) : Except ExtractError Document :=
  (Document.parse text).mapError .invalidJson

structure Outcome where
  ports : PortSet := .empty
  summary : Summary := {}

namespace Extract

-- The state of an extraction: where the output goes, and what was found and noted so far.
structure Progress (σ : Type) where
  sink : σ
  ports : PortSet := .empty
  notes : Array Log.Line := #[]

namespace Progress

variable {σ : Type}

def note (p : Progress σ) (level : Log.Level) (message : String) : Progress σ :=
  { p with notes := p.notes.push ⟨level, "tkx::extractor", message⟩ }

end Progress

variable {σ : Type}

-- Write to the sink of the extraction.
def writing (w : Writing σ Unit) : Extracting (Progress σ) Unit := fun p =>
  let (result, sink) := w p.sink
  (result.mapError .output, { p with sink })

def key [Sink σ] (s d k : String) : Extracting (Progress σ) Unit := do
  match Key.parse k with
  | .error short => throw (.malformedKey s d k short.fields)
  | .ok t =>
    modify (·.note .trace s!"🚇 '{k}' → {t.text}")
    writing (Output.writePair t)
    modify fun p => { p with ports := p.ports.insert t.port }

def visitor [Sink σ] : Visitor (Progress σ) where
  key := key
  enterSite s n := modify (·.note .debug s!"🏙️ site '{s}' has {n} datacenter(s)")
  enterDatacenter s d n :=
    modify (·.note .debug s!"🏢 site '{s}', datacenter '{d}' has {n} tunnel(s)")

def extracting [Sink σ] (doc : Document) : Extracting (Progress σ) Outcome := do
  let summary ← visitor.walk doc
  let ports := (← get).ports
  writing (Output.writePorts ports)
  return { ports, summary := { summary with distinctPorts := ports.size } }

end Extract

-- The whole pass over `doc` into `sink`.
def extract {σ : Type} [Sink σ] (doc : Document) (sink : σ) :
    Except ExtractError Outcome × Extract.Progress σ :=
  (Extract.extracting doc).run.run { sink }

end TunnelPorts
