import TunnelPorts.PortSet
import TunnelPorts.Sink

/-!
The two sections of the output. The first is a token `label:port,` per tunnel, the second the line
`ports:` with a token `:port,` per distinct port behind it. Nothing is escaped, and no line feed
follows the last port.
-/

namespace TunnelPorts

namespace Output

def header : String := "ports:"

-- The pieces of one `label:port,` token.
def pairPieces (t : Tunnel) : List String :=
  [t.label, ":", t.port, ","]

-- The pieces of the second section.
def portPieces (ports : List String) : List String :=
  [header, "\n"] ++ ports.flatMap fun p => [":", p, ","]

variable {σ : Type} [Sink σ]

-- Pieces are written one by one, so a sink may refuse any of them.
def writePieces (pieces : List String) : Writing σ Unit :=
  pieces.forM Sink.writeText

def writePair (t : Tunnel) : Writing σ Unit :=
  writePieces (pairPieces t)

def writePorts (ports : PortSet) : Writing σ Unit :=
  writePieces (portPieces ports.toList)

end Output
end TunnelPorts
