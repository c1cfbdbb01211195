import TunnelPorts.Error
import TunnelPorts.Text.Utf8

/-!
Sinks for output. A sink takes a piece of output as a whole or refuses it, and what it took before
it refused is not taken back. An empty piece asks nothing of a sink that keeps no buffer.
-/

namespace TunnelPorts

-- A computation that writes to a sink of type `σ` and may be refused.
abbrev Writing (σ : Type) :=
  ExceptT WriteError (StateM σ)

class Sink (σ : Type) where
  write : Bytes → Writing σ Unit

namespace Sink

variable {σ : Type}

-- Offer `bytes` until all are taken. `offer` takes some of what it is offered, from the front, and
-- says how many bytes it took; a sink that takes none at all will not take the rest either. Offers
-- that are interrupted have no part in this: they are made again, and count as one.
def writeAll (offer : Bytes → Writing σ Nat) (bytes : Bytes) : Writing σ Unit := do
  if _ : bytes = [] then return ()
  let n ← offer bytes
  if _ : n = 0 then throw .tookNothing
  else writeAll offer (bytes.drop n)
termination_by bytes.length
decreasing_by
  have := List.length_pos_iff.2 ‹_›
  rw [List.length_drop]
  omega

variable [Sink σ]

def writeText (s : String) : Writing σ Unit :=
  write (Text.utf8 s)

end Sink

-- Takes everything.
structure Collected where
  received : Array UInt8 := #[]
  deriving DecidableEq, Repr

namespace Collected

instance : Sink Collected where
  write bytes := modify fun s => ⟨s.received ++ bytes⟩

end Collected

-- Takes as many bytes as it has room for and then refuses.
structure Limited where
  room : Nat
  refusal : WriteError
  received : Array UInt8 := #[]
  deriving DecidableEq, Repr

namespace Limited

-- A full sink either fails or merely says that it took nothing.
def offer (bytes : Bytes) : Writing Limited Nat := do
  let s ← get
  if s.room = 0 then
    if s.refusal = .tookNothing then return 0 else throw s.refusal
  let n := min s.room bytes.length
  set { s with room := s.room - n, received := s.received ++ bytes.take n }
  return n

instance : Sink Limited where
  write := Sink.writeAll offer

end Limited

-- How a device refuses writes. Writes to a descriptor behind which there is nothing count as done,
-- so no device refuses them for that.
structure Refusal where
  error : WriteError
  heard : error.code? ≠ some SystemError.badDescriptor
  deriving DecidableEq, Repr

namespace Refusal

def system (error : SystemError) (lasting : error.code ≠ SystemError.interrupted := by decide)
    (heard : error.code ≠ SystemError.badDescriptor := by decide) : Refusal where
  error := .system error lasting
  heard := by simpa [WriteError.code?]

-- The refusal that a failed write amounts to, if it does to one.
def ofSystem? (error : SystemError) : Option Refusal :=
  if h : error.code ≠ SystemError.interrupted ∧ error.code ≠ SystemError.badDescriptor then
    some (system error h.left h.right)
  else none

end Refusal

-- The far end of an output: it takes every byte, or none.
inductive Device
  | accepting (received : Array UInt8)
  | refusing (refusal : Refusal)
  deriving DecidableEq, Repr

namespace Device

def received : Device → Array UInt8
  | accepting bytes => bytes
  | refusing _      => #[]

instance : Sink Device where
  write bytes := do
    match ← get with
    | accepting received => set (accepting (received ++ bytes))
    | refusing refusal   => if !bytes.isEmpty then throw refusal.error

end Device
end TunnelPorts
