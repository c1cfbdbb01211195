import TunnelPorts.Sink

/-!
Line buffering. A line buffer holds back what was written to it until a line is complete or the
buffer is full, and until then nothing of it reaches the sink behind it.
-/

namespace TunnelPorts

structure LineBuffer (σ : Type) where
  behind : σ
  pending : Array UInt8 := #[]
  deriving DecidableEq, Repr

namespace LineBuffer

def capacity : Nat := 1024

def lineFeed : UInt8 := 10

-- `bytes` up to its last line feed, and the rest.
def splitLines (bytes : Bytes) : Bytes × Bytes :=
  let backwards := bytes.reverse
  ((backwards.dropWhile (· ≠ lineFeed)).reverse, (backwards.takeWhile (· ≠ lineFeed)).reverse)

theorem splitLines_append (bytes : Bytes) :
    (splitLines bytes).1 ++ (splitLines bytes).2 = bytes := by
  simp [splitLines, ← List.reverse_append, List.takeWhile_append_dropWhile]

theorem lineFeed_not_mem_splitLines (bytes : Bytes) : lineFeed ∉ (splitLines bytes).2 := by
  intro h
  have := List.all_eq_true.1 List.all_takeWhile _ (List.mem_reverse.1 h)
  simp at this

variable {σ : Type} [Sink σ]

-- Write to the sink behind the buffer.
def pass (bytes : Bytes) : Writing (LineBuffer σ) Unit := fun s =>
  let (result, behind) := (Sink.write bytes : Writing σ Unit) s.behind
  (result, { s with behind })

-- What a flush reports where a write reports `e`.
def flushError : WriteError → WriteError
  | .tookNothing => .tookNothingHeld
  | e            => e

-- What is pending stays so if the sink behind refuses it.
def flush : Writing (LineBuffer σ) Unit := do
  (pass (← get).pending.toList).adapt flushError
  modify fun s => { s with pending := #[] }

-- Pieces as long as the buffer itself are not held back.
def hold (bytes : Bytes) : Writing (LineBuffer σ) Unit := do
  if capacity - (← get).pending.size < bytes.length then flush
  if bytes.length < capacity then modify fun s => { s with pending := s.pending ++ bytes }
  else pass bytes

-- Complete lines go out at once; a line that was completed earlier goes out first.
def write (bytes : Bytes) : Writing (LineBuffer σ) Unit := do
  let (lines, tail) := splitLines bytes
  let pending := (← get).pending
  if lines.isEmpty then
    if pending.back? = some lineFeed then flush
  else if pending.isEmpty then pass lines
  else
    hold lines
    flush
  hold tail

instance : Sink (LineBuffer σ) where
  write := write

end LineBuffer
end TunnelPorts
