import TunnelPorts.Json.Error

/-!
Readers. A reader takes a text one character at a time and says, after each, whether it wants more,
is finished, or has met a fault. A number has no last character of its own: it is finished by
whatever stands behind it, which then belongs to somebody else.
-/

namespace TunnelPorts.Json

-- What a reader makes of one character.
inductive Step (σ α : Type)
  -- It is read, and there is more to come.
  | more (state : σ)
  -- It is read, and with it the text is complete.
  | last (value : α)
  -- It is not read: the text was complete before it.
  | past (value : α)
  -- It cannot stand here. The fault is reported after the first `taken` bytes of it.
  | fail (fault : Fault) (taken : Nat)

namespace Step

variable {σ τ α β : Type}

-- Carry on in another state, and give another value.
def map (f : σ → τ) (g : α → β) : Step σ α → Step τ β
  | more s   => more (f s)
  | last a   => last (g a)
  | past a   => past (g a)
  | fail e n => fail e n

end Step

-- `stop` says what becomes of the reader when the text ends.
structure Reader (σ α : Type) where
  start : σ
  step : σ → Char → Step σ α
  stop : σ → Except Fault α

namespace Reader

variable {σ α : Type}

-- Nothing but blanks may stand behind the value.
def close (a : α) : Position → List Char → Except Error α
  | _, []      => .ok a
  | p, c :: cs =>
    if isBlank c then close a (p.advance c) cs else .error ⟨.trailingCharacters, p.within c 1⟩

def run (r : Reader σ α) : σ → Position → List Char → Except Error α
  | s, p, []      => (r.stop s).mapError (⟨·, p⟩)
  | s, p, c :: cs =>
    match r.step s c with
    | .more s   => r.run s (p.advance c) cs
    | .last a   => close a (p.advance c) cs
    | .past a   => close a p (c :: cs)
    | .fail e n => .error ⟨e, p.within c n⟩

-- The one value that `text` spells.
def read (r : Reader σ α) (text : String) : Except Error α :=
  r.run r.start {} text.toList

end Reader
end TunnelPorts.Json
