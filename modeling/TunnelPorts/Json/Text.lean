import TunnelPorts.Json.Reader
import TunnelPorts.Text.Escape

/-!
Strings, from the character behind the opening quote to the closing quote. `Text.State` decodes a
string; `Text.Shape` only looks for its end and takes an escape of half a surrogate pair as it
comes.
-/

namespace TunnelPorts.Json.Text

-- What one letter behind a backslash stands for; a slash may be escaped, too.
def escape? (c : Char) : Option Char :=
  if c = '/' then some '/' else TunnelPorts.Text.letterEscape? c

def isControl (c : Char) : Bool :=
  c < ' '

-- The four bytes of a code, as many of them as are still missing, and what they spell so far.
structure Code where
  missing : Nat := 4
  value? : Option Nat := some 0
  deriving DecidableEq, Repr

namespace Code

-- Four bytes are taken before they are looked at, be they digits or not.
def step (code : Code) (c : Char) : Step Code Nat :=
  let value? := do
    let n ← code.value?
    let d ← TunnelPorts.Text.hexDigit? c
    return n * 16 + d
  if c.utf8Size < code.missing then .more ⟨code.missing - c.utf8Size, value?⟩
  else match value? with
    | some n => .last n
    | none   => .fail .invalidEscape code.missing

end Code

-- The first halves of surrogate pairs.
def isHighHalf (n : Nat) : Bool :=
  0xD800 ≤ n && n ≤ 0xDBFF

-- The second halves of surrogate pairs.
def isLowHalf (n : Nat) : Bool :=
  0xDC00 ≤ n && n ≤ 0xDFFF

def pair (high low : Nat) : Char :=
  .ofNat (0x10000 + (high - 0xD800) * 0x400 + (low - 0xDC00))

inductive Phase
  | plain
  | escape
  | code (code : Code)
  -- A first half was read; now its second half must follow: a backslash, …
  | half (high : Nat)
  -- … a `u`, …
  | halfEscape (high : Nat)
  -- … and a code.
  | halfCode (high : Nat) (code : Code)
  deriving DecidableEq, Repr

structure State where
  text : String := ""
  phase : Phase := .plain
  deriving DecidableEq, Repr

namespace State

def push (s : State) (c : Char) : State :=
  ⟨s.text.push c, .plain⟩

def step (s : State) (c : Char) : Step State String :=
  match s.phase with
  | .plain =>
    if c = '"' then .last s.text
    else if c = '\\' then .more { s with phase := .escape }
    else if isControl c then .fail .controlCharacter 1
    else .more (s.push c)
  | .escape =>
    if c = 'u' then .more { s with phase := .code {} }
    else match escape? c with
      | some d => .more (s.push d)
      | none   => .fail .invalidEscape 1
  | .code code =>
    match code.step c with
    | .more code        => .more { s with phase := .code code }
    | .fail e n         => .fail e n
    | .last n | .past n =>
      if isLowHalf n then .fail .loneSurrogate 1
      else if isHighHalf n then .more { s with phase := .half n }
      else .more (s.push (.ofNat n))
  | .half high =>
    if c = '\\' then .more { s with phase := .halfEscape high } else .fail .unfinishedPair 1
  | .halfEscape high =>
    if c = 'u' then .more { s with phase := .halfCode high {} } else .fail .unfinishedPair 1
  | .halfCode high code =>
    match code.step c with
    | .more code        => .more { s with phase := .halfCode high code }
    | .fail e n         => .fail e n
    | .last n | .past n =>
      if isLowHalf n then .more (s.push (pair high n)) else .fail .loneSurrogate 1

end State

inductive Shape
  | plain
  | escape
  | code (code : Code)
  deriving DecidableEq, Repr

namespace Shape

def step (s : Shape) (c : Char) : Step Shape Unit :=
  match s with
  | plain =>
    if c = '"' then .last ()
    else if c = '\\' then .more escape
    else if isControl c then .fail .controlCharacter 0
    else .more plain
  | escape =>
    if c = 'u' then .more (.code {})
    else if (escape? c).isSome then .more plain
    else .fail .invalidEscape 1
  | code k =>
    match k.step c with
    | .more k           => .more (code k)
    | .last _ | .past _ => .more plain
    | .fail e n         => .fail e n

end Shape
end TunnelPorts.Json.Text
