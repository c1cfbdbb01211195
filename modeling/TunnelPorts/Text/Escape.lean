import TunnelPorts.Text.Digit
import TunnelPorts.Text.Scan

/-!
Escapes: what a backslash and the characters behind it stand for.
-/

namespace TunnelPorts.Text

-- What one letter behind a backslash stands for.
def letterEscape? (c : Char) : Option Char :=
  match c with
  | '"'  => some '"'
  | '\\' => some '\\'
  | 'b'  => some '\x08'
  | 'f'  => some '\x0c'
  | 'n'  => some '\n'
  | 'r'  => some '\r'
  | 't'  => some '\t'
  | _    => none

-- Digits behind the letter that announces a code point.
def codeLength? (c : Char) : Option Nat :=
  match c with
  | 'u' => some 4
  | 'U' => some 8
  | _   => none

-- The character behind a backslash: a letter's, or that of a code point.
def escaped : Scan Char := do
  let c ← Scan.next
  match codeLength? c with
  | some n => ofCode? (ofDigits 16 (← Scan.exactly n isHexDigit))
  | none   => letterEscape? c

-- No control characters, except that a tab is one of these.
def isPlain (c : Char) : Bool :=
  c = '\t' || c ≥ ' ' && c ≠ '\x7f'

-- A quoted text from behind its opening quote; at most `fuel` characters of it are read.
def quotedBody : Nat → String → Scan String
  | 0, _ => failure
  | fuel + 1, text => do
    let c ← Scan.next
    if c = '"' then return text
    else if c = '\\' then quotedBody fuel (text.push (← escaped))
    else if isPlain c then quotedBody fuel (text.push c)
    else failure

-- A quoted text with its quotes.
def quotedText : Scan String := do
  Scan.eat '"'
  quotedBody ((← get).length + 1) ""

-- Characters of a key that needs no quotes.
def isKeyChar (c : Char) : Bool :=
  c.isAlphanum || c = '_' || c = '-'

def bareKey : Scan String :=
  String.ofList <$> Scan.takeWhile₁ isKeyChar

end TunnelPorts.Text
