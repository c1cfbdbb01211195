import TunnelPorts.Text.Invisible

/-!
Quoted texts, as messages show a value that was found. Marks that would end the text, and characters
that do not show, are written as escapes.
-/

namespace TunnelPorts.Text

-- A character by its code point, in hexadecimal and without leading zeros.
def codeEscape (c : Char) : List Char :=
  ['\\', 'u', '{'] ++ Nat.toDigits 16 c.toNat ++ ['}']

-- One character of a text between `quote`s.
def quoteChar (quote c : Char) : List Char :=
  match c with
  | '\x00' => ['\\', '0']
  | '\t'   => ['\\', 't']
  | '\r'   => ['\\', 'r']
  | '\n'   => ['\\', 'n']
  | '\\'   => ['\\', '\\']
  | _      =>
    if c = quote then ['\\', c]
    else if isInvisible c then codeEscape c
    else [c]

-- `s` between quotes.
def quoted (s : String) : String :=
  .ofList ('"' :: s.toList.flatMap (quoteChar '"') ++ ['"'])

-- `c` between apostrophes.
def quotedChar (c : Char) : String :=
  .ofList ('\'' :: quoteChar '\'' c ++ ['\''])

end TunnelPorts.Text
