import TunnelPorts.Text.Escape

/-!
TOML strings and the characters around values: blanks, comments and line ends.
-/

namespace TunnelPorts.Toml

open Scan

def isBlank (c : Char) : Bool :=
  c = ' ' || c = '\t'

-- A line feed, with or without a carriage return before it.
def newline : Scan Unit := fun
  | '\n' :: cs          => some ((), cs)
  | '\r' :: '\n' :: cs => some ((), cs)
  | _                   => none

def blanks : Scan Unit :=
  skipWhile isBlank

-- A comment, if there is one; its line goes on to the end.
def comment : Scan Unit := do
  if ← eats '#' then skipWhile Text.isPlain

-- Nothing but a comment to the end of the line, or of the text.
def lineEnd : Scan Unit := do
  blanks
  comment
  if (← get).isEmpty then return else newline

-- `s` without the blanks, line ends and comments in front of it; it may start in the middle of a
-- comment. A comment must end at the end of a line.
def dropSpace : (inComment : Bool) → List Char → List Char
  | _, '\n' :: cs         => dropSpace false cs
  | _, '\r' :: '\n' :: cs => dropSpace false cs
  | true, c :: cs         => if Text.isPlain c then dropSpace true cs else c :: cs
  | false, c :: cs        =>
    if isBlank c then dropSpace false cs
    else if c = '#' then dropSpace true cs
    else c :: cs
  | _, []                 => []

-- All blanks, comments and line ends that stand here.
def space : Scan Unit := fun s =>
  some ((), dropSpace false s)

namespace Quoted

-- The rest of a literal string.
def literalBody : Scan String := do
  let cs ← takeWhile fun c => Text.isPlain c && c ≠ '\''
  eat '\''
  return .ofList cs

-- Up to five quotes where a string of several lines may end: the last three end it, and those
-- before them belong to it. Fewer than three belong to it and do not end it.
def quotes (quote : Char) (text : String) : Scan (Bool × String) := fun s =>
  let n := min 5 (s.takeWhile (· = quote)).length
  let kept := if n < 3 then n else n - 3
  some ((n ≥ 3, text ++ .ofList (List.replicate kept quote)), s.drop n)

-- `s` without the blanks and line ends in front of it.
def dropEmptyLines : List Char → List Char
  | '\n' :: cs         => dropEmptyLines cs
  | '\r' :: '\n' :: cs => dropEmptyLines cs
  | c :: cs            => if isBlank c then dropEmptyLines cs else c :: cs
  | []                 => []

-- A backslash at the end of a line joins it to the next text: what stands between the two.
def lineJoin : Scan Unit := do
  blanks
  newline
  modify dropEmptyLines

-- The rest of a string of several lines; at most `fuel` pieces of it are read. Line ends become
-- line feeds.
def linesBody (quote : Char) : Nat → String → Scan String
  | 0, _ => failure
  | fuel + 1, text => do
    match ← peek? with
    | none => failure
    | some c =>
      if c = quote then
        let (isEnd, text) ← quotes quote text
        if isEnd then return text else linesBody quote fuel text
      else if c = '\n' || c = '\r' then
        newline
        linesBody quote fuel (text.push '\n')
      else if c = '\\' && quote = '"' then
        eat '\\'
        match ← peek? with
        | some d =>
          if isBlank d || d = '\n' || d = '\r' then
            lineJoin
            linesBody quote fuel text
          else linesBody quote fuel (text.push (← Text.escaped))
        | none => failure
      else if Text.isPlain c then
        eat c
        linesBody quote fuel (text.push c)
      else failure

-- A line end right behind the opening quotes is not part of the string.
def lines (quote : Char) : Scan String := do
  let cs ← get
  if cs.head? = some '\n' || cs.head? = some '\r' then newline
  linesBody quote ((← get).length + 1) ""

-- A string on one line.
def single : Scan String := do
  if (← peek?) = some '"' then Text.quotedText
  else
    eat '\''
    literalBody

-- Any string.
def any : Scan String := do
  if ← eatsWord "\"\"\"" then lines '"'
  else if ← eatsWord "'''" then lines '\''
  else single

end Quoted
end TunnelPorts.Toml
