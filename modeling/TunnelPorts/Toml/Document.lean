import TunnelPorts.Toml.Moment
import TunnelPorts.Toml.Number
import TunnelPorts.Toml.Text
import TunnelPorts.Toml.Value

/-!
TOML documents: lines that give a key a value in the table of the header before them.
-/

namespace TunnelPorts.Toml

open Scan

-- Brackets within each other, or keys joined by points: this many are too many.
def depthLimit : Nat := 80

def simpleKey : Scan String := do
  match ← peek? with
  | some '"' | some '\'' => Quoted.single
  | _ => Text.bareKey

-- Keys joined by points, with blanks around each; at most `fuel` of them.
def keys : Nat → Scan (List String)
  | 0 => failure
  | fuel + 1 => do
    blanks
    let k ← simpleKey
    blanks
    if ← eats '.' then return k :: (← keys fuel) else return [k]

def key : Scan (List String) := do
  let ks ← keys ((← get).length + 1)
  if ks.length < depthLimit then return ks else failure

-- Items of an array from behind its bracket, or from behind a comma, to the closing bracket; at
-- most `fuel` of them.
def items {α : Type} (item : Scan α) : Nat → Scan (List α)
  | 0 => failure
  | fuel + 1 => do
    space
    if ← eats ']' then return []
    let a ← item
    space
    if ← eats ',' then return a :: (← items item fuel)
    eat ']'
    return [a]

def pair {α : Type} (value : Scan α) : Scan (List String × α) := do
  let k ← key
  eat '='
  blanks
  return (k, ← value)

-- Pairs of an inline table, from the first of them to the closing brace; at most `fuel` of them.
def pairs {α : Type} (value : Scan α) : Nat → Scan (List (List String × α))
  | 0 => failure
  | fuel + 1 => do
    let p ← pair value
    blanks
    if ← eats ',' then return p :: (← pairs value fuel)
    eat '}'
    return [p]

def inlinePairs {α : Type} (value : Scan α) : Scan (List (List String × α)) := do
  blanks
  if ← eats '}' then return []
  pairs value ((← get).length + 1)

-- A table between braces, from behind the opening one.
def inlineTable (value : Scan Value) : Scan Value := do
  let ps ← inlinePairs value
  let t ← ps.foldlM (fun t (k, v) => Table.addDotted? k v t) ({ form := .inline } : Table)
  return t.toValue

-- A value that has neither quotes nor brackets.
def word : Scan Value := do
  if ← eatsWord "true" then return .boolean true
  if ← eatsWord "false" then return .boolean false
  (do
    Moment.any
    return .moment) <|>
    .float <$> Number.float <|>
    .integer <$> Number.integer

-- A value within which at most `depth` brackets are open at a time.
def value (depth : Nat) : Scan Value := do
  match ← peek? with
  | some '"' | some '\'' => .string <$> Quoted.any
  | some '[' =>
    match depth with
    | 0 => failure
    | depth + 1 =>
      eat '['
      .array <$> items (value depth) ((← get).length + 1)
  | some '{' =>
    match depth with
    | 0 => failure
    | depth + 1 =>
      eat '{'
      inlineTable (value depth)
  | _ => word

-- The root table, and the header that lines are under.
structure State where
  root : Table := {}
  header : List String := []

-- The bracket at the end of a header; there are two if the header is that of an element.
def closing (isElement : Bool) : Scan Unit := do
  eat ']'
  if isElement then eat ']'

-- A header line, from behind its first bracket.
def headerLine (s : State) : Scan State := do
  let isElement ← eats '['
  let path ← key
  closing isElement
  lineEnd
  return { root := ← Table.open? isElement path s.root, header := path }

def pairLine (s : State) : Scan State := do
  let (k, v) ← pair (value (depthLimit - 1))
  lineEnd
  return { s with root := ← Table.descend? .implied (Table.addDotted? k v) s.header s.root }

-- A line without blanks in front of it.
def line (s : State) : Scan State := do
  match ← peek? with
  | some '#' | some '\n' | some '\r' =>
    lineEnd
    return s
  | some '[' =>
    eat '['
    headerLine s
  | _ => pairLine s

-- All lines of a document; at most `fuel` of them.
def document : Nat → State → Scan Table
  | 0, _ => failure
  | fuel + 1, s => do
    blanks
    if (← get).isEmpty then return s.root
    document fuel (← line s)

def byteOrderMark : Char := '\ufeff'

-- The root table of a document, in front of which a byte order mark may stand.
def parse? (text : String) : Option Entries :=
  let s := if text.toList.head? = some byteOrderMark then text.toList.tail else text.toList
  ((document (s.length + 1) {}).whole? s).map Table.entries

end TunnelPorts.Toml
