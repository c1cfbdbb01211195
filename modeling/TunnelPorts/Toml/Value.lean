import TunnelPorts.Assoc
import TunnelPorts.Number.Binary64

/-!
TOML values. A table remembers how it came about, which decides who may still add to it: nothing
can be added to a table that was written between braces; one that has a header is closed to a second
header and to dotted keys; one that a longer header only passed through can still get a header of
its own; and one that dotted keys made can get more dotted keys.
-/

namespace TunnelPorts.Toml

inductive Form
  | inline
  | defined
  | implied
  | dotted
  deriving DecidableEq, Repr

-- `moment` is any date or time: a valid one, of which nothing else matters here. `tables` is an
-- array that grows by a header for each of its elements.
inductive Value
  | string (s : String)
  | integer (n : Int)
  | float (x : Binary64)
  | boolean (b : Bool)
  | moment
  | array (items : List Value)
  | tables (items : List Value)
  | table (form : Form) (entries : List (String × Value))
  deriving Repr

abbrev Entries := List (String × Value)

-- A table that is being built.
structure Table where
  form : Form := .defined
  entries : Entries := []

namespace Table

def toValue (t : Table) : Value :=
  .table t.form t.entries

def get? (t : Table) (key : String) : Option Value :=
  t.entries.lookup key

def set (t : Table) (key : String) (v : Value) : Table :=
  { t with entries := Assoc.set key v t.entries }

-- Change the table that `v` is, or the last one if it is an array of tables.
def inside? (f : Table → Option Table) (v : Value) : Option Value :=
  match v with
  | .table .inline _ => none
  | .table form es   => (f ⟨form, es⟩).map toValue
  | .tables items    =>
    match items.getLast? with
    | some (.table form es) => (f ⟨form, es⟩).map fun t => .tables (items.dropLast ++ [t.toValue])
    | _                     => none
  | _ => none

-- Change the table at the end of `path`; tables that are missing on the way come about in the
-- given form. Dotted keys do not pass through tables that have a header.
def descend? (form : Form) (f : Table → Option Table) : List String → Table → Option Table
  | [], t         => f t
  | k :: path, t => do
    let v ←
      match t.get? k with
      | none   => (descend? form f path { form }).map toValue
      | some v =>
        match form, v with
        | .dotted, .table .defined _ => none
        | _, v                       => inside? (descend? form f path) v
    return t.set k v

-- Give `key` a value, once. A dotted key may only add to a table that dotted keys made.
def addKey? (isDotted : Bool) (key : String) (v : Value) (t : Table) : Option Table :=
  if isDotted && t.form ≠ .dotted then none
  else if (t.get? key).isSome then none
  else some (t.set key v)

-- Add the value that `key = v` spells within `t`.
def addDotted? (key : List String) (v : Value) (t : Table) : Option Table := do
  let last ← key.getLast?
  descend? .dotted (addKey? (key.length > 1) last v) key.dropLast t

-- Take the header `[key]` for the last of the keys.
def openTable? (key : String) (t : Table) : Option Table :=
  match t.get? key with
  | none                      => some (t.set key (.table .defined []))
  | some (.table .implied es) => some (t.set key (.table .defined es))
  | some _                    => none

-- Take the header `[[key]]` for the last of the keys.
def openElement? (key : String) (t : Table) : Option Table :=
  let element : Value := .table .defined []
  match t.get? key with
  | none                => some (t.set key (.tables [element]))
  | some (.tables items) => some (t.set key (.tables (items ++ [element])))
  | some _              => none

-- Take a header in the root table `t`.
def open? (isElement : Bool) (path : List String) (t : Table) : Option Table := do
  let last ← path.getLast?
  descend? .implied (if isElement then openElement? last else openTable? last) path.dropLast t

end Table
end TunnelPorts.Toml
