import TunnelPorts.Document
import TunnelPorts.Json.Skip

/-!
Levels of a document. `Level.reader` reads a value at a level that is walked: an object into its
entries, each value by the reader of the level below, and anything else into the mere knowledge of
what it is. A document is three such levels around values that are skipped.
-/

namespace TunnelPorts.Json

namespace Level

-- Within an array, which is read to its end though nothing of it is kept.
inductive ItemState
  | opened
  | item (state : Skip.State)
  | after
  | comma

-- Within an object, with a value of the level below in state `σ`.
inductive MemberState (σ : Type)
  | opened
  | key (state : Text.State)
  | colon (key : String)
  | value (key : String) (state : σ)
  | after
  | comma

inductive State (σ α : Type)
  | value
  | word (next : Char) (rest : List Char) (found : Found)
  | number (state : Number.State)
  | text (state : Text.State)
  | array (state : ItemState)
  | object (entries : Entries α) (state : MemberState σ)

variable {σ α : Type}

-- `c` is the first character of the value.
def begin (c : Char) : Step (State σ α) (Level α) :=
  match c with
  | '"' => .more (.text {})
  | '[' => .more (.array .opened)
  | '{' => .more (.object {} .opened)
  | 'n' => .more (.word 'u' ['l', 'l'] .null)
  | 't' => .more (.word 'r' ['u', 'e'] .boolean)
  | 'f' => .more (.word 'a' ['l', 's', 'e'] .boolean)
  | _   =>
    match Number.Phase.first? c with
    | some p => .more (.number (.ofFirst p c))
    | none   => .fail .expectedValue 1

namespace ItemState

-- `c` stands behind an item.
def follow (c : Char) : Step ItemState Found :=
  if isBlank c then .more after
  else if c = ']' then .last .array
  else if c = ',' then .more comma
  else .fail .expectedCommaOrBracket 1

-- An item goes on with `c`, or begins with it.
def inItem (s : Skip.State) (c : Char) : Step ItemState Found :=
  match Skip.reader.step s c with
  | .more s   => .more (item s)
  | .last _   => .more after
  | .past _   => follow c
  | .fail e n => .fail e n

def step (s : ItemState) (c : Char) : Step ItemState Found :=
  match s with
  | opened =>
    if isBlank c then .more opened
    else if c = ']' then .last .array
    else inItem Skip.reader.start c
  | comma =>
    if isBlank c then .more comma
    else if c = ']' then .fail .trailingComma 1
    else inItem Skip.reader.start c
  | item s => inItem s c
  | after => follow c

def stop : ItemState → Fault
  | opened | after => .unfinishedArray
  | comma          => .unfinishedValue
  | item s         =>
    match Skip.reader.stop s with
    | .ok _    => .unfinishedArray
    | .error e => e

end ItemState

-- `c` stands behind a member.
def follow (es : Entries α) (c : Char) : Step (State σ α) (Level α) :=
  if isBlank c then .more (.object es .after)
  else if c = '\x7d' then .last (.object es)
  else if c = ',' then .more (.object es .comma)
  else .fail .expectedCommaOrBrace 1

-- `c` is the first character of a key.
def beginKey (es : Entries α) (c : Char) : Step (State σ α) (Level α) :=
  if c = '"' then .more (.object es (.key {})) else .fail .keyNotString 1

def stepObject (child : Reader σ α) (es : Entries α) (s : MemberState σ) (c : Char) :
    Step (State σ α) (Level α) :=
  match s with
  | .opened =>
    if isBlank c then .more (.object es .opened)
    else if c = '\x7d' then .last (.object es)
    else beginKey es c
  | .comma =>
    if isBlank c then .more (.object es .comma)
    else if c = '\x7d' then .fail .trailingComma 1
    else beginKey es c
  | .key t =>
    match t.step c with
    | .more t           => .more (.object es (.key t))
    | .last k | .past k => .more (.object es (.colon k))
    | .fail e n         => .fail e n
  | .colon k =>
    if isBlank c then .more (.object es (.colon k))
    else if c = ':' then .more (.object es (.value k child.start))
    else .fail .expectedColon 1
  | .value k s =>
    match child.step s c with
    | .more s   => .more (.object es (.value k s))
    | .last v   => .more (.object (es.insert k v) .after)
    | .past v   => follow (es.insert k v) c
    | .fail e n => .fail e n
  | .after => follow es c

def step (child : Reader σ α) (s : State σ α) (c : Char) : Step (State σ α) (Level α) :=
  match s with
  | .value => if isBlank c then .more .value else begin c
  | .word next rest found =>
    if c = next then
      match rest with
      | []      => .last (.notObject found)
      | d :: ds => .more (.word d ds found)
    else .fail .expectedWord 1
  | .number s => (s.step c).map .number fun _ => .notObject .number
  | .text s => (s.step c).map .text fun _ => .notObject .string
  | .array s => (s.step c).map .array .notObject
  | .object es s => stepObject child es s c

def stop (child : Reader σ α) (s : State σ α) : Except Fault (Level α) :=
  match s with
  | .value | .word _ _ _ => .error .unfinishedValue
  | .number s => s.stop.map fun _ => .notObject .number
  | .text _ => .error .unfinishedString
  | .array s => .error s.stop
  | .object _ s =>
    match s with
    | .opened | .colon _ | .after => .error .unfinishedObject
    | .key _                      => .error .unfinishedString
    | .comma                      => .error .unfinishedValue
    | .value _ s                  =>
      match child.stop s with
      | .ok _    => .error .unfinishedObject
      | .error e => .error e

def reader (child : Reader σ α) : Reader (State σ α) (Level α) where
  start := .value
  step := step child
  stop := stop child

end Level

abbrev DatacenterState := Level.State Skip.State Unit

abbrev SiteState := Level.State DatacenterState Datacenter

abbrev DocumentState := Level.State SiteState Site

-- The tunnels of a datacenter are known by their keys; what stands behind a key is skipped.
def datacenterReader : Reader DatacenterState Datacenter :=
  Level.reader Skip.reader

def siteReader : Reader SiteState Site :=
  Level.reader datacenterReader

def documentReader : Reader DocumentState Document :=
  Level.reader siteReader

end Json

-- The document that `text` spells.
def Document.parse (text : String) : Except Json.Error Document :=
  Json.documentReader.read text

end TunnelPorts
