import TunnelPorts.Config.Error
import TunnelPorts.Config.Source

/-!
Decoding of a merged configuration. Only `source_config` is looked at. It is a dictionary, whose
`kind` says which of its other keys matters, or a sequence of the kind and that other value. A
mistake in the kind comes before any other.
-/

namespace TunnelPorts.Config

namespace Decode

def sourceKey : String := "source_config"

def kindKey : String := "kind"

def wrong {α : Type} (mistake : Mistake) (path : List String) (o : Origin) : Except Error α :=
  .error (.wrongValue mistake (sourceKey :: path) o)

-- A kind is a name or a number without a sign; `path` leads to it.
def kind (path : List String) (v : Value) : Except Error Source.Kind :=
  match v with
  | .scalar (.string name) o => named name o
  | .scalar (.char c) o      => named (.singleton c) o
  | .scalar (.unsigned n) o  =>
    match Source.Kind.ofIndex? n with
    | some k => .ok k
    | none   => wrong (.unknownIndex n) path o
  | v => wrong (.invalidType v.description "variant identifier") path v.origin
where
  named (name : String) (o : Origin) : Except Error Source.Kind :=
    match Source.Kind.ofName? name with
    | some k => .ok k
    | none   => wrong (.unknownKind name) path o

-- The text that `v` must be, in a source given by `o`.
def text (expected : String) (o : Origin) (v : Value) : Except Error String :=
  match v with
  | .scalar (.string s) _ => .ok s
  | v => wrong (.invalidType v.description expected) [] o

def fileName (o : Origin) : Value → Except Error String :=
  text "path string" o

def document (o : Origin) : Value → Except Error String :=
  text "a string" o

def ofDict (d : Dict) (o : Origin) : Except Error Source := do
  match Dict.get? d kindKey with
  | none   => wrong (.missingField kindKey) [] o
  | some k =>
    match ← kind [kindKey] k with
    | .file =>
      match Dict.get? d "file_name" with
      | none   => return .file Source.defaultFileName
      | some v => return .file (← fileName o v)
    | .inMemory =>
      match Dict.get? d "document" with
      | none   => wrong (.missingField "document") [] o
      | some v => return .inMemory (← document o v)

-- Behind the kind stands one value at most.
def noMore (o : Origin) (rest : List Value) : Except Error Unit :=
  if rest.isEmpty then .ok ()
  else wrong (.invalidLength (rest.length + 1) "1 element in sequence") [] o

def ofSequence (items : List Value) (o : Origin) : Except Error Source := do
  match items with
  | []        => wrong (.missingField kindKey) [] o
  | k :: rest =>
    match ← kind ["0"] k, rest with
    | .file, []            => return .file Source.defaultFileName
    | .file, v :: rest     =>
      let name ← fileName o v
      noMore o rest
      return .file name
    | .inMemory, []        =>
      wrong (.invalidLength 0 "struct InMemorySourceConfig with 1 element") [] o
    | .inMemory, v :: rest =>
      let doc ← document o v
      noMore o rest
      return .inMemory doc

-- A lone character is as good as a text of one character, and neither will do.
def ofValue (v : Value) : Except Error Source :=
  match v with
  | .dict d o             => ofDict d o
  | .sequence items o     => ofSequence items o
  | .scalar (.char c) o   => unfit (.string (.singleton c)) o
  | .scalar s o           => unfit s o
where
  unfit (s : Scalar) (o : Origin) : Except Error Source :=
    wrong (.invalidType s.description "internally tagged enum SourceConfig") [] o

end Decode

-- The source that a configuration names.
def decode (config : Dict) : Except Error Source :=
  match Dict.get? config Decode.sourceKey with
  | none   => .ok default
  | some v => Decode.ofValue v

end TunnelPorts.Config
