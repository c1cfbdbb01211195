import TunnelPorts.Config.Value
import TunnelPorts.Error
import TunnelPorts.Text.Quoted

/-!
What can be wrong with a configuration. An error names the value that is wrong by its keys, and the
layer that gave it.
-/

namespace TunnelPorts.Config

namespace Scalar

-- What messages call a scalar.
def description : Scalar → String
  | string s   => s!"string {Text.quoted s}"
  | char c     => s!"char {Text.quotedChar c}"
  | boolean b  => s!"bool {b}"
  | unsigned n => s!"unsigned int `{n}`"
  | signed n   => s!"signed int `{n}`"
  | float x    => s!"float `{x.text}`"

end Scalar

def Value.description : Value → String
  | scalar s _   => s.description
  | sequence _ _ => "sequence"
  | dict _ _     => "map"

inductive Mistake
  -- A value of another type is wanted.
  | invalidType (found expected : String)
  -- There is no kind of source of this name …
  | unknownKind (name : String)
  -- … or of this number.
  | unknownIndex (n : Nat)
  | missingField (name : String)
  | invalidLength (n : Nat) (expected : String)
  deriving DecidableEq, Repr

namespace Mistake

def text : Mistake → String
  | invalidType found expected => s!"invalid type: found {found}, expected {expected}"
  | unknownKind name           =>
    s!"unknown variant: found `{name}`, expected ``file` or `in_memory``"
  | unknownIndex n             =>
    s!"invalid value unsigned int `{n}`, expected variant index 0 <= i < 2"
  | missingField name          => s!"missing field `{name}`"
  | invalidLength n expected   => s!"invalid length {n}, expected {expected}"

end Mistake

inductive Error
  -- A value is wrong: the one at the end of `path`.
  | wrongValue (mistake : Mistake) (path : List String) (origin : Origin)
  -- The configuration file spells no configuration.
  | syntaxError
  -- The configuration file is no text.
  | unreadable (cause : ReadError)
  deriving DecidableEq, Repr

namespace Error

-- The value a message is about, as its layer calls it.
def key (path : List String) : Origin → String
  | .environment => ".".intercalate (path.map String.toUpper)
  | _            => ".".intercalate ("default" :: path)

-- The layer a message is about; `file` is the configuration file.
def place (file : String) : Origin → String
  | .environment => "`TKX_` environment variable(s)"
  | .file        => s!"{file} TOML file"
  | .defaults    => "defaults"

-- The faults of a TOML text are not told apart: of what is said about one, this is only how it
-- begins, and where the text is wrong and why is left out.
def text (file : String) : Error → String
  | wrongValue mistake path o => s!"{mistake.text} for key \"{key path o}\" in {place file o}"
  | syntaxError               => "TOML parse error"
  | unreadable cause          => s!"{cause.text}\n in {place file .file}"

-- The way to the value that is wrong, if it is a value.
def path : Error → List String
  | wrongValue _ path _ => path
  | _                   => []

end Error
end TunnelPorts.Config
