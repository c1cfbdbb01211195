import TunnelPorts.Document
import TunnelPorts.Json.Error
import TunnelPorts.Key

/-!
The ways in which an extraction fails. Each has a message of its own, and those that something else
brought about have that as their cause.
-/

namespace TunnelPorts

-- Why the operating system refuses a path or a write.
inductive SystemError
  | noSuchFile
  | notADirectory
  | isADirectory
  | noSpace
  | nameTooLong
  | other (code : Nat) (reason : String)
  deriving DecidableEq, Repr

namespace SystemError

def code : SystemError → Nat
  | noSuchFile    => 2
  | notADirectory => 20
  | isADirectory  => 21
  | noSpace       => 28
  | nameTooLong   => 36
  | other code _  => code

def reason : SystemError → String
  | noSuchFile     => "No such file or directory"
  | notADirectory  => "Not a directory"
  | isADirectory   => "Is a directory"
  | noSpace        => "No space left on device"
  | nameTooLong    => "File name too long"
  | other _ reason => reason

def text (e : SystemError) : String :=
  s!"{e.reason} (os error {e.code})"

-- The code of a call that was interrupted before it did anything, …
def interrupted : Nat := 4

-- … and that of a descriptor behind which there is nothing.
def badDescriptor : Nat := 9

-- The error of a code; the reason is for codes that have no name here.
def ofCode (code : Nat) (reason : String) : SystemError :=
  ([noSuchFile, notADirectory, isADirectory, noSpace, nameTooLong].find? (·.code = code)).getD
    (other code reason)

end SystemError

-- Why a file gives no text.
inductive ReadError
  | system (error : SystemError)
  | nulInName
  | notUtf8
  deriving DecidableEq, Repr

namespace ReadError

def text : ReadError → String
  | system e  => e.text
  | nulInName => "file name contained an unexpected NUL byte"
  | notUtf8   => "stream did not contain valid UTF-8"

end ReadError

-- Why a sink takes no more bytes. What is interrupted is tried again, so that is never the reason.
inductive WriteError
  | system (error : SystemError) (lasting : error.code ≠ SystemError.interrupted := by decide)
  -- Nothing of what was to be written was taken, …
  | tookNothing
  -- … or nothing of what was held back until then.
  | tookNothingHeld
  | refused (reason : String)
  deriving DecidableEq, Repr

namespace WriteError

def text : WriteError → String
  | system e _      => e.text
  | tookNothing     => "failed to write whole buffer"
  | tookNothingHeld => "failed to write the buffered data"
  | refused reason  => reason

def code? : WriteError → Option Nat
  | system e _ => some e.code
  | _          => none

end WriteError

inductive ExtractError
  | sourceUnavailable (path : String) (cause : ReadError)
  | invalidJson (cause : Json.Error)
  | unexpectedShape (location : Location) (found : Found)
  | malformedKey (site datacenter key : String) (fields : Nat)
  | output (cause : WriteError)
  deriving DecidableEq, Repr

namespace ExtractError

def message : ExtractError → String
  | sourceUnavailable path _  => s!"💀 could not read tunnel document '{path}'"
  | invalidJson _             => "💀 tunnel document is not valid JSON"
  | unexpectedShape loc found => s!"💀 expected a JSON object at {loc.text}, found {found.text}"
  | malformedKey s d k fields =>
    s!"💀 encoded key '{k}' under site '{s}', datacenter '{d}' has {fields} '_'-separated fields, need at least {Key.minFields}"
  | output _                  => "💀 failed to write extraction output"

def cause? : ExtractError → Option String
  | sourceUnavailable _ cause => some cause.text
  | invalidJson cause         => some cause.text
  | output cause              => some cause.text
  | _                         => none

-- The message, followed by its cause if there is one.
def chain (e : ExtractError) : List String :=
  e.message :: e.cause?.toList

end ExtractError
end TunnelPorts
