import TunnelPorts.Text.Split

/-!
Paths as texts. Segments are separated by slashes; a path that starts with a slash is absolute.
-/

namespace TunnelPorts.Path

def separator : Char := '/'

def isAbsolute (path : String) : Bool :=
  path.toList.head? = some separator

-- The directory with the given segments below the root.
def ofSegments (segments : List String) : String :=
  "/" ++ "/".intercalate segments

-- `path` as seen from the directory `base`.
def join (base path : String) : String :=
  if isAbsolute path then path
  else if base.toList.getLast? = some separator then base ++ path
  else base ++ "/" ++ path

-- All that stands between slashes. There is an empty piece in front of a slash at the beginning,
-- and behind one at the end.
def pieces (path : String) : List String :=
  (Text.split separator path.toList).map .ofList

-- The segments that lead anywhere: neither empty ones nor those that stay in place.
def segments (path : String) : List String :=
  (pieces path).filter fun s => s ≠ "" && s ≠ "."

-- A directory and all those above it, from the inside out.
def ancestors (directory : String) : List String :=
  let s := segments directory
  (List.range (s.length + 1)).reverse.map fun n => ofSegments (s.take n)

-- Where to look for `path` from a directory: an absolute path only under itself, and any other in
-- the directory and all those above it.
def candidates (directory path : String) : List String :=
  if isAbsolute path then [path] else (ancestors directory).map (join · path)

-- Without the segments that both have in front.
def dropCommon : List String → List String → List String × List String
  | a :: as, b :: bs => if a = b then dropCommon as bs else (a :: as, b :: bs)
  | as, bs => (as, bs)

-- The way from `base` to `path`, both absolute.
def relative (base path : String) : List String :=
  let (up, down) := dropCommon (segments base) (segments path)
  up.map (fun _ => "..") ++ down

-- An absolute path as messages show it: relative to `base` if that takes fewer segments, where the
-- root counts as one.
def shown (base path : String) : String :=
  let r := relative base path
  if r.length < (segments path).length + 1 then "/".intercalate r else path

end TunnelPorts.Path
