import TunnelPorts.Log.Directive
import TunnelPorts.Text.Split

/-!
Log filters, which decide which lines are shown. A filter is a list of directives with commas
between them. Malformed directives are left out.
-/

namespace TunnelPorts.Log

-- Of the directives that cover a line the most specific one decides; of several equally specific
-- ones, the last.
structure Filter where
  directives : List Directive
  deriving DecidableEq, Repr

namespace Filter

-- Without any directive, errors are shown. There is no filter if a directive is torn.
def ofText? (s : String) : Option Filter :=
  let found := (Text.split ',' s.toList).map Directive.ofText
  if found.any fun d => d matches .error .torn then none
  else match found.filterMap Except.toOption with
    | [] => some ⟨[{ rank := Level.error.rank }]⟩
    | ds => some ⟨ds⟩

-- The directive that decides about `l`.
def deciding? (f : Filter) (l : Line) : Option Directive :=
  (f.directives.filter (·.covers l)).foldl
    (fun best? d =>
      match best? with
      | some best => if d.weight < best.weight then some best else some d
      | none      => some d)
    none

def shows (f : Filter) (l : Line) : Bool :=
  (f.deciding? l).any fun d => l.level.rank ≤ d.rank

end Filter
end TunnelPorts.Log
