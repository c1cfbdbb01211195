/-!
Splitting: there is one piece more than there are separators, and pieces may be empty. The pieces of
a text can also be taken one at a time, and then no more of the text is looked at than needed.
-/

namespace TunnelPorts.Text

variable {α : Type} [DecidableEq α]

-- The pieces of a list between separators.
def split (separator : α) : List α → List (List α)
  | []      => [[]]
  | a :: as =>
    if a = separator then [] :: split separator as
    else (split separator as).modifyHead (a :: ·)

theorem length_split (separator : α) (as : List α) :
    (split separator as).length = as.count separator + 1 := by
  induction as with
  | nil => rfl
  | cons a as ih => by_cases h : a = separator <;> simp [split, h, ih]

-- The first piece, and what stands behind the first separator, if there is one.
def cut (separator : α) : List α → List α × Option (List α)
  | []      => ([], none)
  | a :: as =>
    if a = separator then ([], some as)
    else
      let (piece, rest?) := cut separator as
      (a :: piece, rest?)

-- The pieces that were not taken yet are those of `rest?`; there are none without it.
structure Pieces (α : Type) where
  rest? : Option (List α)

namespace Pieces

def ofList {α : Type} (as : List α) : Pieces α :=
  ⟨some as⟩

-- Take one piece.
def next? (separator : α) (p : Pieces α) : Option (List α) × Pieces α :=
  match p.rest? with
  | none    => (none, p)
  | some as =>
    let (piece, rest?) := cut separator as
    (some piece, ⟨rest?⟩)

-- Pass over `n` pieces, and take one.
def nth? (separator : α) (p : Pieces α) : (n : Nat) → Option (List α) × Pieces α
  | 0     => p.next? separator
  | n + 1 =>
    match p.next? separator with
    | (none, p)   => (none, p)
    | (some _, p) => p.nth? separator n

end Pieces
end TunnelPorts.Text
