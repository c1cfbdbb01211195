import Mathlib
import TunnelPorts.Walk

/-!
A walk as one loop. What a walk comes by, level by level and key by key, is a list of places, and
walking a document is visiting its places one after the other until one of them fails.
-/

namespace TunnelPorts

inductive Place
  | object (location : Location) (size : Nat)
  | misshapen (location : Location) (found : Found)
  | key (site datacenter key : String)
  deriving DecidableEq, Repr

-- A level comes before what it holds, and what is no object holds nothing.
def Level.places {α : Type} (loc : Location) (inner : String × α → List Place) :
    Level α → List Place
  | object es       => .object loc es.size :: es.toList.flatMap inner
  | notObject found => [.misshapen loc found]

namespace Document

def datacenterPlaces (s : String) (e : String × Datacenter) : List Place :=
  e.2.places (.datacenter s e.1) fun t => [.key s e.1 t.1]

def sitePlaces (e : String × Site) : List Place :=
  e.2.places (.site e.1) (datacenterPlaces e.1)

-- The places of a document in the order in which they are written.
def places (doc : Document) : List Place :=
  Level.places .root sitePlaces doc

end Document

namespace Visitor

variable {σ : Type}

def visit (v : Visitor σ) (sum : Summary) : Place → Extracting σ Summary
  | .object .root _             => return sum
  | .object (.site s) n         => do
    v.enterSite s n
    return { sum with sites := sum.sites + 1 }
  | .object (.datacenter s d) n => do
    v.enterDatacenter s d n
    return { sum with datacenters := sum.datacenters + 1 }
  | .misshapen loc found        => throw (.unexpectedShape loc found)
  | .key s d k                  => v.visitKey s d sum k

-- A loop over lists of places is one loop over all of them.
theorem foldlM_flatMap {α : Type} (v : Visitor σ) (inner : α → List Place) (l : List α)
    (sum : Summary) :
    (l.flatMap inner).foldlM v.visit sum =
      l.foldlM (fun sum a => (inner a).foldlM v.visit sum) sum := by
  induction l generalizing sum
  case nil         => rfl
  case cons _ _ hi => simp [hi]

-- A level is entered if it is an object, and then all of it is visited in order.
theorem foldlM_places {α : Type} (v : Visitor σ) (level : Level α) (loc : Location)
    (inner : String × α → List Place) (sum : Summary) :
    (level.places loc inner).foldlM v.visit sum = (do
      let es ← level.entriesAt loc
      let sum ← v.visit sum (.object loc es.size)
      es.toList.foldlM (fun sum e => (inner e).foldlM v.visit sum) sum) := by
  cases level
  case object es       => simp [Level.places, Level.entriesAt, foldlM_flatMap]; rfl
  case notObject found => simp [Level.places, Level.entriesAt, visit]; rfl

theorem visitDatacenter_eq_foldlM (v : Visitor σ) (s : String) (sum : Summary)
    (e : String × Datacenter) :
    v.visitDatacenter s sum e = (Document.datacenterPlaces s e).foldlM v.visit sum := by
  simp [visitDatacenter, Document.datacenterPlaces, foldlM_places, visit, Entries.keys,
    List.foldlM_map]

theorem visitSite_eq_foldlM (v : Visitor σ) (sum : Summary) (e : String × Site) :
    v.visitSite sum e = (Document.sitePlaces e).foldlM v.visit sum := by
  simp [visitSite, Document.sitePlaces, foldlM_places, visit, ← visitDatacenter_eq_foldlM]

theorem walk_eq_foldlM (v : Visitor σ) (doc : Document) :
    v.walk doc = doc.places.foldlM v.visit {} := by
  simp [walk, Document.places, foldlM_places, visit, ← visitSite_eq_foldlM]

end Visitor
end TunnelPorts
