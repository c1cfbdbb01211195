/-!
Distinct ports in the order in which they were first seen.
-/

namespace TunnelPorts

structure PortSet where
  toList : List String := []
  nodup : toList.Nodup := by simp

namespace PortSet

def empty : PortSet := {}

def size (s : PortSet) : Nat :=
  s.toList.length

def isEmpty (s : PortSet) : Bool :=
  s.toList.isEmpty

def contains (s : PortSet) (port : String) : Bool :=
  s.toList.contains port

-- A port that is already there keeps its place.
def insert (s : PortSet) (port : String) : PortSet :=
  if h : port ∈ s.toList then s else
    { toList := s.toList ++ [port]
      nodup := by simp [List.nodup_append, s.nodup]; exact fun a ha e => h (e ▸ ha) }

-- Put a port in, and say whether it was not there before.
def insertNew (s : PortSet) (port : String) : Bool × PortSet :=
  if s.contains port then (false, s) else (true, s.insert port)

def ofList (ports : List String) : PortSet :=
  ports.foldl insert empty

-- Sets are compared without regard to order.
instance : BEq PortSet where
  beq s t := s.size == t.size && s.toList.all t.contains

@[simp]
theorem toList_empty : empty.toList = [] :=
  rfl

theorem toList_insert (s : PortSet) (port : String) :
    (s.insert port).toList = if port ∈ s.toList then s.toList else s.toList ++ [port] := by
  unfold insert
  split <;> simp [*]

@[simp]
theorem contains_iff {s : PortSet} {port : String} : s.contains port ↔ port ∈ s.toList := by
  simp [contains]

@[simp]
theorem mem_toList_insert {s : PortSet} {port p : String} :
    p ∈ (s.insert port).toList ↔ p ∈ s.toList ∨ p = port := by
  rw [toList_insert]
  split <;> simp_all

end PortSet
end TunnelPorts
