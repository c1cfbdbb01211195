import TunnelPorts.Assoc

/-!
Named values in document order. A name occurs once; a value given for a name that is already there
replaces the earlier value and keeps its place.
-/

namespace TunnelPorts

structure Entries (α : Type) where
  toList : List (String × α) := []
  nodup : (toList.map Prod.fst).Nodup := by simp

namespace Entries

variable {α : Type}

def keys (es : Entries α) : List String :=
  es.toList.map Prod.fst

def size (es : Entries α) : Nat :=
  es.toList.length

def insert (es : Entries α) (key : String) (v : α) : Entries α where
  toList := Assoc.set key v es.toList
  nodup := Assoc.nodup_set key v es.nodup

theorem keys_insert (es : Entries α) (key : String) (v : α) :
    (es.insert key v).keys = if key ∈ es.keys then es.keys else es.keys ++ [key] :=
  Assoc.map_fst_set key v es.toList

end Entries
end TunnelPorts
