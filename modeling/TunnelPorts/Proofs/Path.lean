import TunnelPorts.FileSystem
import TunnelPorts.Proofs.Split

/-!
Paths as texts. The pieces of a path that is joined to a directory are those of the directory
followed by its own.
-/

namespace TunnelPorts

namespace Path

-- What a directory or a file can be called.
structure IsName (s : String) : Prop where
  no_separator : separator ∉ s.toList
  no_nul : '\x00' ∉ s.toList
  ne_empty : s ≠ ""
  ne_dot : s ≠ "."
  ne_dots : s ≠ ".."
  short : s.utf8ByteSize ≤ Tree.segmentLimit

variable {cwd : List String} {path : String}

theorem toList_ofSegments (h : cwd ≠ []) :
    (ofSegments cwd).toList = cwd.flatMap fun s => separator :: s.toList := by
  have hc : "/".toList = [separator] := rfl
  rw [ofSegments, String.toList_append, String.toList_intercalate, hc]
  induction cwd
  case nil => contradiction
  case cons s cwd hi =>
    cases cwd
    case nil    => simp
    case cons t => simpa using hi

theorem getLast?_ofSegments (hn : ∀ s ∈ cwd, IsName s) (h : cwd ≠ []) :
    (ofSegments cwd).toList.getLast? ≠ some separator := by
  intro hl
  obtain rfl | ⟨above, s, rfl⟩ := List.eq_nil_or_concat' cwd
  case inl => contradiction
  case inr =>
    have hs := hn s <| by simp
    have ht : s.toList ≠ [] := mt String.toList_eq_nil_iff.mp hs.ne_empty
    rw [toList_ofSegments h, List.flatMap_append, List.flatMap_singleton, List.append_cons,
      List.getLast?_append_of_ne_nil _ ht] at hl
    exact hs.no_separator <| List.mem_of_getLast? hl

-- What a directory and a path in it are joined by is one separator, also at the root.
theorem toList_join (hn : ∀ s ∈ cwd, IsName s) (hr : isAbsolute path = false) :
    (join (ofSegments cwd) path).toList =
      (cwd.flatMap fun s => separator :: s.toList) ++ separator :: path.toList := by
  have hc : "/".toList = [separator] := rfl
  rw [join, if_neg (by simp [hr])]
  by_cases h : cwd = []
  case pos =>
    subst h
    rw [if_pos (by decide), String.toList_append, ofSegments]
    rfl
  case neg =>
    rw [if_neg (getLast?_ofSegments hn h), String.toList_append, String.toList_append,
      toList_ofSegments h, hc]
    simp

theorem isAbsolute_join (hn : ∀ s ∈ cwd, IsName s) (hr : isAbsolute path = false) :
    isAbsolute (join (ofSegments cwd) path) = true := by
  rw [isAbsolute, toList_join hn hr]
  cases cwd <;> simp

theorem utf8ByteSize_le_join (base path : String) :
    path.utf8ByteSize ≤ (join base path).utf8ByteSize := by
  rw [join]
  split
  case isTrue  => exact le_rfl
  case isFalse => split <;> simp [String.utf8ByteSize_append]

theorem split_segments (hn : ∀ s ∈ cwd, IsName s) (as bs : List Char) :
    Text.split separator (as ++ ((cwd.flatMap fun s => separator :: s.toList) ++ separator :: bs)) =
      Text.split separator as ++ (cwd.map String.toList ++ Text.split separator bs) := by
  induction cwd generalizing as
  case nil => exact Text.split_append_cons as bs
  case cons s cwd hi =>
    have ⟨hs, hc⟩ := List.forall_mem_cons.mp hn
    rw [List.flatMap_cons, List.append_assoc, List.cons_append, Text.split_append_cons, hi hc,
      Text.split_of_not_mem hs.no_separator]
    rfl

theorem pieces_join (hn : ∀ s ∈ cwd, IsName s) (hr : isAbsolute path = false) :
    pieces (join (ofSegments cwd) path) = "" :: (cwd ++ pieces path) := by
  have hs := split_segments hn [] path.toList
  rw [List.nil_append] at hs
  rw [pieces, toList_join hn hr, hs, pieces]
  simp [Text.split, Function.comp_def]

theorem segments_ofSegments (hn : ∀ s ∈ cwd, IsName s) : segments (ofSegments cwd) = cwd := by
  have hp : cwd ≠ [] → pieces (ofSegments cwd) = "" :: cwd := by
    intro h
    obtain rfl | ⟨above, s, rfl⟩ := List.eq_nil_or_concat' cwd
    case inl => contradiction
    case inr =>
      have ⟨ha, hs⟩ := List.forall_mem_append.mp hn
      have hs := hs s List.mem_cons_self
      have ht := split_segments ha [] s.toList
      rw [List.nil_append] at ht
      rw [pieces, toList_ofSegments h, List.flatMap_append, List.flatMap_singleton, ht,
        Text.split_of_not_mem hs.no_separator]
      simp [Text.split, Function.comp_def]
  by_cases h : cwd = []
  case pos => subst h; rfl
  case neg =>
    rw [segments, hp h, List.filter_cons_of_neg (by simp), List.filter_eq_self]
    intro s hs
    simp [(hn s hs).ne_empty, (hn s hs).ne_dot]

-- A directory is the first of those in which a relative path is looked for.
theorem candidates_ofSegments (hn : ∀ s ∈ cwd, IsName s) (hr : isAbsolute path = false) :
    ∃ above, candidates (ofSegments cwd) path = join (ofSegments cwd) path :: above := by
  rw [candidates, if_neg (by simp [hr]), ancestors, segments_ofSegments hn, List.range_succ,
    List.reverse_concat, List.map_cons, List.map_cons, List.take_length]
  exact ⟨_, rfl⟩

end Path
end TunnelPorts
