import TunnelPorts.Proofs.Path

/-!
Reading of files: which files give a text, why the others do not, and what a path in a tree leads to
when it is joined to the working directory.
-/

namespace TunnelPorts

theorem Text.ofUtf8?_eq_some_iff {bytes : Bytes} {s : String} :
    ofUtf8? bytes = some s ↔ bytes = utf8 s := by
  constructor
  case mp =>
    intro h
    rw [ofUtf8?, String.fromUTF8?] at h
    split at h
    case isTrue =>
      cases h
      rfl
    case isFalse => contradiction
  case mpr =>
    rintro rfl
    exact ofUtf8?_utf8 s

namespace FileSystem

-- The path leads to a file that can be read and is all this text.
def Holds (fs : FileSystem) (path text : String) : Prop :=
  ∃ regular, fs.look path = .ok (.leaf regular (.ok (Text.utf8 text)))

-- What a path leads to gives no text.
inductive Unreadable (fs : FileSystem) (path : String) : ReadError → Prop
  | lost {e : ReadError} (h : fs.look path = .error e) : Unreadable fs path e
  | directory (h : fs.look path = .ok .directory) : Unreadable fs path (.system .isADirectory)
  | locked {regular : Bool} {e : SystemError} (h : fs.look path = .ok (.leaf regular (.error e))) :
    Unreadable fs path (.system e)
  | noText {regular : Bool} {bytes : Bytes} (h : fs.look path = .ok (.leaf regular (.ok bytes)))
      (hb : ∀ text, bytes ≠ Text.utf8 text) : Unreadable fs path .notUtf8

variable {fs : FileSystem} {path : String} {e : ReadError}

theorem readText_of_error (h : fs.look path = .error e) : fs.readText path = .error e := by
  rw [readText, h]
  rfl

theorem readText_of_ok {n : Node} (h : fs.look path = .ok n) :
    fs.readText path =
      match n.contents with
      | .error cause => .error (.system cause)
      | .ok bytes    =>
        match Text.ofUtf8? bytes with
        | some text => .ok text
        | none      => .error .notUtf8 := by
  rw [readText, h]
  rfl

theorem readText_of_holds {text : String} (h : fs.Holds path text) :
    fs.readText path = .ok text := by
  have ⟨_, h⟩ := h
  rw [readText_of_ok h, Node.contents]
  simp only [Text.ofUtf8?_utf8]

theorem readText_of_unreadable (h : fs.Unreadable path e) : fs.readText path = .error e := by
  cases h
  case lost h      => exact readText_of_error h
  case directory h => exact readText_of_ok h
  case locked h    => exact readText_of_ok h
  case noText h hb =>
    rw [readText_of_ok h, Node.contents]
    dsimp only
    split
    case h_1 ht => exact absurd (Text.ofUtf8?_eq_some_iff.mp ht) <| hb _
    case h_2    => rfl

-- A path leads to a text or it gives none.
theorem holds_or_unreadable (fs : FileSystem) (path : String) :
    (∃ text, fs.Holds path text) ∨ ∃ e, fs.Unreadable path e := by
  cases h : fs.look path
  case error => exact .inr ⟨_, .lost h⟩
  case ok n  =>
    cases n
    case directory => exact .inr ⟨_, .directory h⟩
    case leaf regular contents =>
      cases contents
      case error e  => exact .inr ⟨_, .locked h⟩
      case ok bytes =>
        by_cases ht : ∃ text, bytes = Text.utf8 text
        case pos => exact .inl <| ht.imp fun _ ht => ⟨regular, by rw [h, ht]⟩
        case neg => exact .inr ⟨_, .noText h fun text => mt (⟨text, ·⟩) ht⟩

end FileSystem

namespace Tree

variable {t : Tree} {place cwd rest : List String} {s path : String} {n : Node}

theorem node?_of_follow (h : t.follow place (s :: rest) = .ok n) :
    t.node? place = some .directory := by
  rw [follow] at h
  split at h
  case h_1 | h_2 => cases h
  case h_3 hd    => exact hd

theorem follow_name (hs : Path.IsName s) (hd : t.node? place = some .directory) :
    t.follow place (s :: rest) = t.follow (place ++ [s]) rest := by
  have ⟨_, _, he, h1, h2, hl⟩ := hs
  rw [follow, hd]
  simp [he, h1, h2, not_lt.mpr hl]

theorem follow_append (hn : ∀ s ∈ cwd, Path.IsName s) (h : t.follow place cwd = .ok n)
    (rest : List String) : t.follow place (cwd ++ rest) = t.follow (place ++ cwd) rest := by
  induction cwd generalizing place
  case nil => simp
  case cons s cwd hi =>
    have ⟨hs, hc⟩ := List.forall_mem_cons.mp hn
    have hd := node?_of_follow h
    rw [follow_name hs hd] at h
    rw [List.cons_append, follow_name hs hd, hi hc h, ← List.append_cons]

-- The directory is there, and so are those above it.
structure HasDirectory (t : Tree) (cwd : List String) : Prop where
  names : ∀ s ∈ cwd, Path.IsName s
  reached : t.follow [] cwd = .ok .directory

namespace HasDirectory

theorem node?_root (h : t.HasDirectory cwd) : t.node? [] = some .directory := by
  have hr := h.reached
  cases cwd
  case cons => exact node?_of_follow hr
  case nil  =>
    rw [follow] at hr
    split at hr
    case h_1 hn => rw [hn, Except.ok.inj hr]
    case h_2    => cases hr

theorem follow_root (h : t.HasDirectory cwd) (rest : List String) :
    t.follow [] ("" :: (cwd ++ rest)) = t.follow cwd rest := by
  have hf := follow_append h.names h.reached rest
  rw [follow, h.node?_root]
  simpa using hf

-- A path leads from the root to where it leads from the directory itself, unless it gets too long.
theorem look_join (h : t.HasDirectory cwd) (hr : Path.isAbsolute path = false) (hp : path ≠ "")
    (hl : (Path.join (Path.ofSegments cwd) path).utf8ByteSize < pathLimit) (dir : List String) :
    t.look dir (Path.join (Path.ofSegments cwd) path) = t.look cwd path := by
  have ht := Path.toList_join h.names hr
  have hz : '\x00' ∈ (Path.join (Path.ofSegments cwd) path).toList ↔ '\x00' ∈ path.toList := by
    have hc : '\x00' ≠ Path.separator := by decide
    simp only [ht, List.mem_append, List.mem_flatMap, List.mem_cons, hc, false_or]
    exact or_iff_right fun ⟨s, hs, hm⟩ => (h.names s hs).no_nul hm
  have he : Path.join (Path.ofSegments cwd) path ≠ "" := by
    intro he
    simp [he] at ht
  have hs := Path.utf8ByteSize_le_join (Path.ofSegments cwd) path
  simp only [look, List.contains_iff_mem, hz, he, hp, if_neg (not_le.mpr hl),
    if_neg (not_le.mpr <| hs.trans_lt hl), Path.isAbsolute_join h.names hr, hr,
    Path.pieces_join h.names hr]
  simp [h.follow_root]

end HasDirectory
end Tree
end TunnelPorts
