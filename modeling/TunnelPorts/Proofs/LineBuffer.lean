import TunnelPorts.Proofs.Output
import TunnelPorts.Sink.LineBuffer

/-!
What becomes of output in a line buffer. In front of a device that takes everything, what the device
has received and what is pending make up all that was written, in order. In front of one that
refuses everything, writing goes well as long as all of it can be held back, and no longer.
-/

namespace TunnelPorts

open Failing

theorem Device.write_refusing (bytes : Bytes) (refusal : Refusal) :
    (Sink.write bytes : Writing Device Unit) (.refusing refusal) =
      (if bytes = [] then .ok () else .error refusal.error, .refusing refusal) := by
  cases bytes <;> rfl

namespace LineBuffer

theorem capacity_pos : 0 < capacity := by
  decide

theorem splitLines_of_not_mem {bytes : Bytes} (h : lineFeed ∉ bytes) :
    splitLines bytes = ([], bytes) := by
  have hr : ∀ b ∈ bytes.reverse, decide (b ≠ lineFeed) := by
    intro b hb
    rw [decide_eq_true_eq]
    rintro rfl
    exact h <| List.mem_reverse.mp hb
  rw [splitLines, List.dropWhile_eq_nil_iff.mpr hr, List.takeWhile_eq_self_iff.mpr hr,
    List.reverse_reverse, List.reverse_nil]

theorem splitLines_ne_nil {bytes : Bytes} (h : lineFeed ∈ bytes) : (splitLines bytes).1 ≠ [] := by
  intro hn
  have ha := splitLines_append bytes
  rw [hn, List.nil_append] at ha
  exact lineFeed_not_mem_splitLines bytes <| ha.symm ▸ h

section

variable {σ : Type} [Sink σ]

theorem pass_apply (bytes : Bytes) (s : LineBuffer σ) :
    pass bytes s =
      (((Sink.write bytes : Writing σ Unit) s.behind).1,
        { s with behind := ((Sink.write bytes : Writing σ Unit) s.behind).2 }) :=
  rfl

-- Put bytes into the buffer or, if they are too many for any buffer, past it.
def store (bytes : Bytes) : Writing (LineBuffer σ) Unit :=
  if bytes.length < capacity then modify fun s => { s with pending := s.pending ++ bytes }
  else pass bytes

theorem hold_apply (bytes : Bytes) (s : LineBuffer σ) :
    hold bytes s =
      if capacity - s.pending.size < bytes.length then (do flush; store bytes) s
      else store bytes s := by
  rw [hold, bind_ok (get_apply s)]
  dsimp only
  split <;> rfl

theorem write_apply (bytes : Bytes) (s : LineBuffer σ) :
    write bytes s =
      if (splitLines bytes).1 = [] then
        if s.pending.back? = some lineFeed then (do flush; hold (splitLines bytes).2) s
        else hold (splitLines bytes).2 s
      else if s.pending = #[] then (do pass (splitLines bytes).1; hold (splitLines bytes).2) s
      else (do hold (splitLines bytes).1; flush; hold (splitLines bytes).2) s := by
  rw [write]
  dsimp only
  rw [bind_ok (get_apply s)]
  simp only [List.isEmpty_iff, Array.isEmpty_iff]
  split
  case isTrue  => split <;> rfl
  case isFalse => split <;> rfl

end

section

variable {s : LineBuffer Device} {all : Array UInt8} {w v : Writing (LineBuffer Device) Unit}
  {as bs : Bytes}

-- The device takes everything, and with what is pending it would have received `all`.
def Holding (s : LineBuffer Device) (all : Array UInt8) : Prop :=
  ∃ got, s.behind = .accepting got ∧ got ++ s.pending = all

theorem holding_accepting (all : Array UInt8) : Holding ⟨.accepting all, #[]⟩ all :=
  ⟨all, rfl, Array.append_empty⟩

-- What `w` writes is `bytes`, some of which may stay in the buffer.
def Emits (w : Writing (LineBuffer Device) Unit) (bytes : Bytes) : Prop :=
  ∀ s all, s.Holding all → ∃ t, w s = (.ok (), t) ∧ t.Holding (all ++ bytes)

theorem Emits.bind (hw : Emits w as) (hv : Emits v bs) : Emits (do w; v) (as ++ bs) := by
  intro s all hs
  have ⟨t, ht, hta⟩ := hw s all hs
  have ⟨u, hu, hua⟩ := hv t (all ++ as) hta
  refine ⟨u, (bind_ok ht).trans hu, ?_⟩
  rwa [← received_append]

theorem pass_of_holding (hs : s.Holding all) (hp : s.pending = #[]) (bytes : Bytes) :
    pass bytes s = (.ok (), ⟨.accepting (all ++ bytes), #[]⟩) := by
  have ⟨got, hg, ha⟩ := hs
  rw [hp, Array.append_empty] at ha
  rw [pass_apply, hg, hp, ha]
  rfl

theorem flush_of_holding (hs : s.Holding all) : flush s = (.ok (), ⟨.accepting all, #[]⟩) := by
  have ⟨got, hg, ha⟩ := hs
  have hp : ((pass s.pending.toList).adapt flushError : Writing (LineBuffer Device) Unit) s =
      (.ok (), { s with behind := .accepting all }) := by
    have ha : got ++ s.pending.toList = all := ha ▸ Array.toList_inj.mp (by simp)
    rw [adapt_apply, pass_apply, hg, ← ha]
    rfl
  rw [flush, bind_ok (get_apply s), bind_ok hp]
  rfl

theorem emits_flush : Emits flush [] := by
  intro s all hs
  refine ⟨_, flush_of_holding hs, ?_⟩
  simpa using holding_accepting all

theorem store_of_holding (hs : s.Holding all) (bytes : Bytes)
    (h : capacity ≤ bytes.length → s.pending = #[]) :
    ∃ t, store bytes s = (.ok (), t) ∧ t.Holding (all ++ bytes) := by
  rw [store]
  split
  case isTrue =>
    have ⟨got, hg, ha⟩ := hs
    refine ⟨_, modify_apply _ s, got, hg, ?_⟩
    rw [← ha]
    exact Array.toList_inj.mp <| by simp
  case isFalse hl => exact ⟨_, pass_of_holding hs (h <| by omega) bytes, holding_accepting _⟩

theorem emits_hold (bytes : Bytes) : Emits (hold bytes) bytes := by
  intro s all hs
  rw [hold_apply]
  split
  case isTrue =>
    rw [bind_ok (flush_of_holding hs)]
    exact store_of_holding (holding_accepting all) bytes fun _ => rfl
  case isFalse h =>
    -- There is room for that much only if nothing else is there.
    refine store_of_holding hs bytes fun hl => Array.size_eq_zero_iff.mp ?_
    have := capacity_pos
    omega

theorem emits_write (bytes : Bytes) : Emits (write bytes) bytes := by
  intro s all hs
  have hb := splitLines_append bytes
  rw [write_apply]
  generalize splitLines bytes = parts at hb ⊢
  have ⟨lines, tail⟩ := parts
  subst hb
  split
  case isTrue hl =>
    subst hl
    split
    case isTrue  => exact emits_flush.bind (emits_hold tail) s all hs
    case isFalse => exact emits_hold tail s all hs
  case isFalse =>
    split
    case isTrue hp =>
      rw [bind_ok (pass_of_holding hs hp lines), ← received_append]
      exact emits_hold tail _ _ (holding_accepting _)
    case isFalse => exact (emits_hold lines).bind (emits_flush.bind (emits_hold tail)) s all hs

theorem emits_writePieces (pieces : List String) :
    Emits (Output.writePieces pieces) (Output.bytes pieces) := by
  induction pieces
  case nil => exact fun s all hs => ⟨s, rfl, by simpa using hs⟩
  case cons p ps hi => exact (emits_write (Text.utf8 p)).bind hi

end

-- A piece of output can be held back behind what is pending.
structure Retains (pending : Array UInt8) (bytes : Bytes) : Prop where
  no_line : lineFeed ∉ bytes
  room : pending.size + bytes.length ≤ capacity
  short : bytes.length < capacity

-- Not even an empty buffer can hold it back.
def Overruns (bytes : Bytes) : Prop :=
  lineFeed ∈ bytes ∨ capacity ≤ bytes.length

instance (bytes : Bytes) : Decidable (Overruns bytes) :=
  inferInstanceAs (Decidable (_ ∨ _))

-- All of some pieces can, one after the other.
structure Fits (pending : Array UInt8) (pieces : List String) : Prop where
  no_line : lineFeed ∉ Output.bytes pieces
  room : pending.size + (Output.bytes pieces).length ≤ capacity
  short : ∀ p ∈ pieces, (Text.utf8 p).length < capacity

variable {pending : Array UInt8}

theorem size_append (pending : Array UInt8) (bytes : Bytes) :
    (pending ++ bytes).size = pending.size + bytes.length := by
  simp [← Array.length_toList]

theorem append_ne_empty {bytes : Bytes} (h : pending ≠ #[] ∨ bytes ≠ []) :
    pending ++ bytes ≠ #[] := by
  rw [ne_eq, ← Array.size_eq_zero_iff, size_append, Nat.add_eq_zero_iff, Array.size_eq_zero_iff,
    List.length_eq_zero_iff]
  exact not_and_or.mpr h

theorem lineFeed_not_mem_append {bytes : Bytes} (hp : lineFeed ∉ pending)
    (hb : lineFeed ∉ bytes) : lineFeed ∉ pending ++ bytes := by
  simp_all [← Array.mem_toList_iff]

theorem retains_empty_iff {bytes : Bytes} : Retains #[] bytes ↔ ¬Overruns bytes := by
  constructor
  case mp  => exact fun ⟨hn, _, hs⟩ => not_or.mpr ⟨hn, not_le.mpr hs⟩
  case mpr =>
    intro h
    obtain ⟨hn, hs⟩ := not_or.mp h
    have hs := not_le.mp hs
    exact ⟨hn, by simpa using hs.le, hs⟩

theorem fits_nil (hc : pending.size ≤ capacity) : Fits pending [] :=
  ⟨by simp, hc, nofun⟩

theorem fits_cons_iff {p : String} {ps : List String} :
    Fits pending (p :: ps) ↔
      Retains pending (Text.utf8 p) ∧ Fits (pending ++ Text.utf8 p) ps := by
  constructor
  case mp =>
    intro ⟨hn, hr, hs⟩
    simp only [Output.bytes_cons, List.mem_append, not_or, List.length_append] at hn hr
    have ⟨hp, hs⟩ := List.forall_mem_cons.mp hs
    refine ⟨⟨hn.left, by omega, hp⟩, hn.right, ?_, hs⟩
    rw [size_append]
    omega
  case mpr =>
    intro ⟨⟨hn, _, hp⟩, hn', hr, hs⟩
    rw [size_append] at hr
    refine ⟨?_, ?_, List.forall_mem_cons.mpr ⟨hp, hs⟩⟩
    case refine_1 => simp [hn, hn']
    case refine_2 =>
      rw [Output.bytes_cons, List.length_append]
      omega

section

variable {σ : Type} [Sink σ] {s : LineBuffer σ} {bytes : Bytes} {pieces : List String}

theorem write_of_not_mem (hp : lineFeed ∉ s.pending) (hb : lineFeed ∉ bytes) :
    write bytes s = hold bytes s := by
  have hl : s.pending.back? ≠ some lineFeed := fun h => hp <| Array.mem_of_back? h
  rw [write_apply, splitLines_of_not_mem hb, if_pos rfl, if_neg hl]

theorem hold_of_room (hs : bytes.length < capacity)
    (hr : s.pending.size + bytes.length ≤ capacity) :
    hold bytes s = (.ok (), { s with pending := s.pending ++ bytes }) := by
  rw [hold_apply, if_neg (by omega), store, if_pos hs]
  rfl

theorem write_of_retains (hp : lineFeed ∉ s.pending) (h : Retains s.pending bytes) :
    write bytes s = (.ok (), { s with pending := s.pending ++ bytes }) :=
  write_of_not_mem hp h.no_line |>.trans <| hold_of_room h.short h.room

theorem writePieces_of_fits (hp : lineFeed ∉ s.pending) (h : Fits s.pending pieces) :
    Output.writePieces pieces s =
      (.ok (), { s with pending := s.pending ++ Output.bytes pieces }) := by
  induction pieces generalizing s
  case nil => simp [Output.writePieces]
  case cons p ps hi =>
    obtain ⟨hr, hf⟩ := fits_cons_iff.mp h
    have hw : (Sink.writeText p : Writing (LineBuffer σ) Unit) s = _ := write_of_retains hp hr
    rw [Output.writePieces_cons, bind_ok hw, hi (lineFeed_not_mem_append hp hr.no_line) hf,
      received_append, Output.bytes_cons]

end

section

variable {refusal : Refusal} {bytes : Bytes} {pieces : List String}

theorem pass_refusing (hb : bytes ≠ []) :
    pass bytes ⟨.refusing refusal, pending⟩ =
      (.error refusal.error, (⟨.refusing refusal, pending⟩ : LineBuffer Device)) := by
  rw [pass_apply, Device.write_refusing, if_neg hb]

theorem flush_refusing :
    flush ⟨.refusing refusal, pending⟩ =
      (if pending = #[] then .ok () else .error (flushError refusal.error),
        (⟨.refusing refusal, pending⟩ : LineBuffer Device)) := by
  rw [flush, bind_ok (get_apply _)]
  split
  case isTrue h =>
    subst h
    rfl
  case isFalse h =>
    refine bind_error ?_
    rw [adapt_apply, pass_refusing <| by simpa using h]
    rfl

-- What the device says when it is asked for bytes that do not fit behind what is pending. It is
-- asked for what is pending first, if anything is.
def complaint (refusal : Refusal) (pending : Array UInt8) : WriteError :=
  if pending = #[] then refusal.error else flushError refusal.error

theorem complaint_nil : complaint refusal #[] = refusal.error :=
  if_pos rfl

theorem complaint_of_ne (h : pending ≠ #[]) :
    complaint refusal pending = flushError refusal.error :=
  if_neg h

-- What does not fit is asked of the device.
theorem hold_refused (hc : pending.size ≤ capacity)
    (h : bytes.length < capacity → capacity < pending.size + bytes.length) :
    hold bytes ⟨.refusing refusal, pending⟩ =
      (.error (complaint refusal pending),
        (⟨.refusing refusal, pending⟩ : LineBuffer Device)) := by
  have hs (hl : capacity ≤ bytes.length) (hp : pending = #[]) :
      store bytes ⟨.refusing refusal, pending⟩ =
        (.error (complaint refusal pending),
          (⟨.refusing refusal, pending⟩ : LineBuffer Device)) := by
    have := capacity_pos
    rw [store, if_neg (by omega), hp, complaint_nil]
    exact pass_refusing <| List.ne_nil_of_length_pos (by omega)
  rw [hold_apply]
  dsimp only
  split
  case isFalse hr =>
    -- There is room for that much only if nothing else is there.
    have := capacity_pos
    have hl : capacity ≤ bytes.length := by omega
    exact hs hl <| Array.size_eq_zero_iff.mp (by omega)
  case isTrue hr =>
    by_cases hp : pending = #[]
    case neg => exact bind_error <| by rw [flush_refusing, if_neg hp, complaint_of_ne hp]
    case pos =>
      rw [bind_ok (by rw [flush_refusing, if_pos hp])]
      exact hs (by simpa [hp] using hr.le) hp

theorem write_refused (hp : lineFeed ∉ pending) (hc : pending.size ≤ capacity)
    (h : ¬Retains pending bytes) :
    ∃ rest, write bytes ⟨.refusing refusal, pending⟩ =
      (.error (complaint refusal pending),
        (⟨.refusing refusal, rest⟩ : LineBuffer Device)) := by
  by_cases hb : lineFeed ∈ bytes
  case neg =>
    rw [write_of_not_mem hp hb]
    exact ⟨pending, hold_refused hc fun hl => not_le.mp fun hr => h ⟨hb, hr, hl⟩⟩
  case pos =>
    have hl := splitLines_ne_nil hb
    rw [write_apply, if_neg hl]
    generalize (splitLines bytes).1 = lines at hl ⊢
    split
    case isTrue he =>
      change pending = #[] at he
      rw [he, complaint_nil]
      exact ⟨#[], bind_error <| pass_refusing hl⟩
    case isFalse he =>
      by_cases hr : lines.length < capacity ∧ pending.size + lines.length ≤ capacity
      case neg => exact ⟨pending, bind_error <| hold_refused hc fun hs => by omega⟩
      case pos =>
        refine ⟨pending ++ lines, ?_⟩
        rw [bind_ok (hold_of_room hr.left hr.right), complaint_of_ne he]
        exact bind_error <| by rw [flush_refusing, if_neg (append_ne_empty <| .inr hl)]

theorem writePieces_refused_of_pending (hp : lineFeed ∉ pending) (hc : pending.size ≤ capacity)
    (hn : pending ≠ #[]) (h : ¬Fits pending pieces) :
    ∃ rest, Output.writePieces pieces ⟨.refusing refusal, pending⟩ =
      (.error (flushError refusal.error), (⟨.refusing refusal, rest⟩ : LineBuffer Device)) := by
  induction pieces generalizing pending
  case nil => exact absurd (fits_nil hc) h
  case cons p ps hi =>
    rw [Output.writePieces_cons]
    by_cases hr : Retains pending (Text.utf8 p)
    case neg =>
      rw [← complaint_of_ne hn]
      exact write_refused hp hc hr |>.imp fun _ => bind_error
    case pos =>
      have hw : (Sink.writeText p : Writing (LineBuffer Device) Unit) _ = _ :=
        write_of_retains (s := ⟨.refusing refusal, pending⟩) hp hr
      rw [bind_ok hw]
      refine hi (lineFeed_not_mem_append hp hr.no_line) ?_ ?_ fun hf => ?_
      case refine_1 => exact size_append pending _ ▸ hr.room
      case refine_2 => exact append_ne_empty <| .inl hn
      case refine_3 => exact h <| fits_cons_iff.mpr ⟨hr, hf⟩

-- Only what is written first, apart from nothing, can find the buffer empty.
theorem writePieces_refused (h : ¬Fits #[] pieces) (refusal : Refusal) :
    ∃ rest, Output.writePieces pieces ⟨.refusing refusal, #[]⟩ =
      (.error
        (if ∃ p ∈ pieces.find? (· ≠ ""), Overruns (Text.utf8 p) then refusal.error
        else flushError refusal.error),
        (⟨.refusing refusal, rest⟩ : LineBuffer Device)) := by
  induction pieces
  case nil => exact absurd (fits_nil <| Nat.zero_le _) h
  case cons p ps hi =>
    rw [Output.writePieces_cons]
    by_cases hr : Overruns (Text.utf8 p)
    case pos =>
      have he : p ≠ "" := by
        rintro rfl
        exact absurd hr (by decide)
      simp only [List.find?_cons, he, ne_eq, not_false_eq_true, decide_true]
      rw [if_pos ⟨p, rfl, hr⟩, ← complaint_nil]
      exact write_refused (by simp) (by simp) (mt retains_empty_iff.mp (not_not.mpr hr))
        |>.imp fun _ => bind_error
    case neg =>
      have hr' := retains_empty_iff.mpr hr
      have hw : (Sink.writeText p : Writing (LineBuffer Device) Unit) _ = _ :=
        write_of_retains (s := ⟨.refusing refusal, #[]⟩) (by simp) hr'
      have hf : ¬Fits (#[] ++ Text.utf8 p) ps := fun hf => h <| fits_cons_iff.mpr ⟨hr', hf⟩
      rw [bind_ok hw]
      by_cases he : p = ""
      case pos =>
        subst he
        simpa using hi hf
      case neg =>
        simp only [List.find?_cons, he, ne_eq, not_false_eq_true, decide_true]
        rw [if_neg (by simpa using hr)]
        have hn : Text.utf8 p ≠ [] := mt Text.utf8_eq_nil_iff.mp he
        refine writePieces_refused_of_pending ?_ ?_ ?_ hf
        case refine_1 => exact lineFeed_not_mem_append (by simp) hr'.no_line
        case refine_2 => exact size_append #[] _ ▸ hr'.room
        case refine_3 => exact append_ne_empty <| .inr hn

end
end LineBuffer
end TunnelPorts
