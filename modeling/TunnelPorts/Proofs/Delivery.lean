import TunnelPorts.Proofs.LineBuffer
import TunnelPorts.Proofs.Run

/-!
Runs to a device. What a run writes goes through a line buffer, and when the run is over nothing is
left there: a device that takes everything has received all that the run wrote, failed or not. If
the device refuses everything, the run fails, and which failure it reports is a matter of what the
buffer could hold back until then.
-/

namespace TunnelPorts

open LineBuffer

namespace Output

-- Some of a token is always left when a piece of it is taken away.
theorem length_lt_of_mem_pairPieces {t : Tunnel} {p : String} (h : p ∈ pairPieces t) :
    (Text.utf8 p).length < (bytes (pairPieces t)).length := by
  have hc : (Text.utf8 ":").length = 1 := by decide
  have he : (Text.utf8 ",").length = 1 := by decide
  simp only [pairPieces, List.mem_cons, List.not_mem_nil, or_false] at h
  simp only [pairPieces, bytes_cons, bytes_nil, List.length_append, List.length_nil, hc, he]
  rcases h with rfl | rfl | rfl | rfl <;> omega

theorem length_lt_of_mem_tokens {ts : List Tunnel} {p : String}
    (h : p ∈ ts.flatMap pairPieces) :
    (Text.utf8 p).length < (bytes (ts.flatMap pairPieces)).length := by
  have ⟨t, ht, hp⟩ := List.mem_flatMap.mp h
  have ⟨as, bs, hs⟩ := List.append_of_mem ht
  have := length_lt_of_mem_pairPieces hp
  simp only [hs, List.flatMap_append, List.flatMap_cons, bytes_append, List.length_append]
  omega

-- Whether tokens fit into an empty buffer can be told from their bytes as a whole.
theorem fits_tokens_iff (ts : List Tunnel) :
    Fits #[] (ts.flatMap pairPieces) ↔
      lineFeed ∉ bytes (ts.flatMap pairPieces) ∧
        (bytes (ts.flatMap pairPieces)).length ≤ capacity := by
  constructor
  case mp  => exact fun ⟨hn, hr, _⟩ => ⟨hn, by simpa using hr⟩
  case mpr =>
    intro ⟨hn, hr⟩
    exact ⟨hn, by simpa using hr, fun p hp => length_lt_of_mem_tokens hp |>.trans_le hr⟩

-- Of a token only the label can be too much for an empty buffer. If the label is empty, it is the
-- separator that is put into the buffer first.
theorem overruns_pairPieces_iff (t : Tunnel) (ps : List String) :
    (∃ p ∈ (pairPieces t ++ ps).find? (· ≠ ""), Overruns (Text.utf8 p)) ↔
      Overruns (Text.utf8 t.label) := by
  have hs : ¬Overruns (Text.utf8 ":") := by decide
  have he : ¬Overruns [] := by decide
  by_cases hl : t.label = "" <;> simp [pairPieces, hl, hs, he]

theorem not_overruns_portPieces (ports : List String) :
    ¬∃ p ∈ (portPieces ports).find? (· ≠ ""), Overruns (Text.utf8 p) := by
  have hh : ¬Overruns (Text.utf8 header) := by decide
  have hn : header ≠ "" := by decide
  simp [portPieces, hn, hh]

end Output

namespace Document

-- The bytes that the extraction of a document writes where everything is taken.
def written (doc : Document) : Bytes :=
  (extract doc ({} : Collected)).2.sink.received.toList

-- What is said of output that is not taken. If not even an empty buffer holds the first label, the
-- device refuses the label; in all other cases it refuses what was held back until then.
def complaint (doc : Document) (refusal : Refusal) : WriteError :=
  if ∃ k ∈ doc.keys.head?, Overruns (Text.utf8 (Key.field k 3)) then refusal.error
  else flushError refusal.error

-- What the extraction reports if nothing that it writes is taken: what is wrong with the document,
-- if it gets there before anything has to leave the buffer.
def refused (doc : Document) (refusal : Refusal) : ExtractError :=
  match doc.error? with
  | none   => .output (doc.complaint refusal)
  | some e =>
    if lineFeed ∉ doc.written ∧ doc.written.length ≤ capacity then e
    else .output (doc.complaint refusal)

variable {doc : Document}

theorem written_eq (doc : Document) : doc.written = Output.bytes doc.script.pieces := by
  have ⟨_, hr⟩ := extract_collected doc {}
  rw [written, hr]
  simp

theorem fits_script_iff {e : ExtractError} (h : doc.error? = some e) :
    Fits #[] doc.script.pieces ↔ lineFeed ∉ doc.written ∧ doc.written.length ≤ capacity := by
  have ⟨_, _, _, _, _, _, hs⟩ := script_of_error? h
  rw [written_eq, hs]
  exact Output.fits_tokens_iff _

-- The header of the second section is a line.
theorem not_fits_script (h : doc.error? = none) : ¬Fits #[] doc.script.pieces := by
  have ⟨hb, _⟩ := script_of_isSound <| doc.isSound_iff_error?.mpr h
  have hl : lineFeed ∈ Text.utf8 "ports:\n" := by decide
  exact fun hf => hf.no_line <| by simp [hb, output, hl]

theorem overruns_tokens_iff {keys : List String} (hk : keys ≠ []) (ps : List String) :
    (∃ p ∈ ((keys.map Key.tunnel).flatMap Output.pairPieces ++ ps).find? (· ≠ ""),
        Overruns (Text.utf8 p)) ↔
      ∃ k ∈ keys.head?, Overruns (Text.utf8 (Key.field k 3)) := by
  have ⟨k, ks, hk⟩ := List.exists_cons_of_ne_nil hk
  rw [hk, List.map_cons, List.flatMap_cons, List.append_assoc, Output.overruns_pairPieces_iff]
  simp [Key.tunnel]

-- What is written first of a document that writes too much is its first label, if it has any.
theorem overruns_script_iff (h : ¬Fits #[] doc.script.pieces) :
    (∃ p ∈ doc.script.pieces.find? (· ≠ ""), Overruns (Text.utf8 p)) ↔
      ∃ k ∈ doc.keys.head?, Overruns (Text.utf8 (Key.field k 3)) := by
  cases he : doc.error?
  case none =>
    have ⟨_, _, hs⟩ := exists_script_eq <| doc.isSound_iff_error?.mpr he
    rw [hs]
    by_cases hk : doc.keys = []
    case pos => simpa [hk] using Output.not_overruns_portPieces doc.ports
    case neg => exact overruns_tokens_iff hk _
  case some e =>
    have ⟨before, place, after, hp, _, _, hs⟩ := script_of_error? he
    rw [hs] at h ⊢
    have ht : before.flatMap Place.tunnels = (before.flatMap Place.keys).map Key.tunnel := by
      rw [List.map_flatMap]
      rfl
    rw [ht] at h ⊢
    have hk : before.flatMap Place.keys ≠ [] := fun hn => h <| by
      simpa [hn] using fits_nil (Nat.zero_le _)
    rw [← doc.flatMap_places_keys, hp, List.flatMap_append, List.head?_append_of_ne_nil _ hk]
    simpa using overruns_tokens_iff hk []

end Document

theorem extract_accepting (doc : Document) (got : Array UInt8) :
    ∃ t : LineBuffer Device, t.Holding (got ++ doc.written) ∧
      (extract doc (⟨.accepting got, #[]⟩ : LineBuffer Device)).1 = doc.script.verdict ∧
      (extract doc (⟨.accepting got, #[]⟩ : LineBuffer Device)).2.sink = t := by
  have ⟨t, hw, ht⟩ := emits_writePieces doc.script.pieces _ _ (holding_accepting got)
  exact ⟨t, doc.written_eq ▸ ht, extract_of_taken hw⟩

section

variable {doc : Document} {refusal : Refusal}

theorem extract_refusing_of_fits (h : Fits #[] doc.script.pieces) :
    (extract doc (⟨.refusing refusal, #[]⟩ : LineBuffer Device)).1 = doc.script.verdict ∧
      (extract doc (⟨.refusing refusal, #[]⟩ : LineBuffer Device)).2.sink.behind =
        .refusing refusal := by
  have hw := writePieces_of_fits (s := ⟨Device.refusing refusal, #[]⟩) (by simp) h
  have ⟨hv, hs⟩ := extract_of_taken hw
  exact ⟨hv, congrArg behind hs⟩

theorem extract_refusing_of_not_fits (h : ¬Fits #[] doc.script.pieces) :
    (extract doc (⟨.refusing refusal, #[]⟩ : LineBuffer Device)).1 =
        .error (.output (doc.complaint refusal)) ∧
      (extract doc (⟨.refusing refusal, #[]⟩ : LineBuffer Device)).2.sink.behind =
        .refusing refusal := by
  have ⟨rest, hw⟩ := writePieces_refused h refusal
  simp only [Document.overruns_script_iff h] at hw
  have ⟨hv, hs⟩ := extract_of_refused hw
  exact ⟨hv, congrArg behind hs⟩

theorem extract_refusing (doc : Document) (refusal : Refusal) :
    (extract doc (⟨.refusing refusal, #[]⟩ : LineBuffer Device)).1 =
        .error (doc.refused refusal) ∧
      (extract doc (⟨.refusing refusal, #[]⟩ : LineBuffer Device)).2.sink.behind =
        .refusing refusal := by
  rw [Document.refused]
  split
  case h_1 he => exact extract_refusing_of_not_fits <| Document.not_fits_script he
  case h_2 e he =>
    split
    case isTrue hf =>
      rw [← Document.verdict_eq_error_iff.mpr he]
      exact extract_refusing_of_fits <| Document.fits_script_iff he |>.mpr hf
    case isFalse hf =>
      exact extract_refusing_of_not_fits <| mt (Document.fits_script_iff he).mp hf

end

namespace Run

-- The bytes that a run writes where everything is taken.
def written (fs : FileSystem) (source : Source) : Bytes :=
  (run fs source ({} : Collected)).sink.received.toList

-- What a run reports if nothing that it writes is taken.
def refused (fs : FileSystem) (source : Source) (refusal : Refusal) : Failure :=
  match document fs source with
  | .error f => f
  | .ok doc  => ⟨.extract, doc.refused refusal⟩

end Run

open Run

section

variable {fs : FileSystem} {source : Source}

theorem run_collected_of_error {f : Failure} (h : Run.document fs source = .error f) :
    (run fs source ({} : Collected)).outcome = .error f ∧ written fs source = [] := by
  have ⟨ho, hs⟩ := Prod.mk.inj <| run_of_error h ({} : Collected)
  exact ⟨ho, by rw [written, hs]⟩

theorem run_collected_of_ok {doc : Document} (h : Run.document fs source = .ok doc) :
    (run fs source ({} : Collected)).outcome =
        doc.script.verdict.mapError (⟨.extract, ·⟩) ∧
      written fs source = doc.written := by
  have ⟨ho, hs⟩ := Prod.mk.inj <| run_of_ok h ({} : Collected)
  have ⟨hv, _⟩ := extract_collected doc {}
  exact ⟨by rw [ho, hv], by rw [written, hs, Document.written]⟩

end

theorem run_accepting (fs : FileSystem) (source : Source) (got : Array UInt8) :
    ∃ t : LineBuffer Device, t.Holding (got ++ written fs source) ∧
      (run fs source (⟨.accepting got, #[]⟩ : LineBuffer Device)).shown =
        ((run fs source ({} : Collected)).outcome, t) := by
  cases h : Run.document fs source
  case error f =>
    have ⟨ho, hw⟩ := run_collected_of_error h
    refine ⟨⟨.accepting got, #[]⟩, ?_, ?_⟩
    case refine_1 => simpa [hw] using holding_accepting got
    case refine_2 => rw [run_of_error h, ho]
  case ok doc =>
    have ⟨ho, hw⟩ := run_collected_of_ok h
    have ⟨t, ht, hv, hs⟩ := extract_accepting doc got
    exact ⟨t, hw ▸ ht, by rw [run_of_ok h, ho, hv, hs]⟩

theorem run_refusing (fs : FileSystem) (source : Source) (refusal : Refusal) :
    ∃ t : LineBuffer Device, t.behind = .refusing refusal ∧
      (run fs source (⟨.refusing refusal, #[]⟩ : LineBuffer Device)).shown =
        (.error (refused fs source refusal), t) := by
  rw [refused]
  cases h : Run.document fs source
  case error f => exact ⟨_, rfl, run_of_error h _⟩
  case ok doc  =>
    have ⟨hv, hb⟩ := extract_refusing doc refusal
    exact ⟨_, hb, by rw [run_of_ok h, hv]; rfl⟩

section

variable {fs : FileSystem} {source : Source} {device : Device}

-- The buffer of a run to a device, when its last flush is over.
def bufferAfter (fs : FileSystem) (source : Source) (device : Device) : LineBuffer Device :=
  ((flush : Writing (LineBuffer Device) Unit)
    (run fs source (⟨device, #[]⟩ : LineBuffer Device)).sink).2

theorem runTo_sink (fs : FileSystem) (source : Source) (device : Device) :
    (runTo fs source device).sink = (bufferAfter fs source device).behind :=
  rfl

theorem runTo_of_flush {r : Except Failure Outcome} {b t : LineBuffer Device}
    (h : (run fs source (⟨device, #[]⟩ : LineBuffer Device)).shown = (r, b))
    (hf : flush b = (.ok (), t)) :
    (runTo fs source device).outcome = r.map Outcome.summary := by
  have ⟨ho, hs⟩ := Prod.mk.inj h
  change (do
    let o ← (run fs source (⟨device, #[]⟩ : LineBuffer Device)).outcome
    ((flush : Writing (LineBuffer Device) Unit)
      (run fs source (⟨device, #[]⟩ : LineBuffer Device)).sink).1.mapError _
    return o.summary) = _
  rw [ho, hs, hf]
  cases r <;> rfl

theorem runTo_of_error {f : Failure} {b : LineBuffer Device}
    (h : (run fs source (⟨device, #[]⟩ : LineBuffer Device)).shown = (.error f, b)) :
    (runTo fs source device).outcome = .error f := by
  have ⟨ho, _⟩ := Prod.mk.inj h
  change (run fs source (⟨device, #[]⟩ : LineBuffer Device)).outcome >>= _ = _
  rw [ho]
  rfl

theorem runTo_accepting (fs : FileSystem) (source : Source) (got : Array UInt8) :
    (runTo fs source (Device.accepting got)).outcome =
        (run fs source ({} : Collected)).outcome.map Outcome.summary ∧
      bufferAfter fs source (.accepting got) =
        ⟨.accepting (got ++ written fs source), #[]⟩ := by
  have ⟨t, ht, hs⟩ := run_accepting fs source got
  refine ⟨runTo_of_flush hs <| flush_of_holding ht, ?_⟩
  have ⟨_, hb⟩ := Prod.mk.inj hs
  rw [bufferAfter, hb, flush_of_holding ht]

theorem sink_runTo_accepting (fs : FileSystem) (source : Source) (got : Array UInt8) :
    (runTo fs source (Device.accepting got)).sink = .accepting (got ++ written fs source) := by
  have ⟨_, hb⟩ := runTo_accepting fs source got
  rw [runTo_sink, hb]

theorem runTo_refusing (fs : FileSystem) (source : Source) (refusal : Refusal) :
    (runTo fs source (Device.refusing refusal)).outcome = .error (refused fs source refusal) ∧
      (runTo fs source (Device.refusing refusal)).sink = .refusing refusal := by
  have ⟨t, ht, hs⟩ := run_refusing fs source refusal
  refine ⟨runTo_of_error hs, ?_⟩
  have ⟨_, hb⟩ := Prod.mk.inj hs
  have ⟨d, pending⟩ := t
  cases ht
  rw [runTo_sink, bufferAfter, hb, flush_refusing]

end

-- A run delivers what it reports: all that it writes to a device that takes everything, and
-- nothing, with a failure that says why, to one that refuses everything.
theorem runTo_delivers (fs : FileSystem) (source : Source) (got : Array UInt8)
    (refusal : Refusal) :
    ((runTo fs source (Device.accepting got)).outcome =
        (run fs source ({} : Collected)).outcome.map Outcome.summary ∧
      (runTo fs source (Device.accepting got)).sink = .accepting (got ++ written fs source) ∧
      bufferAfter fs source (.accepting got) = ⟨.accepting (got ++ written fs source), #[]⟩) ∧
    (runTo fs source (Device.refusing refusal)).outcome = .error (refused fs source refusal) ∧
      (runTo fs source (Device.refusing refusal)).sink = .refusing refusal := by
  have ⟨ho, hb⟩ := runTo_accepting fs source got
  exact ⟨⟨ho, sink_runTo_accepting fs source got, hb⟩, runTo_refusing fs source refusal⟩

end TunnelPorts
