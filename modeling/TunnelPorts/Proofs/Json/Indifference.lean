import TunnelPorts.Extract
import TunnelPorts.Proofs.Json.Level
import TunnelPorts.Proofs.Json.Prefix

/-!
Values that are skipped do not matter: put another one in the place of one of them, and the text
still spells the same document, or still has the same fault.
-/

namespace TunnelPorts

namespace Json

-- One value of some form, up to the blanks around it.
def IsValue (text : List Char) : Prop :=
  ∃ ws v ws', text = ws ++ v ++ ws' ∧ Blanks ws ∧ Formed .value v ∧ Blanks ws'

-- What comes of a text that begins with a value depends on what stands behind the value only.
def Reader.Ignores {σ α : Type} (r : Reader σ α) (s : σ) : Prop :=
  ∃ outcome : List Char → Except Fault (α × List Char),
    ∀ text rest, IsValue text → Terminated rest → r.scan s (text ++ rest) = outcome rest

-- Neither a blank nor the end of an array begins a value.
theorem Formed.exists_cons {v : List Char} (h : Formed .value v) :
    ∃ c ds, v = c :: ds ∧ isBlank c = false ∧ c ≠ ']' := by
  cases h
  case word w found hw =>
    simp [words] at hw
    rcases hw with ⟨rfl, -⟩ | ⟨rfl, -⟩ | ⟨rfl, -⟩
    all_goals exact ⟨_, _, rfl, rfl, by decide⟩
  case number n hn =>
    obtain ⟨c, q, l, ht, hq, _⟩ := Number.Numeral.exists_first hn
    refine ⟨c, _, ht, (Skip.begin_number hq).right, ?_⟩
    rintro rfl
    contradiction
  case text cs _     => exact ⟨'"', cs ++ ['"'], rfl, rfl, by decide⟩
  case blank b _ _   => cases b <;> exact ⟨_, _, rfl, rfl, by decide⟩
  case enclosed b _ _ => cases b <;> exact ⟨_, _, rfl, rfl, by decide⟩

namespace Skip

theorem scan_value {ws v rest : List Char} (hw : Blanks ws) (hv : Formed .value v)
    (hr : Terminated rest) : reader.scan (.value []) (ws ++ v ++ rest) = .ok ((), rest) :=
  reads.complete hw hv hr

end Skip

namespace Level

variable {σ α : Type} {child : Reader σ α} {text rest : List Char}

-- Where a skipped value may begin: as an item of an array that stands in the place of a level, or
-- where the level below has such a place.
inductive Awaits (inner : σ → Prop) : State σ α → Prop
  | first : Awaits inner (.array .opened)
  | next : Awaits inner (.array .comma)
  | member {es k s} : inner s → Awaits inner (.object es (.value k s))

namespace ItemState

theorem scan_item (s : Skip.State) (cs : List Char) :
    reader.scan (.item s) cs = Skip.reader.scan s cs >>= fun x => reader.scan .after x.2 := by
  apply Reader.scan_eq_bind (f := ItemState.item) (q := Skip.reader)
    (k := fun _ => reader.scan .after)
  · intro s
    simp only [Reader.scan, reader, stop]
    cases Skip.reader.stop s <;> rfl
  · intro s c cs
    simp only [Reader.scan, reader, step, inItem]
    cases Skip.reader.step s c <;> rfl

-- Behind an item it does not matter what the item was.
theorem scan_value (hv : IsValue text) (hr : Terminated rest) :
    reader.scan (.item Skip.reader.start) (text ++ rest) = reader.scan .after rest := by
  have ⟨ws, v, ws', ht, hw, hf, hw'⟩ := hv
  have hs := Skip.scan_value hw hf (.append hw' hr)
  rw [scan_item, ht, List.append_assoc, show Skip.reader.start = .value [] from rfl, hs]
  exact Reader.scan_blanks rest hw' fun c hc => by simp [reader, step, follow, hc]

-- An item may begin where no item was before.
theorem scan_begin {s : ItemState} (hs : s = .opened ∨ s = .comma) (hv : IsValue text)
    (rest : List Char) :
    reader.scan s (text ++ rest) = reader.scan (.item Skip.reader.start) (text ++ rest) := by
  have ⟨ws, v, ws', ht, hw, hf, _⟩ := hv
  have ⟨c, ds, hc, hb, hn⟩ := hf.exists_cons
  have hs' : ∀ c, isBlank c → reader.step s c = .more s := by
    rcases hs with rfl | rfl <;> exact fun c hc => by simp [reader, step, hc]
  have hi : ∀ c, isBlank c →
      reader.step (.item Skip.reader.start) c = .more (.item Skip.reader.start) :=
    fun c hc => by simp [reader, step, inItem, Skip.reader, Skip.State.step, hc]
  have hstep : s.step c = (ItemState.item Skip.reader.start).step c := by
    rcases hs with rfl | rfl <;> simp [step, hb, hn]
  rw [ht, hc]
  simp only [List.append_assoc]
  rw [Reader.scan_blanks _ hw hs', Reader.scan_blanks _ hw hi]
  simp only [List.cons_append, Reader.scan, reader, hstep]

theorem ignores {s : ItemState} (hs : s = .opened ∨ s = .comma) : reader.Ignores s := by
  refine ⟨reader.scan .after, fun text rest hv hr => ?_⟩
  rw [scan_begin hs hv, scan_value hv hr]

end ItemState

theorem ignores_array {s : ItemState} (hs : s = .opened ∨ s = .comma) :
    (reader child).Ignores (.array s) := by
  have ⟨outcome, h⟩ := ItemState.ignores hs
  refine ⟨fun rest => (outcome rest).map (Prod.map .notObject id), fun text rest hv hr => ?_⟩
  rw [Reader.scan_eq_map (f := State.array) (q := ItemState.reader) (fun _ _ => rfl) fun _ => rfl,
    h text rest hv hr]

theorem ignores_member {s : σ} (h : child.Ignores s) (es : Entries α) (k : String) :
    (reader child).Ignores (.object es (.value k s)) := by
  have ⟨outcome, h⟩ := h
  refine ⟨fun rest => outcome rest >>= fun x =>
    (reader child).scan (.object (es.insert k x.1) .after) x.2, fun text rest hv hr => ?_⟩
  rw [scan_value, h text rest hv hr]

-- The innermost value, whose trailing blanks are left to the object.
theorem ignores_innermost (es : Entries Unit) (k : String) :
    (reader Skip.reader).Ignores (.object es (.value k Skip.reader.start)) := by
  refine ⟨(reader Skip.reader).scan (.object (es.insert k ()) .after), fun text rest hv hr => ?_⟩
  have ⟨ws, v, ws', ht, hw, hf, hw'⟩ := hv
  have hs := Skip.scan_value hw hf (.append hw' hr)
  rw [scan_value, ht, List.append_assoc, show Skip.reader.start = .value [] from rfl, hs]
  exact Reader.scan_blanks rest hw' fun c hc => by simp [reader_step, step, stepObject, follow, hc]

theorem Awaits.ignores {inner : σ → Prop} (hi : ∀ s, inner s → child.Ignores s)
    {s : State σ α} (h : Awaits inner s) : (reader child).Ignores s := by
  cases h
  case first           => exact ignores_array (.inl rfl)
  case next            => exact ignores_array (.inr rfl)
  case member es k s h => exact ignores_member (hi s h) es k

end Level

-- A reader of documents that is about to read the value behind a tunnel key, or an item of an array
-- in the place of a level.
def AwaitsIgnored : DocumentState → Prop :=
  Level.Awaits (Level.Awaits (Level.Awaits (· = Skip.reader.start)))

theorem documentReader_ignores {s : DocumentState} (h : AwaitsIgnored s) :
    documentReader.Ignores s := by
  refine Level.Awaits.ignores (fun s hs => ?_) h
  refine Level.Awaits.ignores (fun s hs => ?_) hs
  cases hs
  case first           => exact Level.ignores_array (.inl rfl)
  case next            => exact Level.ignores_array (.inr rfl)
  case member es k s h => exact h ▸ Level.ignores_innermost es k

end Json

-- The text around the value is any text, whether it is one with a document or not.
theorem Document.ofText_ignores {pre v v' post : String} {s : Json.DocumentState}
    (hs : Json.documentReader.after? Json.documentReader.start pre.toList = some s)
    (ha : Json.AwaitsIgnored s) (hv : Json.IsValue v.toList) (hv' : Json.IsValue v'.toList)
    (hp : Json.Terminated post.toList) :
    (∃ doc, Document.ofText (pre ++ v ++ post) = .ok doc ∧
      Document.ofText (pre ++ v' ++ post) = .ok doc) ∨
    ∃ e e', Document.ofText (pre ++ v ++ post) = .error (.invalidJson e) ∧
      Document.ofText (pre ++ v' ++ post) = .error (.invalidJson e') ∧ e.fault = e'.fault := by
  have ⟨outcome, h⟩ := Json.documentReader_ignores ha
  have hscan := (h _ _ hv hp).trans (h _ _ hv' hp).symm
  have hp : (Document.parse (pre ++ v ++ post)).mapError Json.Error.fault =
      (Document.parse (pre ++ v' ++ post)).mapError Json.Error.fault := by
    simp only [Document.parse, Json.Reader.read, String.toList_append, List.append_assoc]
    exact Json.Reader.run_congr hs hscan
  simp only [Document.ofText]
  cases h : Document.parse (pre ++ v ++ post) <;> cases h' : Document.parse (pre ++ v' ++ post) <;>
    simp_all [Except.mapError]

theorem Document.ofText_ignores_deep :
    (∃ doc,
      Document.ofText ("\x7b\"s\":\x7b\"d\":\x7b\"k\":" ++ "[[1e999]]" ++ "\x7d\x7d\x7d") =
        .ok doc ∧
      Document.ofText ("\x7b\"s\":\x7b\"d\":\x7b\"k\":" ++ "\"\\ud800\"" ++ "\x7d\x7d\x7d") =
        .ok doc) ∨
    ∃ e e',
      Document.ofText ("\x7b\"s\":\x7b\"d\":\x7b\"k\":" ++ "[[1e999]]" ++ "\x7d\x7d\x7d") =
        .error (.invalidJson e) ∧
      Document.ofText ("\x7b\"s\":\x7b\"d\":\x7b\"k\":" ++ "\"\\ud800\"" ++ "\x7d\x7d\x7d") =
        .error (.invalidJson e') ∧
      e.fault = e'.fault := by
  have element {v : List Char} (h : Json.Formed .value v) :
      Json.Formed .value (Json.Bracket.array.enclose ([] ++ v ++ [])) :=
    .enclosed <| .last <| .element .nil h .nil
  have number : Json.Formed .value "1e999".toList :=
    .number (n := ⟨false, ['1'], none, some ⟨'e', none, ['9', '9', '9']⟩⟩)
      ⟨.inr (by simp [Json.Number.IsDigits]), by simp,
        by simpa using ⟨.inl rfl, by simp, by simp [Json.Number.IsDigits]⟩⟩
  have half : Json.Text.IsCode ['d', '8', '0', '0'] 0xD800 := ⟨rfl, by simp; decide, by decide⟩
  have surrogate : Json.Text.Shaped "\\ud800".toList := .code half .nil
  refine Document.ofText_ignores rfl (.member (.member (.member rfl))) ?_ ?_ ?_
  · exact ⟨[], _, [], rfl, .nil, element (element number), .nil⟩
  · exact ⟨[], _, [], rfl, .nil, .text surrogate, .nil⟩
  · simp [Json.Terminated]

end TunnelPorts
