import TunnelPorts.Proofs.Json.Document
import TunnelPorts.Proofs.Json.Ending
import TunnelPorts.Run

/-!
Truncated documents. Cut off anywhere before its last brace, a document is no document any more, and
the error says that it ends too early and where it ends. A number that is cut in two may be reported
as something else, for it can be a wrong number by itself.
-/

namespace TunnelPorts

namespace Json

-- The line and the column at the end of a text.
def Position.atEnd (cs : List Char) : Position where
  line := cs.count '\n' + 1
  column := ((cs.reverse.takeWhile (· ≠ '\n')).map Char.utf8Size).sum

theorem Position.after_eq_atEnd (cs : List Char) : ({} : Position).after cs = atEnd cs := by
  induction cs using List.reverseRecOn
  case nil => rfl
  case append_singleton cs c hi =>
    have hc : c.utf8Size ≠ 0 := c.utf8Size_pos.ne'
    rw [after_append, hi]
    by_cases hn : c = '\n'
    case pos => simp [hn ▸ hc, after, advance, within, atEnd, hn]
    case neg => simp [hc, after, advance, within, atEnd, hn, Nat.add_comm]

-- The cut between two texts goes through a number.
structure CutsNumber (pre post : List Char) : Prop where
  before : Ending.of pre = .numeric
  behind : ∃ c ∈ post.head?, isNumeric c

variable {σ α : Type}

-- Where the reader would carry on with `c`, the end of the text is reported as such, unless `c`
-- carries on a number.
def Reader.Truncates (r : Reader σ α) (P : σ → Ending → Prop) : Prop :=
  ∀ s q c f, P s q → (∀ e n, r.step s c ≠ .fail e n) → r.stop s = .error f →
    f.category = .truncated ∨ q = .numeric ∧ isNumeric c

namespace Number

-- Where a number is not wrong with `c` behind it, it goes on with `c` or is complete.
theorem Phase.isComplete_of_step {p : Phase} {c : Char} (hp : p.next? c = none)
    (hc : ∀ e n, p.step c ≠ .fail e n) : p.isComplete := by
  by_contra hn
  exact hc .invalidNumber 1 <| by simp [Phase.step, hp, Phase.refuses, hn]

theorem truncates_kept : kept.Truncates fun _ q => q = .numeric := by
  intro s q c f hs hc hf
  simp only [kept, State.step, State.stop] at hc hf
  cases hp : s.phase.next? c
  case some p => exact .inr ⟨hs, Phase.isNumeric_of_next? hp⟩
  case none   =>
    simp only [hp] at hc
    split at hf
    case isFalse => exact .inl <| Except.error.inj hf ▸ rfl
    case isTrue  =>
      by_cases hr : s.phase.refuses c
      case pos => exact absurd (if_pos hr) <| hc .invalidNumber 1
      case neg => exact absurd (by simp [hr, hf]) <| hc f 0

end Number

namespace Skip

theorem truncates : reader.Truncates State.Stands := by
  intro s q c f hs hc hf
  rw [reader_stop] at hf
  cases s
  case number w p =>
    simp only [reader_step, State.step] at hc
    cases hp : p.next? c
    case some p' => exact .inr ⟨hs, Number.Phase.isNumeric_of_next? hp⟩
    case none    =>
      have hr : p.isComplete := Number.Phase.isComplete_of_step hp fun e n h => by simp [h] at hc
      simp only [State.stop, Number.Phase.stop, hr] at hf
      cases w
      case nil      => cases hf
      case cons b o =>
        cases hf
        cases b <;> exact .inl rfl
  case opened b o | after b o =>
    cases hf
    cases b <;> exact .inl rfl
  all_goals
    cases hf
    exact .inl rfl

end Skip

namespace Level

theorem ItemState.truncates : ItemState.reader.Truncates ItemState.Stands := by
  intro s q c f hs hc hf
  cases hf
  cases s
  case item s =>
    have hc e n (h : Skip.reader.step s c = .fail e n) : False :=
      hc e n <| by simp [reader, step, inItem, h]
    simp only [ItemState.stop]
    cases h : Skip.reader.stop s
    case ok    => exact .inl rfl
    case error => exact Skip.truncates s q c _ hs hc h
  all_goals exact .inl rfl

variable {child : Reader σ α} {P : σ → Ending → Prop}

theorem truncates (h : child.Truncates P) : (reader child).Truncates (Stands P) := by
  intro s q c f hs hc hf
  rw [reader_stop] at hf
  rw [reader_step] at hc
  cases s
  case number s =>
    have hc e n (h : s.step c = .fail e n) : False := hc e n <| by simp [step, h, Step.map]
    cases hk : s.stop <;> simp [stop, hk, Except.map] at hf
    exact Number.truncates_kept s q c f hs hc (hf ▸ hk)
  case array s =>
    have hc e n (h : s.step c = .fail e n) : False := hc e n <| by simp [step, h, Step.map]
    cases hf
    exact ItemState.truncates s q c _ hs hc rfl
  case object es s =>
    cases s
    case value k s =>
      have hc e n (h : child.step s c = .fail e n) : False :=
        hc e n <| by simp [step, stepObject, h]
      simp only [stop] at hf
      cases hk : child.stop s <;> simp only [hk] at hf <;> cases hf
      case ok    => exact .inl rfl
      case error => exact h s q c f hs hc hk
    all_goals
      cases hf
      exact .inl rfl
  all_goals
    cases hf
    exact .inl rfl

-- Only a number can end where the text ends, and no number is an object.
theorem stop_of_object {s : State σ α} {p : Position} {cs : List Char} {es : Entries α}
    (h : (reader child).run s p cs = .ok (.object es)) : ∃ f, (reader child).stop s = .error f := by
  cases hs : (reader child).stop s
  case error f => exact ⟨f, rfl⟩
  case ok lvl =>
    rw [reader_stop] at hs
    cases s
    case number s =>
      have ⟨rest, h, _⟩ := Reader.run_eq_ok_iff.mp h
      have ⟨_, hl⟩ := scan_number_iff.mp h
      cases hl
    case object es s =>
      cases s
      case value k s => cases hc : child.stop s <;> simp [stop, hc] at hs
      all_goals cases hs
    all_goals cases hs

end Level

-- The possible endings of a text behind which a document is read in some state.
def documentStands : DocumentState → Ending → Prop :=
  Level.Stands (Level.Stands (Level.Stands Skip.State.Stands))

theorem documentReader_keeps : documentReader.Keeps documentStands Ending.IsOutside := by
  refine Level.keeps (Level.keeps (Level.keeps Skip.keeps ?_) ?_) ?_
  all_goals exact fun q => id

theorem documentReader_truncates : documentReader.Truncates documentStands :=
  Level.truncates <| Level.truncates <| Level.truncates Skip.truncates

theorem documentReader_truncated {pre post : List Char} {es : Entries Site}
    (h : documentReader.run documentReader.start {} (pre ++ post) = .ok (.object es))
    (hp : ¬Blanks post) :
    ∃ f, documentReader.run documentReader.start {} pre = .error ⟨f, .atEnd pre⟩ ∧
      (¬CutsNumber pre post → f.category = .truncated) := by
  have ⟨t, ht⟩ := Reader.exists_after? h hp
  have hs : documentStands t (Ending.of pre) :=
    documentReader_keeps.after? (s := documentReader.start) Ending.isOutside_plain ht
  rw [Reader.run_append ht] at h
  have ⟨f, hf⟩ := Level.stop_of_object h
  refine ⟨f, ?_, fun hn => ?_⟩
  · have hr := Reader.run_append (p := {}) ht []
    rw [List.append_nil] at hr
    rw [hr, Reader.run, documentReader, hf, Position.after_eq_atEnd]
    rfl
  · cases post
    case nil         => exact absurd Blanks.nil hp
    case cons c post =>
      have hc e n (hc : documentReader.step t c = .fail e n) : False := by
        simp [Reader.run, hc] at h
      cases documentReader_truncates t _ c f hs hc hf
      case inl ht => exact ht
      case inr hc => exact absurd ⟨hc.left, c, rfl, hc.right⟩ hn

end Json

-- The last brace of a text that spells an object is the object's own.
theorem Document.exists_closing {text : String} {es : Entries Site}
    (h : Document.parse text = .ok (.object es)) :
    ∃ body ws, text.toList = body ++ '\x7d' :: ws ∧ Json.Blanks ws := by
  have ⟨ws, v, ws', ht, _, hw', hv⟩ := Document.parse_eq_ok_iff.mp h
  have hb cs : ws ++ Json.Bracket.object.enclose cs ++ ws' =
      (ws ++ '\x7b' :: cs) ++ '\x7d' :: ws' := by
    simp [Json.Bracket.enclose_append, Json.Bracket.opening, Json.Bracket.closing]
  cases hv
  case emptyObject cs _ => exact ⟨_, ws', ht.trans (hb cs), hw'⟩
  case object cs _ _ _  => exact ⟨_, ws', ht.trans (hb cs), hw'⟩

-- Nothing is written before the whole text is read.
theorem run_of_ofText_error {σ : Type} [Sink σ] {fs : FileSystem} {source : Source} {text : String}
    {e : ExtractError} (ht : (Run.text fs source).1 = .ok text)
    (he : Document.ofText text = .error e) (sink : σ) :
    (run fs source sink).outcome = .error ⟨.parse, e⟩ ∧ (run fs source sink).sink = sink := by
  have hp : Run.parse text = .error ⟨.parse, e⟩ := by simp [Run.parse, he, Except.mapError]
  simp [run, ht, Except.bind, hp]

theorem Document.ofText_truncated {text : String} {es : Entries Site}
    (h : Document.ofText text = .ok (.object es)) :
    ∃ body ws, text.toList = body ++ '\x7d' :: ws ∧ Json.Blanks ws ∧
      ∀ pre post, body = pre ++ post → ∃ e : Json.Error,
        Document.ofText (.ofList pre) = .error (.invalidJson e) ∧
        e.position = .atEnd pre ∧
        (¬Json.CutsNumber pre post → e.fault.category = .truncated) ∧
        ∀ (σ : Type) [Sink σ] (fs : FileSystem) (source : Source) (sink : σ),
          (Run.text fs source).1 = .ok (.ofList pre) →
            (run fs source sink).outcome = .error ⟨.parse, .invalidJson e⟩ ∧
            (run fs source sink).sink = sink := by
  have h := Document.ofText_eq_ok_iff.mp h
  have ⟨body, ws, ht, hw⟩ := Document.exists_closing h
  refine ⟨body, ws, ht, hw, fun pre post hb => ?_⟩
  rw [Document.parse, Json.Reader.read, ht, hb, List.append_assoc] at h
  have hp : ¬Json.Blanks (post ++ '\x7d' :: ws) := fun hb => absurd (hb '\x7d' (by simp)) (by decide)
  have ⟨f, hf, hc⟩ := Json.documentReader_truncated h hp
  have he : Document.ofText (.ofList pre) = .error (.invalidJson ⟨f, .atEnd pre⟩) := by
    simp [Document.ofText, Document.parse, Json.Reader.read, hf, Except.mapError]
  refine ⟨⟨f, .atEnd pre⟩, he, rfl, fun hn => hc fun hcut => hn ⟨hcut.before, ?_⟩, ?_⟩
  · obtain ⟨c, hc, hcn⟩ := hcut.behind
    cases post
    case cons _ _ => exact ⟨c, hc, hcn⟩
    case nil      =>
      cases hc
      contradiction
  · intro σ _ fs source sink hs
    exact run_of_ofText_error hs he sink

theorem Document.ofText_truncated_nested :
    ∃ body ws, "\x7b\"s\":\n\x7b\"d\": \x7b\"\\u00e4\": [-1e2]\x7d\x7d\x7d ".toList =
        body ++ '\x7d' :: ws ∧ Json.Blanks ws ∧
      ∀ pre post, body = pre ++ post → ∃ e : Json.Error,
        Document.ofText (.ofList pre) = .error (.invalidJson e) ∧
        e.position = .atEnd pre ∧
        (¬Json.CutsNumber pre post → e.fault.category = .truncated) := by
  have h : Document.ofText "\x7b\"s\":\n\x7b\"d\": \x7b\"\\u00e4\": [-1e2]\x7d\x7d\x7d " =
      .ok (.object _) := rfl
  have ⟨body, ws, ht, hw, h⟩ := Document.ofText_truncated h
  refine ⟨body, ws, ht, hw, fun pre post hb => ?_⟩
  have ⟨e, he, hp, hc, _⟩ := h pre post hb
  exact ⟨e, he, hp, hc⟩

-- A minus by itself is a wrong number.
example :
    Document.ofText "\x7b\"s\":\n\x7b\"d\": \x7b\"k\": -" =
      .error (.invalidJson ⟨.invalidNumber, 2, 13⟩) := by
  rfl

end TunnelPorts
