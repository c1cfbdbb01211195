import TunnelPorts.Proofs.Json.Measure
import TunnelPorts.Proofs.Json.Text

/-!
Values are skipped if they have a form. A value within brackets is skipped as it is without them,
and then what follows the items of the innermost bracket is. This is why only values without
brackets around them, and items of one bracket, need to be looked at.
-/

namespace TunnelPorts.Json.Skip

open Json.Bracket (array object)

namespace State

-- The same state, with brackets put around everything.
def within (outer : List Bracket) : State → State
  | value w         => value (w ++ outer)
  | opened b o      => opened b (o ++ outer)
  | after b o       => after b (o ++ outer)
  | key o           => key (o ++ outer)
  | keyText o t     => keyText (o ++ outer) t
  | colon o         => colon (o ++ outer)
  | word w next ds  => word (w ++ outer) next ds
  | number w p      => number (w ++ outer) p
  | text w t        => text (w ++ outer) t

variable {b : Bracket} {outer : List Bracket} {c : Char}

-- What a step becomes when the brackets are put around it: where it was the last one, the value is
-- an item now.
def enclosed (b : Bracket) (outer : List Bracket) (c : Char) : Step State Unit → Step State Unit
  | .more s   => .more (s.within (b :: outer))
  | .last _   => .more (after b outer)
  | .past _   => follow b outer c
  | .fail e n => .fail e n

theorem complete_within (w : List Bracket) :
    complete (w ++ b :: outer) = enclosed b outer c (complete w) := by
  cases w <;> rfl

theorem begin_within (w : List Bracket) :
    begin (w ++ b :: outer) c = enclosed b outer c (begin w c) := by
  simp only [begin]
  split
  case h_7 => cases Number.Phase.first? c <;> rfl
  all_goals rfl

theorem follow_within (b' : Bracket) (o : List Bracket) :
    follow b' (o ++ b :: outer) c = enclosed b outer c (follow b' o c) := by
  simp only [follow]
  split
  case isTrue => rfl
  split
  case isTrue => exact complete_within o
  split
  case isTrue  => cases b' <;> rfl
  case isFalse => rfl

theorem beginKey_within (o : List Bracket) :
    beginKey (o ++ b :: outer) c = enclosed b outer c (beginKey o c) := by
  simp only [beginKey]
  split <;> rfl

theorem step_within (s : State) :
    (s.within (b :: outer)).step c = enclosed b outer c (s.step c) := by
  cases s
  all_goals simp only [within, step]
  case value w =>
    split
    case isTrue  => rfl
    case isFalse => exact begin_within w
  case opened b' o =>
    split
    case isTrue  => rfl
    split
    case isTrue  => exact complete_within o
    case isFalse =>
      cases b'
      case array  => exact begin_within (array :: o)
      case object => exact beginKey_within o
  case after b' o => exact follow_within b' o
  case key o =>
    split
    case isTrue  => rfl
    case isFalse => exact beginKey_within o
  case keyText o t => cases t.step c <;> rfl
  case colon o =>
    split
    case isTrue  => rfl
    case isFalse => split <;> rfl
  case word w next ds =>
    split
    case isFalse => rfl
    case isTrue  =>
      cases ds
      case nil      => exact complete_within w
      case cons _ _ => rfl
  case number w p =>
    cases p.step c
    case more _   => rfl
    case fail _ _ => rfl
    all_goals cases w
    case last.nil | past.nil   => rfl
    case last.cons | past.cons => exact follow_within _ _
  case text w t =>
    cases t.step c
    case more _            => rfl
    case fail _ _          => rfl
    case last _ | past _ => exact complete_within w

theorem stop_within (s : State) :
    (s.within (b :: outer)).stop = s.stop >>= fun _ => .error b.unfinished := by
  cases s <;> try rfl
  case number w p => cases h : p.stop <;> cases w <;> simp [within, stop, h] <;> rfl

end State

theorem reader_step : reader.step = State.step :=
  rfl

theorem reader_stop : reader.stop = State.stop :=
  rfl

-- The only way out of the inner brackets is to complete the value.
theorem scan_within {s : State} {b : Bracket} {outer : List Bracket} {cs : List Char}
    {x : Unit × List Char} :
    reader.scan (s.within (b :: outer)) cs = .ok x ↔
      ∃ rest, reader.scan s cs = .ok ((), rest) ∧ reader.scan (.after b outer) rest = .ok x := by
  rw [Reader.scan_bind (f := State.within (b :: outer)) (q := reader)
    (k := fun _ => reader.scan (.after b outer))]
  case nil =>
    intro s
    simp only [Reader.scan, reader_stop, State.stop_within]
    cases s.stop <;> rfl
  case cons =>
    intro s c cs
    simp only [Reader.scan, reader_step, State.step_within]
    cases s.step c <;> rfl
  constructor
  · rintro ⟨_, h⟩
    exact h
  · intro h
    exact ⟨(), h⟩

variable {c : Char} {cs rest : List Char} {x : Unit × List Char}

theorem scan_word_iff {ds : List Char} :
    reader.scan (.word [] c ds) cs = .ok ((), rest) ↔ cs = c :: ds ++ rest := by
  induction ds generalizing c cs
  all_goals
    cases cs
    case nil => simp [Reader.scan, reader_stop, State.stop, Except.map]
  case nil.cons d cs =>
    by_cases hd : d = c <;> simp [Reader.scan, reader_step, State.step, State.complete, hd]
  case cons.cons e es hi d cs =>
    by_cases hd : d = c <;> simp [Reader.scan, reader_step, State.step, hd]
    exact hi

theorem scan_number_iff {p : Number.Phase} :
    reader.scan (.number [] p) cs = .ok x ↔ Number.skipped.scan p cs = .ok x := by
  rw [Reader.scan_bind (f := State.number []) (q := Number.skipped) (k := fun _ ds => .ok ((), ds))]
  case nil =>
    intro p
    simp only [Reader.scan, reader_stop, State.stop, Number.skipped]
    cases p.stop <;> rfl
  case cons =>
    intro p c cs
    simp only [Reader.scan, reader_step, State.step, Number.skipped]
    cases h : p.step c
    case last => exact absurd h <| p.step_ne_last c ()
    all_goals rfl
  obtain ⟨_, rest⟩ := x
  constructor
  · rintro ⟨_, _, h, hx⟩
    exact Except.ok.inj hx ▸ h
  · intro h
    exact ⟨_, rest, h, rfl⟩

theorem scan_text_iff :
    reader.scan (.text [] .plain) cs = .ok x ↔ Text.Shape.reader.scan .plain cs = .ok x := by
  rw [Reader.scan_bind (f := State.text []) (q := Text.Shape.reader)
    (k := fun _ ds => .ok ((), ds)) fun _ => rfl]
  case cons =>
    intro t c cs
    simp only [Reader.scan, reader_step, State.step, Text.Shape.reader]
    cases h : t.step c
    case past => exact absurd h <| t.step_ne_past c ()
    all_goals rfl
  obtain ⟨_, rest⟩ := x
  constructor
  · rintro ⟨_, _, h, hx⟩
    exact Except.ok.inj hx ▸ h
  · intro h
    exact ⟨_, rest, h, rfl⟩

theorem scan_keyText_iff :
    reader.scan (.keyText [] .plain) cs = .ok x ↔
      ∃ ds, Text.Shape.reader.scan .plain cs = .ok ((), ds) ∧
        reader.scan (.colon []) ds = .ok x := by
  rw [Reader.scan_bind (f := State.keyText []) (q := Text.Shape.reader)
    (k := fun _ => reader.scan (.colon [])) fun _ => rfl]
  case cons =>
    intro t c cs
    simp only [Reader.scan, reader_step, State.step, Text.Shape.reader]
    cases h : t.step c
    case past => exact absurd h <| t.step_ne_past c ()
    all_goals rfl
  constructor
  · rintro ⟨_, h⟩
    exact h
  · intro h
    exact ⟨(), h⟩

-- Where an item of a bracket may begin.
def item : Bracket → State
  | array  => .value [array]
  | object => .key []

theorem step_item_blank {b : Bracket} (hc : isBlank c) : (item b).step c = .more (item b) := by
  cases b <;> simp [item, State.step, hc]

theorem step_item_closing (b : Bracket) : ∃ e n, (item b).step b.closing = .fail e n := by
  cases b <;> exact ⟨_, _, rfl⟩

theorem step_opened {b : Bracket} (hc : isBlank c = false) (hb : c ≠ b.closing) :
    (State.opened b []).step c = (item b).step c := by
  cases b <;> simp [item, State.step, hc, hb]

-- The first item may stand where any other may.
theorem scan_opened {b : Bracket} (h : reader.scan (item b) cs = .ok x) :
    reader.scan (.opened b []) cs = .ok x := by
  obtain ⟨ws, ds, hcs, hw, hd, h⟩ := Reader.exists_scan_blanks (r := reader)
    (fun _ => step_item_blank) h
  rw [hcs, Reader.scan_blanks ds hw fun c hc => by simp [reader_step, State.step, hc]]
  cases ds
  case nil       => cases b <;> simp [item, Reader.scan, reader_stop, State.stop, Except.map] at h
  case cons c ds =>
    simp at hd
    by_cases hc : c = b.closing
    case pos =>
      obtain ⟨e, n, he⟩ := step_item_closing b
      simp [Reader.scan, reader_step, hc, he] at h
    case neg =>
      simp only [Reader.scan, reader_step] at h ⊢
      rw [step_opened hd hc]
      exact h

-- What stands behind an item.
theorem exists_after {b : Bracket} (h : reader.scan (.after b []) cs = .ok ((), rest)) :
    ∃ ws, Blanks ws ∧ (cs = ws ++ b.closing :: rest ∨
      ∃ ds, cs = ws ++ ',' :: ds ∧ reader.scan (item b) ds = .ok ((), rest)) := by
  have ⟨ws, ds, hcs, hw, hd, h⟩ := Reader.exists_scan_blanks (r := reader)
    (fun c hc => by simp [reader_step, State.step, State.follow, hc]) h
  refine ⟨ws, hw, ?_⟩
  cases ds
  case nil       => simp [Reader.scan, reader_stop, State.stop, Except.map] at h
  case cons c ds =>
    simp at hd
    by_cases hb : c = b.closing
    case pos =>
      simp [Reader.scan, reader_step, State.step, State.follow, State.complete, hb, hb ▸ hd] at h
      exact .inl <| by rw [hcs, hb, h]
    by_cases hc : c = ','
    case pos =>
      rw [hc] at h
      refine .inr ⟨ds, by rw [hcs, hc], ?_⟩
      cases b <;> exact h
    case neg => simp [Reader.scan, reader_step, State.step, State.follow, hd, hb, hc] at h

-- What is to be shown of every text at once, for values contain items and items values.
def ValueSound (cs : List Char) : Prop :=
  ∀ rest, reader.scan (.value []) cs = .ok ((), rest) →
    ∃ ws v, cs = ws ++ v ++ rest ∧ Blanks ws ∧ Formed .value v

def ItemsSound (b : Bracket) (cs : List Char) : Prop :=
  ∀ rest, reader.scan (item b) cs = .ok ((), rest) →
    ∃ is, cs = is ++ b.closing :: rest ∧ Formed (.items b) is

theorem exists_opened {b : Bracket} (hi : ItemsSound b cs)
    (h : reader.scan (.opened b []) cs = .ok ((), rest)) :
    ∃ body, cs = body ++ b.closing :: rest ∧ (Blanks body ∨ Formed (.items b) body) := by
  obtain ⟨ws, ds, hcs, hw, hd, h⟩ := Reader.exists_scan_blanks (r := reader)
    (fun c hc => by simp [reader_step, State.step, hc]) h
  cases ds
  case nil       => simp [Reader.scan, reader_stop, State.stop, Except.map] at h
  case cons c ds =>
    simp at hd
    by_cases hb : c = b.closing
    case pos =>
      simp [Reader.scan, reader_step, State.step, State.complete, hb, hb ▸ hd] at h
      exact ⟨ws, by rw [hcs, hb, h], .inl hw⟩
    case neg =>
      have h : reader.scan (item b) cs = .ok ((), rest) := by
        rw [hcs, Reader.scan_blanks _ hw fun _ => step_item_blank]
        simp only [Reader.scan, reader_step] at h ⊢
        rw [step_opened hd hb] at h
        exact h
      obtain ⟨is, hcs, hf⟩ := hi rest h
      exact ⟨is, hcs, .inr hf⟩

theorem formed_enclose {b : Bracket} {body : List Char}
    (h : Blanks body ∨ Formed (.items b) body) : Formed .value (b.enclose body) := by
  cases h
  case inl h => exact .blank h
  case inr h => exact .enclosed h

theorem scan_begin (hc : isBlank c = false) :
    reader.scan (.value []) (c :: cs) =
      match State.begin [] c with
      | .more s   => reader.scan s cs
      | .last u   => .ok (u, cs)
      | .past u   => .ok (u, c :: cs)
      | .fail e _ => .error e := by
  have hs : reader.step (.value []) c = State.begin [] c := by simp [reader_step, State.step, hc]
  simp only [Reader.scan, hs]
  cases State.begin [] c <;> rfl

-- `c` is the first character of the value.
theorem exists_begin (hc : isBlank c = false) (hi : ∀ b, ItemsSound b cs)
    (h : reader.scan (.value []) (c :: cs) = .ok ((), rest)) :
    ∃ v, c :: cs = v ++ rest ∧ Formed .value v := by
  rw [scan_begin hc] at h
  revert h
  fun_cases State.begin [] c
  case case1 =>
    intro h
    have ⟨body, hb, hcs⟩ := Text.Shape.exists_shaped <| scan_text_iff.mp h
    exact ⟨quoted body, by simp [quoted, hcs], .text hb⟩
  case case2 =>
    intro h
    have ⟨body, hcs, hb⟩ := exists_opened (hi array) h
    exact ⟨array.enclose body, by rw [hcs, array.enclose_append]; rfl, formed_enclose hb⟩
  case case3 =>
    intro h
    have ⟨body, hcs, hb⟩ := exists_opened (hi object) h
    exact ⟨object.enclose body, by rw [hcs, object.enclose_append]; rfl, formed_enclose hb⟩
  case case4 =>
    intro h
    exact ⟨"null".toList, congrArg ('n' :: ·) <| scan_word_iff.mp h, .word (by simp [words]; rfl)⟩
  case case5 =>
    intro h
    exact ⟨"true".toList, congrArg ('t' :: ·) <| scan_word_iff.mp h, .word (by simp [words]; rfl)⟩
  case case6 =>
    intro h
    exact ⟨"false".toList, congrArg ('f' :: ·) <| scan_word_iff.mp h, .word (by simp [words]; rfl)⟩
  case case7 p hp _ _ _ _ _ _ =>
    rw [hp]
    intro h
    have ⟨l, hl, hcs⟩ := Number.exists_path_of_skipped (scan_number_iff.mp h)
    have ⟨n, hn, ht, _⟩ := Number.exists_numeral hp hl
    exact ⟨n.text, by rw [hcs, ← ht]; rfl, .number hn⟩
  case case8 hp _ _ _ _ _ _ => simp [hp]

theorem exists_colon (h : reader.scan (.colon []) cs = .ok x) :
    ∃ ws ds, cs = ws ++ ':' :: ds ∧ Blanks ws ∧ reader.scan (.value [object]) ds = .ok x := by
  have ⟨ws, ds, hcs, hw, hd, h⟩ := Reader.exists_scan_blanks (r := reader)
    (fun c hc => by simp [reader_step, State.step, hc]) h
  cases ds
  case nil       => simp [Reader.scan, reader_stop, State.stop, Except.map] at h
  case cons c ds =>
    simp at hd
    by_cases hc : c = ':' <;> simp [Reader.scan, reader_step, State.step, hd, hc] at h
    exact ⟨ws, ds, by rw [hcs, hc], hw, h⟩

theorem exists_key (h : reader.scan (.key []) cs = .ok x) :
    ∃ ws k ws₁ ds, cs = ws ++ quoted k ++ ws₁ ++ ':' :: ds ∧ Blanks ws ∧ Text.Shaped k ∧
      Blanks ws₁ ∧ reader.scan (.value [object]) ds = .ok x := by
  obtain ⟨ws, ds, hcs, hw, hd, h⟩ := Reader.exists_scan_blanks (r := reader)
    (fun c hc => by simp [reader_step, State.step, hc]) h
  cases ds
  case nil       => simp [Reader.scan, reader_stop, State.stop, Except.map] at h
  case cons c ds =>
    simp at hd
    by_cases hc : c = '"' <;>
      simp [Reader.scan, reader_step, State.step, State.beginKey, hd, hc] at h
    obtain ⟨es, hk, h⟩ := scan_keyText_iff.mp h
    obtain ⟨k, hk, hds⟩ := Text.Shape.exists_shaped hk
    obtain ⟨ws₁, fs, hes, hw₁, h⟩ := exists_colon h
    exact ⟨ws, k, ws₁, fs, by simp [hcs, hc, hds, hes, quoted], hw, hk, hw₁, h⟩

-- A value within a bracket, and what stands behind it.
theorem exists_inner {b : Bracket} (hv : ValueSound cs)
    (h : reader.scan (.value [b]) cs = .ok ((), rest)) :
    ∃ ws v ws', Blanks ws ∧ Formed .value v ∧ Blanks ws' ∧
      (cs = ws ++ v ++ ws' ++ b.closing :: rest ∨
        ∃ ds, cs = ws ++ v ++ ws' ++ ',' :: ds ∧ reader.scan (item b) ds = .ok ((), rest)) := by
  have ⟨ds, h, ha⟩ := (scan_within (s := .value [])).mp h
  have ⟨ws, v, hcs, hw, hf⟩ := hv ds h
  have ⟨ws', hw', ha⟩ := exists_after ha
  refine ⟨ws, v, ws', hw, hf, hw', ?_⟩
  cases ha
  case inl ha => exact .inl <| by simp [hcs, ha]
  case inr ha =>
    have ⟨es, hes, h⟩ := ha
    exact .inr ⟨es, by simp [hcs, hes], h⟩

theorem exists_item {b : Bracket} (hv : ∀ ds, ds.length ≤ cs.length → ValueSound ds)
    (h : reader.scan (item b) cs = .ok ((), rest)) :
    ∃ i, Formed (.item b) i ∧ (cs = i ++ b.closing :: rest ∨
      ∃ ds, cs = i ++ ',' :: ds ∧ reader.scan (item b) ds = .ok ((), rest)) := by
  cases b
  case array =>
    have ⟨ws, v, ws', hw, hf, hw', h⟩ := exists_inner (hv cs (Nat.le_refl _)) h
    exact ⟨ws ++ v ++ ws', .element hw hf hw', h⟩
  case object =>
    have ⟨ws, k, ws₁, ds, hcs, hw, hk, hw₁, h⟩ := exists_key h
    have hl : ds.length ≤ cs.length := by simp [hcs]; omega
    have ⟨ws₂, v, ws', hw₂, hf, hw', h⟩ := exists_inner (hv ds hl) h
    refine ⟨ws ++ quoted k ++ ws₁ ++ ':' :: ws₂ ++ v ++ ws', .member hw hk hw₁ hw₂ hf hw', ?_⟩
    cases h
    case inl h => exact .inl <| by simp [hcs, h]
    case inr h =>
      have ⟨es, hes, h⟩ := h
      exact .inr ⟨es, by simp [hcs, hes], h⟩

-- By the length of the text: an item is shorter than what is enclosed with it, and a member is
-- longer than its value.
theorem sound (n : Nat) : ∀ cs, cs.length < n → ValueSound cs ∧ ∀ b, ItemsSound b cs := by
  induction n
  case zero      => simp
  case succ n hi =>
    have hv cs (hn : cs.length < n + 1) : ValueSound cs := by
      intro rest h
      obtain ⟨ws, ds, hcs, hw, hd, h⟩ := Reader.exists_scan_blanks (r := reader)
        (fun c hc => by simp [reader_step, State.step, hc]) h
      cases ds
      case nil       => simp [Reader.scan, reader_stop, State.stop, Except.map] at h
      case cons c ds =>
        have hl : ds.length < n := by
          simp [hcs] at hn
          omega
        obtain ⟨v, hv, hf⟩ := exists_begin (by simpa using hd) (hi ds hl).right h
        exact ⟨ws, v, by simp [hcs, hv], hw, hf⟩
    intro cs hn
    refine ⟨hv cs hn, fun b rest h => ?_⟩
    obtain ⟨i, hf, h⟩ := exists_item (fun ds hl => hv ds (Nat.lt_of_le_of_lt hl hn)) h
    cases h
    case inl h => exact ⟨i, h, .last hf⟩
    case inr h =>
      obtain ⟨ds, hcs, h⟩ := h
      have hl : ds.length < n := by
        simp [hcs] at hn
        omega
      obtain ⟨is, hds, hfs⟩ := (hi ds hl).right b rest h
      exact ⟨i ++ ',' :: is, by simp [hcs, hds], .cons hf hfs⟩

theorem begin_number {p : Number.Phase} (h : Number.Phase.first? c = some p) :
    State.begin [] c = .more (.number [] p) ∧ isBlank c = false := by
  constructor
  · fun_cases State.begin [] c
    case case7 q hq _ _ _ _ _ _ => simp [hq, ← Option.some.inj (h.symm.trans hq)]
    all_goals simp_all
    all_goals contradiction
  · cases hc : isBlank c
    case false => rfl
    case true  =>
      simp [isBlank] at hc
      rcases hc with ((rfl | rfl) | rfl) | rfl <;> contradiction

theorem scan_brackets (b : Bracket) (cs : List Char) :
    reader.scan (.value []) (b.opening :: cs) = reader.scan (.opened b []) cs := by
  cases b <;> rfl

theorem scan_closing (b : Bracket) (rest : List Char) :
    reader.scan (.opened b []) (b.closing :: rest) = .ok ((), rest) := by
  cases b <;> rfl

theorem scan_opened_blanks {b : Bracket} {ws : List Char} (hw : Blanks ws) (rest : List Char) :
    reader.scan (.opened b []) (ws ++ rest) = reader.scan (.opened b []) rest :=
  Reader.scan_blanks rest hw fun c hc => by simp [reader_step, State.step, hc]

theorem scan_after_closing (b : Bracket) (rest : List Char) :
    reader.scan (.after b []) (b.closing :: rest) = .ok ((), rest) := by
  cases b <;> rfl

theorem scan_after_comma (b : Bracket) (rest : List Char) :
    reader.scan (.after b []) (',' :: rest) = reader.scan (item b) rest := by
  cases b <;> rfl

theorem scan_after_blanks {b : Bracket} {ws : List Char} (hw : Blanks ws) (rest : List Char) :
    reader.scan (.after b []) (ws ++ rest) = reader.scan (.after b []) rest :=
  Reader.scan_blanks rest hw fun c hc => by simp [reader_step, State.step, State.follow, hc]

theorem scan_value_blanks {ws : List Char} (hw : Blanks ws) (rest : List Char) :
    reader.scan (.value []) (ws ++ rest) = reader.scan (.value []) rest :=
  Reader.scan_blanks rest hw fun c hc => by simp [reader_step, State.step, hc]

-- The same the other way round, by the form of the text.
def Complete : Part → List Char → Prop
  | .value, v   => ∀ rest, Terminated rest → reader.scan (.value []) (v ++ rest) = .ok ((), rest)
  | .item b, i  => ∀ rest x, Terminated rest → reader.scan (.after b []) rest = .ok x →
    reader.scan (item b) (i ++ rest) = .ok x
  | .items b, is => ∀ rest, reader.scan (item b) (is ++ b.closing :: rest) = .ok ((), rest)

theorem scan_inner {b : Bracket} {ws v ws' : List Char} (hw : Blanks ws) (hv : Complete .value v)
    (hw' : Blanks ws') (hr : Terminated rest) (ha : reader.scan (.after b []) rest = .ok x) :
    reader.scan (.value [b]) (ws ++ v ++ ws' ++ rest) = .ok x := by
  refine (scan_within (s := .value [])).mpr ⟨ws' ++ rest, ?_, ?_⟩
  · simp only [List.append_assoc]
    rw [scan_value_blanks hw]
    exact hv _ (.append hw' hr)
  · rw [scan_after_blanks hw']
    exact ha

theorem complete {p : Part} {cs : List Char} (h : Formed p cs) : Complete p cs := by
  induction h
  case word w found hw =>
    intro rest _
    simp [words] at hw
    rcases hw with ⟨rfl, _⟩ | ⟨rfl, _⟩ | ⟨rfl, _⟩ <;> exact scan_word_iff.mpr rfl
  case number n hn =>
    intro rest hr
    have ⟨c, p, l, ht, hp, hl, _⟩ := Number.Numeral.exists_first hn
    have ⟨hb, hc⟩ := begin_number hp
    rw [ht, List.cons_append, scan_begin hc, hb]
    exact scan_number_iff.mpr <| Number.skipped_path hl hr
  case text cs hs =>
    intro rest _
    simp only [quoted, List.append_assoc, List.cons_append]
    exact scan_text_iff.mpr <| Text.Shape.scan_shaped hs rest
  case blank b ws hw =>
    intro rest _
    rw [b.enclose_append, scan_brackets]
    exact (scan_opened_blanks hw _).trans <| scan_closing b rest
  case enclosed b cs _ hi =>
    intro rest _
    rw [b.enclose_append, scan_brackets]
    exact scan_opened (hi rest)
  case element ws v ws' hw _ hw' hv =>
    intro rest x hr ha
    exact scan_inner hw hv hw' hr ha
  case member ws k ws₁ ws₂ v ws' hw hk hw₁ hw₂ _ hw' hv =>
    intro rest x hr ha
    have h := scan_inner hw₂ hv hw' hr ha
    have hc : reader.scan (.colon []) (ws₁ ++ ':' :: (ws₂ ++ v ++ ws' ++ rest)) = .ok x := by
      rw [Reader.scan_blanks _ hw₁ fun c hc => by simp [reader_step, State.step, hc]]
      exact h
    have hk := scan_keyText_iff.mpr ⟨_, Text.Shape.scan_shaped hk _, hc⟩
    have hq : reader.scan (.key [])
        (ws ++ '"' :: (k ++ '"' :: (ws₁ ++ ':' :: (ws₂ ++ v ++ ws' ++ rest)))) = .ok x := by
      rw [Reader.scan_blanks _ hw fun c hc => by simp [reader_step, State.step, hc]]
      exact hk
    simpa [quoted, item] using hq
  case last b i _ hi =>
    intro rest
    exact hi _ _ (by cases b <;> simp [Terminated, Bracket.closing]) (scan_after_closing b rest)
  case cons b i is _ _ hi his =>
    intro rest
    simp only [List.append_assoc, List.cons_append]
    exact hi _ _ (by simp [Terminated]) (by rw [scan_after_comma]; exact his rest)

theorem scan_opened_iff {b : Bracket} :
    reader.scan (.opened b []) cs = .ok ((), rest) ↔
      ∃ body, cs = body ++ b.closing :: rest ∧ (Blanks body ∨ Formed (.items b) body) := by
  constructor
  · intro h
    exact exists_opened ((sound _ cs (Nat.lt_succ_self _)).right b) h
  · intro ⟨body, hcs, h⟩
    rw [hcs]
    cases h
    case inl hw => exact (scan_opened_blanks hw _).trans <| scan_closing b rest
    case inr hf => exact scan_opened (complete hf rest)

theorem reads : reader.Reads fun v _ => Formed .value v where
  sound {cs rest _} h := (sound _ cs (Nat.lt_succ_self _)).left rest h
  complete {ws v rest _} hw hv hr := by
    simp only [List.append_assoc]
    exact (scan_value_blanks hw _).trans <| complete hv rest hr

end TunnelPorts.Json.Skip
