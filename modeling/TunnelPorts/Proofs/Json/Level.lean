import TunnelPorts.Json.Level
import TunnelPorts.Proofs.Entries
import TunnelPorts.Proofs.Json.Skip

/-!
Levels are read as they are spelled, if the levels below are. Arrays are followed as if they were
skipped; members of an object are collected one by one.
-/

namespace TunnelPorts.Json.Level

open Json.Bracket (array object)

namespace ItemState

def reader : Reader ItemState Found where
  start := .opened
  step := ItemState.step
  stop s := .error s.stop

-- The state of an array that is skipped.
def skipped : ItemState → Skip.State
  | opened => .opened array []
  | item s => s.within [array]
  | after  => .after array []
  | comma  => .value [array]

-- Both steps lead to the same, or both to a fault.
def Matches : Step ItemState Found → Step Skip.State Unit → Prop
  | .more s,   x => x = .more s.skipped
  | .last a,   x => a = .array ∧ x = .last ()
  | .past _,   _ => False
  | .fail _ _, x => ∃ e n, x = .fail e n

theorem matches_follow (c : Char) : Matches (follow c) (Skip.State.follow array [] c) := by
  simp only [follow, Skip.State.follow, Bracket.closing]
  split
  case isTrue => exact rfl
  split
  case isTrue => exact ⟨rfl, rfl⟩
  split
  case isTrue  => exact rfl
  case isFalse => exact ⟨_, _, rfl⟩

theorem matches_inItem (s : Skip.State) (c : Char) :
    Matches (inItem s c) ((s.within [array]).step c) := by
  rw [Skip.State.step_within, inItem, Skip.reader_step]
  cases s.step c
  case more s   => exact rfl
  case last _   => exact rfl
  case past _   => exact matches_follow c
  case fail e n => exact ⟨e, n, rfl⟩

theorem matches_step (s : ItemState) (c : Char) : Matches (s.step c) (s.skipped.step c) := by
  cases s
  case item s => exact matches_inItem s c
  case after  => exact matches_follow c
  all_goals
    have h := matches_inItem Skip.reader.start c
    simp only [step, skipped, Skip.State.step]
    split
    case isTrue => exact rfl
  case opened hb =>
    split
    case isTrue hc  => exact ⟨rfl, by simp [hc, Bracket.closing, Skip.State.complete]⟩
    case isFalse hc =>
      simpa [Skip.reader, Skip.State.within, Skip.State.step, hb, hc, Bracket.closing] using h
  case comma hb =>
    split
    case isTrue hc => exact ⟨_, _, by rw [hc]; rfl⟩
    case isFalse   => simpa [Skip.reader, Skip.State.within, Skip.State.step, hb] using h

theorem scan_iff {s : ItemState} {cs rest : List Char} {found : Found} :
    reader.scan s cs = .ok (found, rest) ↔
      Skip.reader.scan s.skipped cs = .ok ((), rest) ∧ found = .array := by
  induction cs generalizing s
  case nil =>
    cases s
    case item s =>
      simp only [Reader.scan, reader, skipped, Skip.reader_stop, Skip.State.stop_within]
      cases s.stop <;> simp [bind, Except.bind, Except.map]
    all_goals simp [Reader.scan, reader, skipped, Skip.reader_stop, Skip.State.stop, Except.map]
  case cons c cs hi =>
    have h := matches_step s c
    have hr : reader.step s c = s.step c := rfl
    simp only [Reader.scan, Skip.reader_step, hr]
    cases hs : s.step c <;> rw [hs] at h
    case more t   => simpa [show s.skipped.step c = _ from h] using hi
    case last a   => simp [h.left, h.right, and_comm, eq_comm]
    case past _   => exact h.elim
    case fail _ _ =>
      obtain ⟨e, n, h⟩ := h
      simp [h]

end ItemState
variable {σ α : Type} {child : Reader σ α} {cs rest : List Char} {lvl : Level α}

-- What was found is known by what it is called.
theorem notObject_of_text {f g : Found} (h : f.text = g.text) :
    (.notObject f : Level α) = .notObject g := by
  revert h
  cases f <;> cases g <;> simp [Found.text]

theorem reader_step : (reader child).step = step child :=
  rfl

theorem reader_stop : (reader child).stop = stop child :=
  rfl

theorem scan_word_iff {c : Char} {ds : List Char} {found : Found} :
    (reader child).scan (.word c ds found) cs = .ok (lvl, rest) ↔
      cs = c :: ds ++ rest ∧ lvl = .notObject found := by
  induction ds generalizing c cs
  all_goals
    cases cs
    case nil => simp [Reader.scan, reader_stop, stop, Except.map]
  case nil.cons d cs =>
    by_cases hd : d = c <;> simp [Reader.scan, reader_step, step, hd]
    grind
  case cons.cons e es hi d cs =>
    by_cases hd : d = c <;> simp [Reader.scan, reader_step, step, hd]
    exact hi

theorem scan_number_iff {s : Number.State} :
    (reader child).scan (.number s) cs = .ok (lvl, rest) ↔
      Number.kept.scan s cs = .ok ((), rest) ∧ lvl = .notObject .number := by
  rw [Reader.scan_map (f := State.number) (q := Number.kept) (g := fun _ => Level.notObject .number)
    (fun _ _ => rfl) (fun _ => rfl)]
  constructor
  · rintro ⟨_, h⟩
    exact h
  · intro h
    exact ⟨(), h⟩

theorem scan_text_iff {t : Text.State} :
    (reader child).scan (.text t) cs = .ok (lvl, rest) ↔
      ∃ text, Text.State.reader.scan t cs = .ok (text, rest) ∧ lvl = .notObject .string :=
  Reader.scan_map (f := State.text) (g := fun _ => Level.notObject .string) (fun _ _ => rfl)
    (fun _ => rfl)

theorem scan_array_iff :
    (reader child).scan (.array .opened) cs = .ok (lvl, rest) ↔
      (∃ body, cs = body ++ ']' :: rest ∧ (Blanks body ∨ Formed (.items array) body)) ∧
        lvl = .notObject .array := by
  rw [Reader.scan_map (f := State.array) (q := ItemState.reader) (g := Level.notObject)
    (fun _ _ => rfl) (fun _ => rfl)]
  simp only [ItemState.scan_iff, ItemState.skipped, Skip.scan_opened_iff]
  constructor
  · intro ⟨_, ⟨h, hf⟩, hl⟩
    exact ⟨h, hf ▸ hl⟩
  · intro ⟨h, hl⟩
    exact ⟨_, ⟨h, rfl⟩, hl⟩

theorem scan_key (es : Entries α) (t : Text.State) (cs : List Char) :
    (reader child).scan (.object es (.key t)) cs =
      Text.State.reader.scan t cs >>= fun x => (reader child).scan (.object es (.colon x.1)) x.2 := by
  apply Reader.scan_eq_bind (f := fun t => State.object es (.key t)) (q := Text.State.reader)
    (k := fun k => (reader child).scan (.object es (.colon k))) fun _ => rfl
  intro t c cs
  simp only [Reader.scan, reader_step, step, stepObject, Text.State.reader]
  cases h : t.step c
  case past text => exact absurd h <| t.step_ne_past c text
  all_goals rfl

theorem scan_key_iff {es : Entries α} {x : Level α × List Char} :
    (reader child).scan (.object es (.key {})) cs = .ok x ↔
      ∃ k ds, Text.State.reader.scan {} cs = .ok (k, ds) ∧
        (reader child).scan (.object es (.colon k)) ds = .ok x := by
  rw [scan_key, Reader.bind_eq_ok_iff (k := fun k => (reader child).scan (.object es (.colon k)))]

theorem scan_value (es : Entries α) (k : String) (s : σ) (cs : List Char) :
    (reader child).scan (.object es (.value k s)) cs =
      child.scan s cs >>= fun x => (reader child).scan (.object (es.insert k x.1) .after) x.2 := by
  apply Reader.scan_eq_bind (f := fun s => State.object es (.value k s)) (q := child)
    (k := fun v => (reader child).scan (.object (es.insert k v) .after))
  · intro s
    simp only [Reader.scan, reader_stop, stop]
    cases child.stop s <;> rfl
  · intro s c cs
    simp only [Reader.scan, reader_step, step, stepObject]
    cases child.step s c <;> rfl

theorem scan_value_iff {es : Entries α} {k : String} {s : σ} {x : Level α × List Char} :
    (reader child).scan (.object es (.value k s)) cs = .ok x ↔
      ∃ v ds, child.scan s cs = .ok (v, ds) ∧
        (reader child).scan (.object (es.insert k v) .after) ds = .ok x := by
  rw [scan_value,
    Reader.bind_eq_ok_iff (k := fun v => (reader child).scan (.object (es.insert k v) .after))]

theorem collects_iff {ms : List (String × α)} {es : Entries α} :
    Collects ms es ↔ es = Entries.insertAll {} ms := by
  have hk : (Entries.insertAll {} ms).keys = (ms.map Prod.fst).eraseDups := by
    have h := Entries.keys_insertAll {} ms
    rw [List.filter_eq_self.mpr (by simp [Entries.keys])] at h
    exact h
  have hl k : (Entries.insertAll {} ms).toList.lookup k = ms.reverse.lookup k := by
    rw [Entries.lookup_insertAll]
    simp
  constructor
  · intro ⟨hk', hl'⟩
    exact Entries.eq_of_lookup (hk'.trans hk.symm) fun k => (hl' k).trans (hl k).symm
  · intro h
    rw [h]
    exact ⟨hk, hl⟩

variable {es : Entries α} {P : List Char → α → Prop}

-- What stands behind a member.
theorem exists_after (h : (reader child).scan (.object es .after) cs = .ok (lvl, rest)) :
    ∃ ws, Blanks ws ∧ (cs = ws ++ '\x7d' :: rest ∧ lvl = .object es ∨
      ∃ ds, cs = ws ++ ',' :: ds ∧
        (reader child).scan (.object es .comma) ds = .ok (lvl, rest)) := by
  have ⟨ws, ds, hcs, hw, hd, h⟩ := Reader.exists_scan_blanks
    (fun c hc => by simp [reader_step, step, stepObject, follow, hc]) h
  refine ⟨ws, hw, ?_⟩
  cases ds
  case nil       => simp [Reader.scan, reader_stop, stop, Except.map] at h
  case cons c ds =>
    simp at hd
    by_cases hb : c = '\x7d'
    case pos =>
      simp [Reader.scan, reader_step, step, stepObject, follow, hb, hb ▸ hd] at h
      exact .inl ⟨by rw [hcs, hb, h.right], h.left.symm⟩
    by_cases hc : c = ','
    case pos =>
      rw [hc] at h
      exact .inr ⟨ds, by rw [hcs, hc], h⟩
    case neg => simp [Reader.scan, reader_step, step, stepObject, follow, hd, hb, hc] at h

theorem exists_colon {k : String} {x : Level α × List Char}
    (h : (reader child).scan (.object es (.colon k)) cs = .ok x) :
    ∃ ws ds, cs = ws ++ ':' :: ds ∧ Blanks ws ∧
      (reader child).scan (.object es (.value k child.start)) ds = .ok x := by
  have ⟨ws, ds, hcs, hw, hd, h⟩ := Reader.exists_scan_blanks
    (fun c hc => by simp [reader_step, step, stepObject, hc]) h
  cases ds
  case nil       => simp [Reader.scan, reader_stop, stop, Except.map] at h
  case cons c ds =>
    simp at hd
    by_cases hc : c = ':' <;> simp [Reader.scan, reader_step, step, stepObject, hd, hc] at h
    exact ⟨ws, ds, by rw [hcs, hc], hw, h⟩

theorem exists_key {x : Level α × List Char}
    (h : (reader child).scan (.object es .comma) cs = .ok x) :
    ∃ ws k ks ws₁ ds, cs = ws ++ quoted k ++ ws₁ ++ ':' :: ds ∧
      Blanks ws ∧ Text.Spells k ks ∧ Blanks ws₁ ∧
      (reader child).scan (.object es (.value (.ofList ks) child.start)) ds = .ok x := by
  obtain ⟨ws, ds, hcs, hw, hd, h⟩ := Reader.exists_scan_blanks
    (fun c hc => by simp [reader_step, step, stepObject, hc]) h
  cases ds
  case nil       => simp [Reader.scan, reader_stop, stop, Except.map] at h
  case cons c ds =>
    simp at hd
    by_cases hb : c = '\x7d'
    case pos => simp [Reader.scan, reader_step, step, stepObject, hb, hb ▸ hd] at h
    by_cases hc : c = '"' <;>
      simp [Reader.scan, reader_step, step, stepObject, beginKey, hd, hb, hc] at h
    obtain ⟨k, es, hk, h⟩ := scan_key_iff.mp h
    obtain ⟨body, ks, hs, hds, hk⟩ := Text.State.exists_spelled hk
    obtain ⟨ws₁, fs, hes, hw₁, h⟩ := exists_colon h
    have hcs : cs = ws ++ quoted body ++ ws₁ ++ ':' :: fs := by simp [hcs, hc, hds, hes, quoted]
    exact ⟨ws, body, ks, ws₁, fs, hcs, hw, hs, hw₁, by simpa [hk] using h⟩

theorem exists_member (hr : child.Reads P)
    (h : (reader child).scan (.object es .comma) cs = .ok (lvl, rest)) :
    ∃ m e, Member P m e ∧ (cs = m ++ '\x7d' :: rest ∧ lvl = .object (es.insert e.1 e.2) ∨
      ∃ ds, cs = m ++ ',' :: ds ∧
        (reader child).scan (.object (es.insert e.1 e.2) .comma) ds = .ok (lvl, rest)) := by
  have ⟨ws, k, ks, ws₁, ds, hcs, hw, hk, hw₁, h⟩ := exists_key h
  have ⟨a, fs, hv, h⟩ := scan_value_iff.mp h
  have ⟨ws₂, v, hds, hw₂, hv⟩ := hr.sound hv
  have ⟨ws', hw', h⟩ := exists_after h
  refine ⟨_, (.ofList ks, a), .intro hw hk hw₁ hw₂ hv hw', ?_⟩
  cases h
  case inl h => exact .inl ⟨by simp [hcs, hds, h.left], h.right⟩
  case inr h =>
    have ⟨gs, hgs, h⟩ := h
    exact .inr ⟨gs, by simp [hcs, hds, hgs], h⟩

theorem exists_members (hr : child.Reads P)
    (h : (reader child).scan (.object es .comma) cs = .ok (lvl, rest)) :
    ∃ body ms, cs = body ++ '\x7d' :: rest ∧ Members P body ms ∧
      lvl = .object (es.insertAll ms) := by
  induction hn : cs.length using Nat.strongRecOn generalizing es cs
  case ind n hi =>
    have ⟨m, e, hm, h⟩ := exists_member hr h
    cases h
    case inl h => exact ⟨m, [e], h.left, .last hm, h.right⟩
    case inr h =>
      have ⟨ds, hcs, h⟩ := h
      have ⟨body, ms, hds, hb, hl⟩ := hi ds.length (by simp [← hn, hcs]; omega) h rfl
      exact ⟨m ++ ',' :: body, e :: ms, by simp [hcs, hds], .cons hm hb, hl⟩

-- What is opened is closed at once, or goes on as it would behind a comma.
theorem closes_or_scan_comma {x : Level α × List Char}
    (h : (reader child).scan (.object es .opened) cs = .ok x) :
    (∃ ws ds, cs = ws ++ '\x7d' :: ds ∧ Blanks ws ∧ x = (.object es, ds)) ∨
      (reader child).scan (.object es .comma) cs = .ok x := by
  obtain ⟨ws, ds, hcs, hw, hd, h⟩ := Reader.exists_scan_blanks
    (fun c hc => by simp [reader_step, step, stepObject, hc]) h
  cases ds
  case nil       => simp [Reader.scan, reader_stop, stop, Except.map] at h
  case cons c ds =>
    simp at hd
    by_cases hb : c = '\x7d'
    case pos =>
      simp [Reader.scan, reader_step, step, stepObject, hb, hb ▸ hd] at h
      exact .inl ⟨ws, ds, by rw [hcs, hb], hw, h.symm⟩
    case neg =>
      refine .inr ?_
      rw [hcs, Reader.scan_blanks _ hw fun c hc => by simp [reader_step, step, stepObject, hc]]
      simpa [Reader.scan, reader_step, step, stepObject, hd, hb] using h

theorem exists_opened (hr : child.Reads P)
    (h : (reader child).scan (.object {} .opened) cs = .ok (lvl, rest)) :
    ∃ body, cs = body ++ '\x7d' :: rest ∧ Spells P (object.enclose body) lvl := by
  cases closes_or_scan_comma h
  case inl h =>
    obtain ⟨ws, ds, hcs, hw, hx⟩ := h
    cases hx
    exact ⟨ws, hcs, .emptyObject hw⟩
  case inr h =>
    obtain ⟨body, ms, hcs, hm, hl⟩ := exists_members hr h
    exact ⟨body, hcs, hl ▸ .object hm (collects_iff.mpr rfl)⟩

theorem scan_begin {c : Char} (hc : isBlank c = false) :
    (reader child).scan .value (c :: cs) =
      match begin c with
      | .more s   => (reader child).scan s cs
      | .last a   => .ok (a, cs)
      | .past a   => .ok (a, c :: cs)
      | .fail e _ => .error e := by
  have hs : (reader child).step .value c = begin c := by simp [reader_step, step, hc]
  simp only [Reader.scan, hs]
  cases begin (σ := σ) (α := α) c <;> rfl

-- `c` is the first character of the value.
theorem exists_begin {c : Char} (hr : child.Reads P) (hc : isBlank c = false)
    (h : (reader child).scan .value (c :: cs) = .ok (lvl, rest)) :
    ∃ v, c :: cs = v ++ rest ∧ Spells P v lvl := by
  rw [scan_begin hc] at h
  revert h
  fun_cases begin c
  case case1 =>
    intro h
    obtain ⟨text, h, hl⟩ := scan_text_iff.mp h
    obtain ⟨body, ds, hs, hcs, _⟩ := Text.State.exists_spelled h
    exact ⟨quoted body, by simp [quoted, hcs], hl ▸ .text hs rfl⟩
  case case2 =>
    intro h
    obtain ⟨⟨body, hcs, hb⟩, hl⟩ := scan_array_iff.mp h
    refine ⟨array.enclose body, by rw [hcs, array.enclose_append]; rfl, ?_⟩
    rw [hl]
    cases hb
    case inl hb => exact .emptyArray hb rfl
    case inr hb => exact .array hb rfl
  case case3 =>
    intro h
    obtain ⟨body, hcs, hs⟩ := exists_opened hr h
    exact ⟨object.enclose body, by rw [hcs, object.enclose_append]; rfl, hs⟩
  case case4 =>
    intro h
    obtain ⟨hcs, hl⟩ := scan_word_iff.mp h
    exact ⟨"null".toList, congrArg ('n' :: ·) hcs, hl ▸ .word (by simp [words, Found.text])⟩
  case case5 =>
    intro h
    obtain ⟨hcs, hl⟩ := scan_word_iff.mp h
    exact ⟨"true".toList, congrArg ('t' :: ·) hcs, hl ▸ .word (by simp [words, Found.text])⟩
  case case6 =>
    intro h
    obtain ⟨hcs, hl⟩ := scan_word_iff.mp h
    exact ⟨"false".toList, congrArg ('f' :: ·) hcs, hl ▸ .word (by simp [words, Found.text])⟩
  case case7 p hp _ _ _ _ _ _ =>
    rw [hp]
    intro h
    obtain ⟨h, hl⟩ := scan_number_iff.mp h
    obtain ⟨l, hp', hcs, m, hm, hi⟩ := Number.exists_path_of_kept h
    obtain ⟨n, hn, ht, hm'⟩ := Number.exists_numeral hp hp'
    have hi := n.along?_inRange_iff.mp ⟨m, hm' ▸ hm, hi⟩
    exact ⟨n.text, by rw [hcs, ← ht]; rfl, hl ▸ .number hn hi rfl⟩
  case case8 hp _ _ _ _ _ _ => simp [hp]

-- The name of a member may stand behind the brace as well as behind a comma.
theorem scan_name {s : MemberState σ} {ws k ks ws₁ : List Char} (hs : s = .opened ∨ s = .comma)
    (hw : Blanks ws) (hk : Text.Spells k ks) (hw₁ : Blanks ws₁) (rest : List Char) :
    (reader child).scan (.object es s) (ws ++ quoted k ++ ws₁ ++ ':' :: rest) =
      (reader child).scan (.object es (.value (.ofList ks) child.start)) rest := by
  have hb c (hc : isBlank c) : (reader child).step (.object es s) c = .more (.object es s) := by
    rcases hs with rfl | rfl <;> simp [reader_step, step, stepObject, hc]
  have hq cs : (reader child).scan (.object es s) ('"' :: cs) =
      (reader child).scan (.object es (.key {})) cs := by
    rcases hs with rfl | rfl <;> rfl
  have hc : ws ++ quoted k ++ ws₁ ++ ':' :: rest =
      ws ++ '"' :: (k ++ '"' :: (ws₁ ++ ':' :: rest)) := by simp [quoted]
  rw [hc, Reader.scan_blanks _ hw hb, hq, scan_key, Text.State.scan_start hk]
  exact Reader.scan_blanks _ hw₁ fun c hc => by simp [reader_step, step, stepObject, hc]

-- A member is collected, whatever comes of the rest.
theorem scan_member {s : MemberState σ} {m : List Char} {e : String × α} (hr : child.Reads P)
    (hs : s = .opened ∨ s = .comma) (hm : Member P m e) (ht : Terminated rest) :
    (reader child).scan (.object es s) (m ++ rest) =
      (reader child).scan (.object (es.insert e.1 e.2) .after) rest := by
  cases hm
  case intro ws k ks ws₁ ws₂ v a ws' hw hk hw₁ hw₂ hv hw' =>
    have hm : ws ++ quoted k ++ ws₁ ++ ':' :: ws₂ ++ v ++ ws' ++ rest =
        ws ++ quoted k ++ ws₁ ++ ':' :: (ws₂ ++ v ++ (ws' ++ rest)) := by simp
    rw [hm, scan_name hs hw hk hw₁, scan_value, hr.complete hw₂ hv (.append hw' ht)]
    exact Reader.scan_blanks _ hw' fun c hc => by simp [reader_step, step, stepObject, follow, hc]

theorem scan_members {s : MemberState σ} {ms : List (String × α)} (hr : child.Reads P)
    (hs : s = .opened ∨ s = .comma) (hm : Members P cs ms) (ht : Terminated rest) :
    (reader child).scan (.object es s) (cs ++ rest) =
      (reader child).scan (.object (es.insertAll ms) .after) rest := by
  induction hm generalizing es s
  case last m e hm             => exact scan_member hr hs hm ht
  case cons m ms e es' hm _ hi =>
    rw [List.append_assoc, List.cons_append, scan_member hr hs hm (by simp [Terminated])]
    exact hi (.inr rfl)

theorem begin_number {c : Char} {p : Number.Phase} (h : Number.Phase.first? c = some p) :
    begin c = (.more (.number (.ofFirst p c)) : Step (State σ α) (Level α)) := by
  fun_cases begin c
  case case7 q hq _ _ _ _ _ _ => simp [hq, ← Option.some.inj (h.symm.trans hq)]
  all_goals simp_all
  all_goals contradiction

theorem scan_array {body : List Char} {found : Found}
    (h : Blanks body ∨ Formed (.items array) body) (hf : found.text = "an array")
    (rest : List Char) :
    (reader child).scan .value (array.enclose body ++ rest) = .ok (.notObject found, rest) := by
  rw [array.enclose_append]
  exact scan_array_iff.mpr ⟨⟨body, rfl, h⟩, notObject_of_text hf⟩

theorem scan_object (body rest : List Char) :
    (reader child).scan .value (object.enclose body ++ rest) =
      (reader child).scan (.object {} .opened) (body ++ '\x7d' :: rest) := by
  rw [object.enclose_append]
  rfl

theorem scan_spelled {v : List Char} (hr : child.Reads P) (h : Spells P v lvl)
    (ht : Terminated rest) : (reader child).scan .value (v ++ rest) = .ok (lvl, rest) := by
  cases h
  case word w found hw =>
    simp [words] at hw
    rcases hw with ⟨rfl, hf⟩ | ⟨rfl, hf⟩ | ⟨rfl, hf⟩ <;>
      exact scan_word_iff.mpr ⟨rfl, notObject_of_text hf⟩
  case number n found hn hi hf =>
    obtain ⟨c, p, l, ht', hp, hl, hm'⟩ := Number.Numeral.exists_first hn
    obtain ⟨m, hm, hi⟩ := n.along?_inRange_iff.mpr hi
    have hk := Number.kept_path hl (hm'.trans hm) hi ht
    rw [ht', List.cons_append, scan_begin (Skip.begin_number hp).right, begin_number hp]
    exact scan_number_iff.mpr ⟨hk, notObject_of_text hf⟩
  case text cs ds found hs hf =>
    simp only [quoted, List.append_assoc, List.cons_append]
    exact scan_text_iff.mpr ⟨_, Text.State.scan_start hs rest, notObject_of_text hf⟩
  case emptyArray ws found hw hf => exact scan_array (.inl hw) hf rest
  case array cs found hi hf      => exact scan_array (.inr hi) hf rest
  case emptyObject ws hw =>
    rw [scan_object]
    exact Reader.scan_blanks _ hw fun c hc => by simp [reader_step, step, stepObject, hc]
  case object cs ms es hm hc =>
    rw [scan_object, collects_iff.mp hc]
    exact scan_members hr (.inl rfl) hm (by simp [Terminated])

theorem reads (hr : child.Reads P) : (reader child).Reads (Spells P) where
  sound {cs rest lvl} h := by
    obtain ⟨ws, ds, hcs, hw, hd, h⟩ := Reader.exists_scan_blanks
      (fun c hc => by simp [reader, step, hc]) h
    cases ds
    case nil       => simp [Reader.scan, reader, stop, Except.map] at h
    case cons c ds =>
      obtain ⟨v, hv, hs⟩ := exists_begin hr (by simpa using hd) h
      exact ⟨ws, v, by simp [hcs, hv], hw, hs⟩
  complete {ws v rest lvl} hw hv ht := by
    simp only [List.append_assoc]
    rw [Reader.scan_blanks _ hw fun c hc => by simp [reader, step, hc]]
    exact scan_spelled hr hv ht

end TunnelPorts.Json.Level
