import TunnelPorts.Proofs.Json.Grammar

/-!
Strings are read as they are spelled, from behind the opening quote to the closing one. Escapes of
codes are read by a reader of their own, which strings leave the four digits to.
-/

namespace TunnelPorts.Json.Text

open TunnelPorts.Text (hexDigit? isHexDigit)

theorem utf8Size_of_hexDigit? {c : Char} {d : Nat} (h : hexDigit? c = some d) : c.utf8Size = 1 := by
  rw [Char.utf8Size_eq_one_iff, UInt32.le_iff_toNat_le]
  simp [hexDigit?, Char.isDigit, Char.le_def, UInt32.le_iff_toNat_le] at h ⊢
  grind

theorem escape?_eq_some_iff {c d : Char} : escape? c = some d ↔ (c, d) ∈ escapes := by
  simp only [escape?, TunnelPorts.Text.letterEscape?, escapes]
  constructor
  · intro h
    split at h
    case isTrue hc => simp [hc, ← Option.some.inj h]
    case isFalse   => split at h <;> simp_all [eq_comm]
  · intro h
    simp at h
    rcases h with h | h | h | h | h | h | h | h <;> simp [h]

namespace Code

def reader : Reader Code Nat where
  start := {}
  step := Code.step
  stop _ := .error .unfinishedString

theorem step_ne_past (k : Code) (c : Char) (n : Nat) : k.step c ≠ .past n := by
  simp only [Code.step]
  split
  case isTrue  => simp
  case isFalse => split <;> simp

-- Four bytes that are not all of them digits spell nothing.
theorem scan_none {k : Nat} {cs : List Char} {x : Nat × List Char} :
    reader.scan ⟨k, none⟩ cs ≠ .ok x := by
  induction cs generalizing k
  case nil          => simp [Reader.scan, reader, Except.map]
  case cons c cs hi =>
    by_cases hc : c.utf8Size < k <;> simp [Reader.scan, reader, Code.step, hc]
    exact hi

theorem scan_some_iff {k v n : Nat} {cs rest : List Char} :
    reader.scan ⟨k + 1, some v⟩ cs = .ok (n, rest) ↔ ∃ hs, hs.length = k + 1 ∧
      (∀ c ∈ hs, isHexDigit c) ∧ hs.foldl (fun n c => n * 16 + (hexDigit? c).getD 0) v = n ∧
      cs = hs ++ rest := by
  induction cs generalizing k v
  case nil =>
    constructor
    · intro h
      simp [Reader.scan, reader, Except.map] at h
    · rintro ⟨hs, hl, _, _, he⟩
      cases hs <;> simp at hl he
  case cons c cs hi =>
    cases hd : hexDigit? c
    case none =>
      have hf : reader.scan ⟨k + 1, some v⟩ (c :: cs) ≠ .ok (n, rest) := by
        by_cases hc : c.utf8Size < k + 1 <;> simp [Reader.scan, reader, Code.step, hd, hc]
        exact scan_none
      simp only [hf, false_iff]
      rintro ⟨hs, hl, hx, _, he⟩
      cases hs
      case nil      => contradiction
      case cons _ _ =>
        simp at he hx
        simp [isHexDigit, ← he.left, hd] at hx
    case some d =>
      have hc := utf8Size_of_hexDigit? hd
      have hx : isHexDigit c := by simp [isHexDigit, hd]
      cases k
      case zero =>
        simp [Reader.scan, reader, Code.step, hd, hc]
        constructor
        · rintro ⟨hn, hr⟩
          exact ⟨[c], rfl, by simpa using hx, by simp [hd, hn], by simp [hr]⟩
        · rintro ⟨hs, hl, _, hn, he⟩
          obtain ⟨c', hs⟩ := List.length_eq_one_iff.mp hl
          simp_all
      case succ k =>
        have hs : reader.scan ⟨k + 2, some v⟩ (c :: cs) =
            reader.scan ⟨k + 1, some (v * 16 + d)⟩ cs := by
          simp [Reader.scan, reader, Code.step, hd, hc]
        rw [hs, hi]
        constructor
        · rintro ⟨hs, hl, hxs, hn, he⟩
          refine ⟨c :: hs, by simp [hl], ?_, by simpa [hd] using hn, by simp [he]⟩
          simp [hx]
          exact hxs
        · rintro ⟨hs, hl, hxs, hn, he⟩
          cases hs
          case nil       => contradiction
          case cons _ hs =>
            simp at hl hxs hn he
            rw [← he.left, hd] at hn
            exact ⟨hs, by simpa using hl, hxs.right, hn, he.right⟩

theorem scan_iff {n : Nat} {cs rest : List Char} :
    reader.scan {} cs = .ok (n, rest) ↔ ∃ hs, IsCode hs n ∧ cs = hs ++ rest := by
  simp [scan_some_iff, IsCode, TunnelPorts.Text.ofDigits, and_assoc]

end Code

namespace State

def reader : Reader State String where
  start := {}
  step := State.step
  stop _ := .error .unfinishedString

theorem reader_step : reader.step = State.step :=
  rfl

theorem step_ne_past (s : State) (c : Char) (text : String) : s.step c ≠ .past text := by
  simp only [State.step]
  grind

-- How a string goes on when a code is complete.
def afterCode (text : String) (n : Nat) (cs : List Char) : Except Fault (String × List Char) :=
  if isLowHalf n then .error .loneSurrogate
  else if isHighHalf n then reader.scan ⟨text, .half n⟩ cs
  else reader.scan ⟨text.push (.ofNat n), .plain⟩ cs

def afterPair (text : String) (high low : Nat) (cs : List Char) :
    Except Fault (String × List Char) :=
  if isLowHalf low then reader.scan ⟨text.push (pair high low), .plain⟩ cs
  else .error .loneSurrogate

theorem scan_code_iff {text : String} {cs : List Char} {x : String × List Char} :
    reader.scan ⟨text, .code {}⟩ cs = .ok x ↔
      ∃ hs n rest, IsCode hs n ∧ cs = hs ++ rest ∧ afterCode text n rest = .ok x := by
  rw [Reader.scan_bind (f := fun k => (⟨text, .code k⟩ : State)) (q := Code.reader)
    (k := afterCode text) fun _ => rfl]
  case cons =>
    intro k c cs
    simp only [Reader.scan, reader_step, Code.reader, State.step]
    cases h : k.step c
    case past n => exact absurd h <| k.step_ne_past c n
    case last n =>
      cases hl : isLowHalf n <;> cases hh : isHighHalf n <;> simp [afterCode, hl, hh, push]
    all_goals rfl
  simp only [Code.scan_iff]
  grind

theorem scan_halfCode_iff {text : String} {high : Nat} {cs : List Char} {x : String × List Char} :
    reader.scan ⟨text, .halfCode high {}⟩ cs = .ok x ↔
      ∃ hs n rest, IsCode hs n ∧ cs = hs ++ rest ∧ afterPair text high n rest = .ok x := by
  rw [Reader.scan_bind (f := fun k => (⟨text, .halfCode high k⟩ : State)) (q := Code.reader)
    (k := afterPair text high) fun _ => rfl]
  case cons =>
    intro k c cs
    simp only [Reader.scan, reader_step, Code.reader, State.step]
    cases h : k.step c
    case past n => exact absurd h <| k.step_ne_past c n
    case last n => cases hl : isLowHalf n <;> simp [afterPair, hl, push]
    all_goals rfl
  simp only [Code.scan_iff]
  grind

variable {text : String} {cs ds rest : List Char}

theorem scan_plain_code :
    reader.scan ⟨text, .plain⟩ ('\\' :: 'u' :: cs) = reader.scan ⟨text, .code {}⟩ cs := by
  simp [Reader.scan, reader_step, State.step]

theorem scan_half_code {n : Nat} :
    reader.scan ⟨text, .half n⟩ ('\\' :: 'u' :: cs) = reader.scan ⟨text, .halfCode n {}⟩ cs := by
  simp [Reader.scan, reader_step, State.step]

theorem exists_half {n : Nat} {x : String × List Char}
    (h : reader.scan ⟨text, .half n⟩ cs = .ok x) : ∃ ds, cs = '\\' :: 'u' :: ds := by
  cases cs
  case nil       => simp [Reader.scan, reader, Except.map] at h
  case cons c ds =>
    by_cases hc : c = '\\' <;> simp [Reader.scan, reader_step, State.step, hc] at h
    cases ds
    case nil      => simp [Reader.scan, reader, Except.map] at h
    case cons d _ =>
      by_cases hd : d = 'u' <;> simp [Reader.scan, reader_step, State.step, hd] at h
      exact ⟨_, by rw [hc, hd]⟩

-- What spells one character, wherever it stands.
def SpellsOne (u : List Char) (d : Char) : Prop :=
  ∀ cs ds, Spells cs ds → Spells (u ++ cs) (d :: ds)

theorem exists_code {x : String × List Char} (h : reader.scan ⟨text, .code {}⟩ cs = .ok x) :
    ∃ u d rest, SpellsOne ('\\' :: 'u' :: u) d ∧ cs = u ++ rest ∧
      reader.scan ⟨text.push d, .plain⟩ rest = .ok x := by
  have ⟨hs, m, rest, hm, hcs, h⟩ := scan_code_iff.mp h
  by_cases hl : isLowHalf m <;> by_cases hh : isHighHalf m <;> simp [afterCode, hl, hh] at h
  case pos =>
    have ⟨ds, hr⟩ := exists_half h
    rw [hr, scan_half_code] at h
    have ⟨ls, n, rest, hn, hds, h⟩ := scan_halfCode_iff.mp h
    by_cases hnl : isLowHalf n <;> simp [afterPair, hnl] at h
    simp [isHighHalf, isLowHalf] at hh hnl
    refine ⟨hs ++ '\\' :: 'u' :: ls, pair m n, rest, ?_, by simp [hcs, hr, hds], h⟩
    intro cs ds hcd
    simpa [pair] using Spells.pair hm hh hn hnl hcd
  case neg =>
    simp [isHighHalf, isLowHalf] at hh hl
    refine ⟨hs, .ofNat m, rest, ?_, hcs, h⟩
    intro cs ds hcd
    exact Spells.code hm (by omega) hcd

theorem exists_escape {x : String × List Char} (h : reader.scan ⟨text, .escape⟩ cs = .ok x) :
    ∃ u d rest, SpellsOne ('\\' :: u) d ∧ cs = u ++ rest ∧
      reader.scan ⟨text.push d, .plain⟩ rest = .ok x := by
  cases cs
  case nil       => simp [Reader.scan, reader, Except.map] at h
  case cons c cs =>
    by_cases hu : c = 'u' <;> simp [Reader.scan, reader_step, State.step, hu] at h
    case pos =>
      obtain ⟨u, d, rest, hd, hcs, h⟩ := exists_code h
      exact ⟨'u' :: u, d, rest, hd, by simp [hu, hcs], h⟩
    case neg =>
      cases hd : escape? c <;> simp [hd, push] at h
      case some d => exact ⟨[c], d, cs, fun _ _ => .escape (escape?_eq_some_iff.mp hd), rfl, h⟩

theorem exists_plain {str : String} (h : reader.scan ⟨text, .plain⟩ cs = .ok (str, rest)) :
    cs = '"' :: rest ∧ str = text ∨ ∃ u d ds, SpellsOne u d ∧ u ≠ [] ∧ cs = u ++ ds ∧
      reader.scan ⟨text.push d, .plain⟩ ds = .ok (str, rest) := by
  cases cs
  case nil       => simp [Reader.scan, reader, Except.map] at h
  case cons c cs =>
    by_cases hq : c = '"'
    case pos =>
      simp [Reader.scan, reader_step, State.step, hq] at h
      exact .inl ⟨by rw [hq, h.right], h.left.symm⟩
    by_cases he : c = '\\'
    case pos =>
      simp [Reader.scan, reader_step, State.step, he] at h
      obtain ⟨u, d, ds, hd, hcs, h⟩ := exists_escape h
      exact .inr ⟨'\\' :: u, d, ds, hd, by simp, by simp [he, hcs], h⟩
    case neg =>
      by_cases hc : isControl c <;>
        simp [Reader.scan, reader_step, State.step, hq, he, hc, push] at h
      have hp : IsPlain c := ⟨hq, he, by simpa [isControl] using hc⟩
      exact .inr ⟨[c], c, cs, fun _ _ => .plain hp, by simp, rfl, h⟩

-- What is read behind the text so far.
theorem exists_spelled {str : String} (h : reader.scan ⟨text, .plain⟩ cs = .ok (str, rest)) :
    ∃ body ds, Spells body ds ∧ cs = body ++ '"' :: rest ∧ str = .ofList (text.toList ++ ds) := by
  induction hn : cs.length using Nat.strongRecOn generalizing text cs
  case ind n hi =>
    cases exists_plain h
    case inl h => exact ⟨[], [], .nil, by simp [h.left], by simp [h.right]⟩
    case inr h =>
      have ⟨u, d, cs', hd, hu, hcs, h⟩ := h
      have hl : cs'.length < n := by
        have := List.length_pos_iff.mpr hu
        simp [← hn, hcs, this]
      have ⟨body, ds, hs, hb, hds⟩ := hi cs'.length hl h rfl
      exact ⟨u ++ body, d :: ds, hd _ _ hs, by simp [hcs, hb], by simp [hds]⟩

theorem scan_spelled (h : Spells cs ds) (text : String) (rest : List Char) :
    reader.scan ⟨text, .plain⟩ (cs ++ '"' :: rest) = .ok (.ofList (text.toList ++ ds), rest) := by
  induction h generalizing text
  case nil => simp [Reader.scan, reader_step, State.step]
  case plain c cs ds hc _ hi =>
    simp [Reader.scan, reader_step, State.step, hc.1, hc.2.1, isControl, Char.not_lt.mpr hc.2.2,
      push, hi]
  case escape c d cs ds he _ hi =>
    have hu : c ≠ 'u' := by
      intro h
      simp [h, escapes] at he
    simp [Reader.scan, reader_step, State.step, hu, escape?_eq_some_iff.mpr he, push, hi]
  case code hs n cs ds hc hn _ hi =>
    have hl : isLowHalf n = false := by simp [isLowHalf]; omega
    have hh : isHighHalf n = false := by simp [isHighHalf]; omega
    have ha : afterCode text n (cs ++ '"' :: rest) =
        .ok (.ofList (text.toList ++ .ofNat n :: ds), rest) := by
      simp [afterCode, hl, hh, hi]
    have h := scan_code_iff.mpr ⟨hs, n, _, hc, rfl, ha⟩
    rw [← scan_plain_code] at h
    simpa using h
  case pair hs m ls n cs ds hm hmr hn hnr _ hi =>
    have hml : isLowHalf m = false := by simp [isLowHalf]; omega
    have hmh : isHighHalf m := by simp [isHighHalf]; omega
    have hnl : isLowHalf n := by simp [isLowHalf]; omega
    have hp : afterPair text m n (cs ++ '"' :: rest) =
        .ok (.ofList (text.toList ++ pair m n :: ds), rest) := by
      simp [afterPair, hnl, hi]
    have h := scan_halfCode_iff.mpr ⟨ls, n, _, hn, rfl, hp⟩
    rw [← scan_half_code] at h
    have ha : afterCode text m ('\\' :: 'u' :: (ls ++ (cs ++ '"' :: rest))) =
        .ok (.ofList (text.toList ++ pair m n :: ds), rest) := by
      simpa [afterCode, hml, hmh] using h
    have h := scan_code_iff.mpr ⟨hs, m, _, hm, rfl, ha⟩
    rw [← scan_plain_code] at h
    simpa [pair] using h

theorem scan_start (h : Spells cs ds) (rest : List Char) :
    reader.scan {} (cs ++ '"' :: rest) = .ok (.ofList ds, rest) :=
  scan_spelled h "" rest

end State

namespace Shape

def reader : Reader Shape Unit where
  start := .plain
  step := Shape.step
  stop _ := .error .unfinishedString

theorem reader_step : reader.step = Shape.step :=
  rfl

theorem step_ne_past (s : Shape) (c : Char) (u : Unit) : s.step c ≠ .past u := by
  cases s
  case code k => cases h : k.step c <;> simp [Shape.step, h]
  all_goals
    simp only [Shape.step]
    grind

variable {cs rest : List Char}

theorem scan_code_iff :
    reader.scan (.code {}) cs = .ok ((), rest) ↔
      ∃ hs n ds, IsCode hs n ∧ cs = hs ++ ds ∧ reader.scan .plain ds = .ok ((), rest) := by
  rw [Reader.scan_bind (f := Shape.code) (q := Code.reader) (k := fun _ => reader.scan .plain)
    fun _ => rfl]
  case cons =>
    intro k c cs
    simp only [Reader.scan, reader_step, Code.reader, Shape.step]
    cases h : k.step c
    case past n => exact absurd h <| k.step_ne_past c n
    all_goals rfl
  simp only [Code.scan_iff]
  grind

theorem exists_escape (h : reader.scan .escape cs = .ok ((), rest)) :
    ∃ u ds, (∀ cs, Shaped cs → Shaped ('\\' :: u ++ cs)) ∧ cs = u ++ ds ∧
      reader.scan .plain ds = .ok ((), rest) := by
  cases cs
  case nil       => simp [Reader.scan, reader, Except.map] at h
  case cons c cs =>
    by_cases hu : c = 'u' <;> simp [Reader.scan, reader_step, Shape.step, hu] at h
    case pos =>
      obtain ⟨hs, n, ds, hn, hcs, h⟩ := scan_code_iff.mp h
      exact ⟨'u' :: hs, ds, fun _ => .code hn, by simp [hu, hcs], h⟩
    case neg =>
      cases hd : escape? c <;> simp [hd] at h
      case some d => exact ⟨[c], cs, fun _ => .escape (escape?_eq_some_iff.mp hd), rfl, h⟩

theorem exists_plain (h : reader.scan .plain cs = .ok ((), rest)) :
    cs = '"' :: rest ∨ ∃ u ds, (∀ cs, Shaped cs → Shaped (u ++ cs)) ∧ u ≠ [] ∧ cs = u ++ ds ∧
      reader.scan .plain ds = .ok ((), rest) := by
  cases cs
  case nil       => simp [Reader.scan, reader, Except.map] at h
  case cons c cs =>
    by_cases hq : c = '"'
    case pos =>
      simp [Reader.scan, reader_step, Shape.step, hq] at h
      exact .inl <| by rw [hq, h]
    by_cases he : c = '\\'
    case pos =>
      simp [Reader.scan, reader_step, Shape.step, he] at h
      obtain ⟨u, ds, hu, hcs, h⟩ := exists_escape h
      exact .inr ⟨'\\' :: u, ds, hu, by simp, by simp [he, hcs], h⟩
    case neg =>
      by_cases hc : isControl c <;> simp [Reader.scan, reader_step, Shape.step, hq, he, hc] at h
      have hp : IsPlain c := ⟨hq, he, by simpa [isControl] using hc⟩
      exact .inr ⟨[c], cs, fun _ => .plain hp, by simp, rfl, h⟩

theorem exists_shaped (h : reader.scan .plain cs = .ok ((), rest)) :
    ∃ body, Shaped body ∧ cs = body ++ '"' :: rest := by
  induction hn : cs.length using Nat.strongRecOn generalizing cs
  case ind n hi =>
    cases exists_plain h
    case inl h => exact ⟨[], .nil, h⟩
    case inr h =>
      have ⟨u, ds, hu, hne, hcs, h⟩ := h
      have hl : ds.length < n := by
        have := List.length_pos_iff.mpr hne
        simp [← hn, hcs, this]
      have ⟨body, hs, hb⟩ := hi ds.length hl h rfl
      exact ⟨u ++ body, hu _ hs, by simp [hcs, hb]⟩

theorem scan_shaped (h : Shaped cs) (rest : List Char) :
    reader.scan .plain (cs ++ '"' :: rest) = .ok ((), rest) := by
  induction h
  case nil => simp [Reader.scan, reader_step, Shape.step]
  case plain c cs hc _ hi =>
    simp [Reader.scan, reader_step, Shape.step, hc.1, hc.2.1, isControl, Char.not_lt.mpr hc.2.2, hi]
  case escape c d cs he _ hi =>
    have hu : c ≠ 'u' := by
      intro h
      simp [h, escapes] at he
    simp [Reader.scan, reader_step, Shape.step, hu, escape?_eq_some_iff.mpr he, hi]
  case code hs n cs hc _ hi =>
    have h := scan_code_iff.mpr ⟨hs, n, _, hc, rfl, hi⟩
    simpa [Reader.scan, reader_step, Shape.step] using h

end Shape
end TunnelPorts.Json.Text
