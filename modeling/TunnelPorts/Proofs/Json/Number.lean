import TunnelPorts.Proofs.Json.Grammar

/-!
Numbers are read as they are spelled. The phases that a number goes through name the part of it that
each character belongs to, so that a number is known by its path through the phases. What is known
of its size is a fold along the path.
-/

namespace TunnelPorts.Json.Number

namespace Phase

-- A way through the phases that begins behind `p` and ends where a number may end. Each phase comes
-- with the character that leads to it.
def Path : Phase → List (Phase × Char) → Prop
  | p, []          => p.isComplete
  | p, (q, c) :: l => p.next? c = some q ∧ Path q l

end Phase

open Phase

-- The parts of a number, and the phase of each of their characters.
def Exponent.path (e : Exponent) : List (Phase × Char) :=
  (exponent, e.mark) :: e.sign?.toList.map (exponentSign, ·) ++ e.digits.map (power, ·)

namespace Numeral

def integerPhase (n : Numeral) : Phase :=
  if n.integer = ['0'] then zero else digits

def fractionPath : Option (List Char) → List (Phase × Char)
  | none    => []
  | some ds => (point, '.') :: ds.map (fraction, ·)

def exponentPath : Option Exponent → List (Phase × Char)
  | none   => []
  | some e => e.path

def path (n : Numeral) : List (Phase × Char) :=
  n.integer.map (n.integerPhase, ·) ++ fractionPath n.fraction? ++ exponentPath n.exponent?

theorem map_snd_path (n : Numeral) : n.path.map Prod.snd = n.unsigned := by
  cases hf : n.fraction? <;> cases he : n.exponent? <;>
    simp [path, unsigned, fractionText, exponentText, fractionPath, exponentPath, Exponent.path,
      Exponent.text, hf, he, Function.comp_def]

end Numeral

namespace Phase

variable {p q : Phase} {l : List (Phase × Char)}

theorem path_congr (done : p.isComplete = q.isComplete)
    (next : ∀ e ∈ l.head?, p.next? e.2 = q.next? e.2) : p.Path l ↔ q.Path l := by
  cases l
  case nil      => simp [Path, done]
  case cons e _ => simp [Path, next e rfl]

-- The digits that a phase takes in without being left.
theorem path_iff_digits (loop : ∀ d, d.isDigit → p.next? d = some p) :
    p.Path l ↔ ∃ (ds : List Char) (l' : _), (∀ d ∈ ds, d.isDigit) ∧ l = ds.map (p, ·) ++ l' ∧
      p.Path l' ∧ ∀ e ∈ l'.head?, ¬e.2.isDigit := by
  constructor
  · intro h
    induction l
    case nil => exact ⟨[], [], by simp, rfl, h, by simp⟩
    case cons e l hi =>
      have ⟨q, c⟩ := e
      by_cases hc : c.isDigit
      · have hq : p = q := by simpa [loop c hc] using h.left
        subst hq
        have ⟨ds, l', hd, hl, hp⟩ := hi h.right
        exact ⟨c :: ds, l', by simp [hc]; exact hd, by simp [hl], hp⟩
      · exact ⟨[], (q, c) :: l, by simp, rfl, h, by simpa using hc⟩
  · intro ⟨ds, l', hd, hl, hp, _⟩
    subst hl
    induction ds
    case nil          => exact hp
    case cons d ds hi =>
      simp at hd
      exact ⟨loop d hd.left, hi hd.right⟩

-- A phase that needs a digit to be left.
theorem path_iff_enter (enter : ∀ c, p.next? c = if c.isDigit then some q else none)
    (hp : p.isComplete = false) :
    p.Path l ↔ ∃ d l', d.isDigit ∧ l = (q, d) :: l' ∧ q.Path l' := by
  cases l
  case nil      => simp [Path, hp]
  case cons e l =>
    have ⟨p', c⟩ := e
    simp [Path, enter]
    grind

theorem path_power_iff :
    power.Path l ↔ ∃ ds : List Char, (∀ d ∈ ds, d.isDigit) ∧ l = ds.map (power, ·) := by
  rw [path_iff_digits fun d hd => by simp [next?, hd]]
  constructor
  · intro ⟨ds, l', hd, hl, hp, hl'⟩
    cases l'
    case nil      => exact ⟨ds, hd, by simpa using hl⟩
    case cons e _ =>
      have := hp.left
      simp [next?] at this hl'
      simp [hl'] at this
  · intro ⟨ds, hd, hl⟩
    exact ⟨ds, [], hd, by simpa using hl, rfl, by simp⟩

theorem path_exponentSign_iff :
    exponentSign.Path l ↔ ∃ ds, IsDigits ds ∧ l = ds.map (power, ·) := by
  rw [path_iff_enter (q := power) (fun _ => rfl) rfl]
  simp only [path_power_iff]
  constructor
  · intro ⟨d, l', hd, hl, ds, hds, hl'⟩
    exact ⟨d :: ds, ⟨by simp, by simp [hd]; exact hds⟩, by simp [hl, hl']⟩
  · intro ⟨ds, ⟨hn, hd⟩, hl⟩
    cases ds
    case nil       => contradiction
    case cons d ds =>
      simp at hd
      exact ⟨d, ds.map (power, ·), hd.left, hl, ds, hd.right, rfl⟩

theorem next?_exponent {d : Char} (hd : d.isDigit) : exponent.next? d = some power := by
  have hs : ¬(d = '+' ∨ d = '-') := by
    intro h
    cases h <;> subst d <;> contradiction
  simp [next?, hd, hs]

theorem path_exponent_iff {c : Char} (hc : c = 'e' ∨ c = 'E') :
    exponent.Path l ↔ ∃ e : Exponent, e.WellFormed ∧ (exponent, c) :: l = e.path := by
  constructor
  · intro h
    cases l
    case nil      => simp [Path, isComplete] at h
    case cons e l =>
      have ⟨q, d⟩ := e
      have ⟨hq, hl⟩ := h
      by_cases hs : d = '+' ∨ d = '-'
      · simp [next?, hs] at hq
        subst hq
        have ⟨ds, hd, hl⟩ := path_exponentSign_iff.mp hl
        exact ⟨⟨c, some d, ds⟩, ⟨hc, by simpa using hs, hd⟩, by simp [Exponent.path, hl]⟩
      · have h : exponentSign.Path ((q, d) :: l) := ⟨by simpa [next?, hs] using hq, hl⟩
        have ⟨ds, hd, hl⟩ := path_exponentSign_iff.mp h
        exact ⟨⟨c, none, ds⟩, ⟨hc, by simp, hd⟩, by simp [Exponent.path, hl]⟩
  · intro ⟨⟨m, s?, ds⟩, ⟨_, hs, hd⟩, hl⟩
    have h := path_exponentSign_iff.mpr ⟨ds, hd, rfl⟩
    cases s?
    case some s =>
      simp [Exponent.path] at hl hs
      rw [hl.right]
      exact ⟨by simp [next?, hs], h⟩
    case none =>
      have ⟨hn, hd⟩ := hd
      cases ds
      case nil       => contradiction
      case cons d ds =>
        simp [Exponent.path] at hl hd
        rw [hl.right]
        exact ⟨next?_exponent hd.left, h.right⟩

-- What stands behind the last digit of the fraction.
theorem path_iff_exponentPath (done : p.isComplete)
    (exit : ∀ c, c.isDigit = false → p.next? c = ofExponentMark? c) :
    (p.Path l ∧ ∀ e ∈ l.head?, ¬e.2.isDigit) ↔
      ∃ e?, (∀ e ∈ e?, e.WellFormed) ∧ l = Numeral.exponentPath e? := by
  constructor
  · intro ⟨h, hd⟩
    cases l
    case nil      => exact ⟨none, by simp, rfl⟩
    case cons e l =>
      have ⟨q, c⟩ := e
      have ⟨hq, hl⟩ := h
      simp at hd
      simp [exit c hd, ofExponentMark?] at hq
      have ⟨hc, hq⟩ := hq
      subst hq
      have ⟨e, he, hl⟩ := (path_exponent_iff hc).mp hl
      exact ⟨some e, by simpa using he, hl⟩
  · intro ⟨e?, he, hl⟩
    cases e?
    case none   => simpa [hl, Numeral.exponentPath, Path] using done
    case some e =>
      simp at he
      have ⟨l', hl'⟩ : ∃ l', e.path = (exponent, e.mark) :: l' := ⟨_, rfl⟩
      have hd : e.mark.isDigit = false := by rcases he.mark with h | h <;> rw [h] <;> rfl
      have hp := (path_exponent_iff he.mark).mpr ⟨e, he, hl'.symm⟩
      rw [hl, Numeral.exponentPath, hl']
      exact ⟨⟨by simp [exit _ hd, ofExponentMark?, he.mark], hp⟩, by simp [hd]⟩

theorem path_fraction_iff :
    fraction.Path l ↔ ∃ (ds : List Char) (e? : _), (∀ d ∈ ds, d.isDigit) ∧
      (∀ e ∈ e?, e.WellFormed) ∧ l = ds.map (fraction, ·) ++ Numeral.exponentPath e? := by
  rw [path_iff_digits fun d hd => by simp [next?, hd]]
  simp only [path_iff_exponentPath (p := fraction) rfl fun c hc => by simp [next?, hc]]
  grind

theorem path_point_iff :
    point.Path l ↔ ∃ ds e?, IsDigits ds ∧ (∀ e ∈ e?, e.WellFormed) ∧
      l = ds.map (fraction, ·) ++ Numeral.exponentPath e? := by
  rw [path_iff_enter (q := fraction) (fun _ => rfl) rfl]
  simp only [path_fraction_iff]
  constructor
  · intro ⟨d, l', hd, hl, ds, e?, hds, he, hl'⟩
    exact ⟨d :: ds, e?, ⟨by simp, by simp [hd]; exact hds⟩, he, by simp [hl, hl']⟩
  · intro ⟨ds, e?, ⟨hn, hd⟩, he, hl⟩
    cases ds
    case nil       => contradiction
    case cons d ds =>
      simp at hd
      exact ⟨d, _, hd.left, hl, ds, e?, hd.right, he, rfl⟩

-- What stands behind the last digit of the integer.
theorem path_iff_fractionPath (done : p.isComplete)
    (exit : ∀ c, c.isDigit = false →
      p.next? c = if c = '.' then some point else ofExponentMark? c) :
    (p.Path l ∧ ∀ e ∈ l.head?, ¬e.2.isDigit) ↔
      ∃ f? e?, (∀ ds ∈ f?, IsDigits ds) ∧ (∀ e ∈ e?, e.WellFormed) ∧
        l = Numeral.fractionPath f? ++ Numeral.exponentPath e? := by
  -- Without a point, the phase makes no difference to what may follow.
  by_cases hc : ∃ e ∈ l.head?, e.2 = '.'
  case pos =>
    constructor
    · rintro ⟨h, -⟩
      cases l
      case nil => simp at hc
      case cons e l =>
        have ⟨q, c⟩ := e
        have ⟨hq, hl⟩ := h
        simp at hc
        rw [hc, exit '.' rfl] at hq
        cases hq
        have ⟨ds, e?, hd, he, hl⟩ := path_point_iff.mp hl
        exact ⟨some ds, e?, by simpa using hd, he, by simp [Numeral.fractionPath, hc, hl]⟩
    · intro ⟨f?, e?, hf, he, hl⟩
      cases f?
      case some ds =>
        have hp := path_point_iff.mpr ⟨ds, e?, by simpa using hf, he, rfl⟩
        rw [hl]
        exact ⟨⟨exit '.' rfl, hp⟩, by simp [Numeral.fractionPath]⟩
      case none =>
        cases e?
        case none   => simp [hl, Numeral.fractionPath, Numeral.exponentPath] at hc
        case some e =>
          simp [hl, Numeral.fractionPath, Numeral.exponentPath, Exponent.path] at hc he
          have := he.mark
          simp [hc] at this
  case neg =>
    have hp : (p.Path l ∧ ∀ e ∈ l.head?, ¬e.2.isDigit) ↔
        fraction.Path l ∧ ∀ e ∈ l.head?, ¬e.2.isDigit := by
      refine and_congr_left fun hd => path_congr (done.trans rfl) fun e he => ?_
      have hd : e.2.isDigit = false := by simpa using hd e he
      have hc : e.2 ≠ '.' := fun h => hc ⟨e, he, h⟩
      rw [exit e.2 hd]
      simp [hc, next?, hd]
    rw [hp, path_iff_exponentPath rfl fun c hc => by simp [next?, hc]]
    constructor
    · intro ⟨e?, he, hl⟩
      exact ⟨none, e?, by simp, he, hl⟩
    · intro ⟨f?, e?, _, he, hl⟩
      cases f?
      case none   => exact ⟨e?, he, hl⟩
      case some _ => simp [hl, Numeral.fractionPath] at hc

theorem next?_zero {c : Char} (h : zero.next? c = some q) : ¬c.isDigit := by
  simp only [next?, ofExponentMark?] at h
  intro hd
  have hc : c ≠ '.' ∧ c ≠ 'e' ∧ c ≠ 'E' := by
    refine ⟨?_, ?_, ?_⟩ <;> (rintro rfl; contradiction)
  simp [hc] at h

-- A number without its sign.
theorem path_minus_iff : minus.Path l ↔ ∃ n : Numeral, n.WellFormed ∧ l = n.path := by
  have hz l := path_iff_fractionPath (p := zero) (l := l) rfl fun _ _ => rfl
  have hd l := path_iff_fractionPath (p := digits) (l := l) rfl fun c hc => by simp [next?, hc]
  have loop d (hd : Char.isDigit d) : digits.next? d = some digits := by simp [next?, hd]
  constructor
  · intro h
    cases l
    case nil      => simp [Path, isComplete] at h
    case cons e l =>
      have ⟨q, c⟩ := e
      have ⟨hq, hl⟩ := h
      simp only [next?] at hq
      split at hq
      case isTrue hc =>
        cases hq
        have hn : ∀ e ∈ l.head?, ¬e.2.isDigit := by
          cases l
          case nil      => simp
          case cons e _ => simpa using next?_zero hl.left
        have ⟨f?, e?, hf, he, hl⟩ := (hz l).mp ⟨hl, hn⟩
        refine ⟨⟨false, ['0'], f?, e?⟩, ⟨.inl rfl, hf, he⟩, ?_⟩
        simp [Numeral.path, Numeral.integerPhase, hc, hl]
      case isFalse hc =>
        simp at hq
        have ⟨hc', hq⟩ := hq
        subst hq
        have ⟨ds, l', hds, hl, hl'⟩ := (path_iff_digits loop).mp hl
        have ⟨f?, e?, hf, he, hl'⟩ := (hd l').mp hl'
        refine ⟨⟨false, c :: ds, f?, e?⟩, ⟨.inr ⟨⟨by simp, ?_⟩, by simp [hc]⟩, hf, he⟩, ?_⟩
        · simp [hc']
          exact hds
        · simp [Numeral.path, Numeral.integerPhase, hc, hl, hl']
  · intro ⟨⟨_, ds, f?, e?⟩, ⟨hi, hf, he⟩, hl⟩
    simp at hi hf he
    simp only [hl, Numeral.path, Numeral.integerPhase]
    cases hi
    case inl hi =>
      have ⟨h, _⟩ := (hz _).mpr ⟨f?, e?, hf, he, rfl⟩
      simp only [hi]
      exact ⟨rfl, h⟩
    case inr hi =>
      have ⟨⟨hn, hds⟩, h0⟩ := hi
      cases ds
      case nil       => exact absurd rfl hn
      case cons c ds =>
        simp at h0 hds
        have hl := (hd _).mpr ⟨f?, e?, hf, he, rfl⟩
        have h := (path_iff_digits loop).mpr ⟨ds, _, hds.right, rfl, hl⟩
        simp [h0]
        exact ⟨by simp [next?, h0, hds.left], by simpa using h⟩

end Phase
end TunnelPorts.Json.Number
