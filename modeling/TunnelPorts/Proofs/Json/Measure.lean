import TunnelPorts.Proofs.Json.Number

/-!
The size of a number. What a measure knows at the end of a number is what its digits say, and so the
number is in range for the measure if it is in range. This is what scans of numbers that are kept
find out; those of numbers that are skipped only follow their form.
-/

namespace TunnelPorts.Json.Number

-- Prolonging a number never makes it smaller.
theorem le_value (n : Nat) (ds : List Char) : n ≤ value n ds := by
  induction ds generalizing n
  case nil          => exact Nat.le_refl n
  case cons d ds hi => exact Nat.le_trans (by omega) (hi (n * 10 + digit d))

theorem value_append (n : Nat) (cs ds : List Char) :
    value n (cs ++ ds) = value (value n cs) ds := by
  simp [value]

theorem fitting_cons (n : Nat) (d : Char) (ds : List Char) :
    fitting n (d :: ds) =
      if n * 10 + digit d < Measure.significandLimit then d :: fitting (n * 10 + digit d) ds
      else [] :=
  rfl

namespace Measure

variable {m : Measure}

-- The measure at the end of a path.
def along? (m : Measure) (l : List (Phase × Char)) : Option Measure :=
  l.foldlM (fun m (p, c) => m.take? p c) m

theorem along?_append (m : Measure) (l l' : List (Phase × Char)) :
    m.along? (l ++ l') = m.along? l >>= (along? · l') := by
  simp [along?]

theorem along?_integer {p : Phase} (hp : p = .zero ∨ p = .digits) (m : Measure) (ds : List Char) :
    m.along? (ds.map (p, ·)) = some (ds.foldl (fun m d => m.integerDigit (digit d)) m) := by
  induction ds generalizing m
  case nil          => rfl
  case cons d ds hi => cases hp <;> subst p <;> exact hi (m.integerDigit (digit d))

theorem along?_fraction (m : Measure) (ds : List Char) :
    m.along? (ds.map (.fraction, ·)) =
      some (ds.foldl (fun m d => m.fractionDigit (digit d)) m) := by
  induction ds generalizing m
  case nil          => rfl
  case cons d ds hi => exact hi (m.fractionDigit (digit d))

theorem foldl_integerDigit_full (h : m.full) (ds : List Char) :
    ds.foldl (fun m d => m.integerDigit (digit d)) m = { m with scale := m.scale + ds.length } := by
  induction ds generalizing m
  case nil          => simp
  case cons d ds hi =>
    have hd : m.integerDigit (digit d) = { m with scale := m.scale + 1 } := by
      simp [integerDigit, h]
    rw [List.foldl_cons, hd, hi (m := { m with scale := m.scale + 1 }) h]
    simp
    omega

-- Once a digit does not fit, it does not matter to the digits behind it that they might.
theorem foldl_integerDigit (h : m.full = false) (ds : List Char) :
    ∃ full, ds.foldl (fun m d => m.integerDigit (digit d)) m =
      { m with
        significand := value m.significand (fitting m.significand ds)
        scale := m.scale + (ds.length - (fitting m.significand ds).length)
        full } := by
  induction ds generalizing m
  case nil          => exact ⟨m.full, by simp [value, fitting]⟩
  case cons d ds hi =>
    by_cases hd : m.significand * 10 + digit d < significandLimit
    · have hm : m.integerDigit (digit d) =
          { m with significand := m.significand * 10 + digit d } := by
        simp [integerDigit, h, hd]
      have ⟨full, hi⟩ := hi (m := m.integerDigit (digit d)) (by simp [hm, h])
      refine ⟨full, ?_⟩
      rw [List.foldl_cons, hi]
      simp [hm, fitting_cons, hd, value]
    · have hm : m.integerDigit (digit d) = { m with full := true, scale := m.scale + 1 } := by
        simp [integerDigit]
        omega
      refine ⟨true, ?_⟩
      rw [List.foldl_cons, foldl_integerDigit_full (by simp [hm])]
      simp [hm, fitting_cons, hd, value]
      omega

theorem foldl_fractionDigit_full (h : m.full) (ds : List Char) :
    ds.foldl (fun m d => m.fractionDigit (digit d)) m = m := by
  induction ds
  case nil          => rfl
  case cons d ds hi =>
    have hd : m.fractionDigit (digit d) = m := by cases m; simp_all [fractionDigit]
    rw [List.foldl_cons, hd, hi]

theorem foldl_fractionDigit (h : m.full = false) (ds : List Char) :
    ∃ full, ds.foldl (fun m d => m.fractionDigit (digit d)) m =
      { m with
        significand := value m.significand (fitting m.significand ds)
        scale := m.scale - (fitting m.significand ds).length
        full } := by
  induction ds generalizing m
  case nil          => exact ⟨m.full, by simp [value, fitting]⟩
  case cons d ds hi =>
    by_cases hd : m.significand * 10 + digit d < significandLimit
    · have hm : m.fractionDigit (digit d) =
          { m with significand := m.significand * 10 + digit d, scale := m.scale - 1 } := by
        simp [fractionDigit, h, hd]
      have ⟨full, hi⟩ := hi (m := m.fractionDigit (digit d)) (by simp [hm, h])
      refine ⟨full, ?_⟩
      rw [List.foldl_cons, hi]
      simp [hm, fitting_cons, hd, value]
      omega
    · have hm : m.fractionDigit (digit d) = { m with full := true } := by
        simp [fractionDigit]
        omega
      refine ⟨true, ?_⟩
      rw [List.foldl_cons, foldl_fractionDigit_full (by simp [hm])]
      simp [hm, fitting_cons, hd, value]

theorem along?_power (m : Measure) (ds : List Char) :
    m.along? (ds.map (.power, ·)) = ds.foldlM (fun m d => m.powerDigit? (digit d)) m := by
  induction ds generalizing m
  case nil          => rfl
  case cons d ds hi => cases h : m.powerDigit? (digit d) <;> simp_all [along?, take?, digit]

theorem powerLimit_pos : 0 < powerLimit := by
  decide

theorem foldlM_powerDigit?_vanishing (h : m.vanishing) (ds : List Char) :
    ds.foldlM (fun m d => m.powerDigit? (digit d)) m = some m := by
  induction ds
  case nil          => rfl
  case cons d ds hi =>
    have hd : m.powerDigit? (digit d) = some m := by simp [powerDigit?, h]
    simpa [hd] using hi

theorem inRange_iff (h : m.vanishing = false) : m.inRange ↔ IsFinite m.significand m.exponent := by
  simp only [IsFinite, Binary64.isNearest_iff, exists_and_left, exists_eq_left,
    Binary64.roundNat_lt_iff]
  simp [inRange, h, or_assoc]

-- By the digits of the exponent, which is too long for good as soon as a part of it is. Once it is,
-- only zero and what is close to it is in range.
theorem inRange_power_iff (hv : m.vanishing = false) (hp : m.power < powerLimit) (ds : List Char) :
    (∃ m', m.along? (ds.map (.power, ·)) = some m' ∧ m'.inRange) ↔
      if value m.power ds < powerLimit then { m with power := value m.power ds }.inRange
      else m.significand = 0 ∨ m.powerNegative := by
  rw [along?_power]
  induction ds generalizing m
  case nil          => simp [value, hp]
  case cons d ds hi =>
    by_cases hd : m.power * 10 + digit d < powerLimit
    · have hm : m.powerDigit? (digit d) = some { m with power := m.power * 10 + digit d } := by
        simp [powerDigit?, hv, hd]
      rw [List.foldlM_cons, hm]
      exact hi hv hd
    · have hn : ¬value m.power (d :: ds) < powerLimit := by
        have := le_value (m.power * 10 + digit d) ds
        simp [value] at this ⊢
        omega
      by_cases hz : m.significand = 0 ∨ m.powerNegative
      · have hm : m.powerDigit? (digit d) = some { m with vanishing := true } := by
          simp [powerDigit?, hv, hd, hz]
        simp [hm, foldlM_powerDigit?_vanishing, hn, hz, inRange]
      · have hm : m.powerDigit? (digit d) = none := by
          simp [powerDigit?, hv, hd, hz]
        simp [hm, hn, hz]

end Measure

namespace Numeral

-- What is known before the exponent.
theorem along?_significand (n : Numeral) :
    ∃ full, Measure.along? {} (n.integer.map (n.integerPhase, ·) ++ fractionPath n.fraction?) =
      some { significand := n.significand, scale := n.scale, full } := by
  have hp : n.integerPhase = .zero ∨ n.integerPhase = .digits := by
    simp [integerPhase]
    grind
  obtain ⟨full, hi⟩ := Measure.foldl_integerDigit (m := {}) rfl n.integer
  rw [Measure.along?_append, Measure.along?_integer hp, hi]
  cases hf : n.fraction?
  case none =>
    refine ⟨full, ?_⟩
    simp [fractionPath, Measure.along?, significand, scale, fractionDigits, integerDigits, fitting,
      hf]
  case some ds =>
    obtain ⟨full, hd⟩ := Measure.foldl_fractionDigit
      (m := {
        significand := value 0 n.integerDigits
        scale := n.integer.length - n.integerDigits.length })
      rfl ds
    refine ⟨full, ?_⟩
    simp [fractionPath, significand, scale, fractionDigits, value_append, hf, ← hd]
    exact Measure.along?_fraction _ ds

theorem along?_exponent (e : Exponent) {m : Measure} (h : m.powerNegative = false) :
    m.along? e.path =
      { m with powerNegative := e.sign? = some '-' }.along? (e.digits.map (.power, ·)) := by
  cases hs : e.sign? <;> simp [Exponent.path, Measure.along?, Measure.take?, hs, ← h]

theorem inRange_of_exponent {n : Numeral} {e : Exponent} (h : n.exponent? = some e) :
    n.InRange ↔
      if value 0 e.digits < Measure.powerLimit then
        IsFinite n.significand
          (if e.sign? = some '-' then n.scale - value 0 e.digits else n.scale + value 0 e.digits)
      else n.significand = 0 ∨ e.sign? = some '-' := by
  rw [InRange, h]
  rfl

-- A number is in range for its measure if it is in range.
theorem along?_inRange_iff (n : Numeral) :
    (∃ m, Measure.along? {} n.path = some m ∧ m.inRange) ↔ n.InRange := by
  have ⟨full, hm⟩ := n.along?_significand
  rw [path, Measure.along?_append, hm]
  cases he : n.exponent?
  case none =>
    simp [exponentPath, Measure.along?, Measure.inRange_iff, Measure.exponent, InRange, he]
  case some e =>
    simp only [exponentPath, Option.bind_eq_bind, Option.bind_some, along?_exponent]
    rw [Measure.inRange_power_iff rfl Measure.powerLimit_pos, inRange_of_exponent he]
    simp [Measure.inRange_iff, Measure.exponent]

end Numeral

variable {p : Phase} {c : Char} {l : List (Phase × Char)}

theorem along?_ofFirst (h : Phase.minus.next? c = some p) (l : List (Phase × Char)) :
    (State.ofFirst p c).measure.along? l = Measure.along? {} ((p, c) :: l) := by
  simp only [Phase.next?] at h
  split at h
  case isTrue  => simp [State.ofFirst, Measure.along?, Measure.take?, ← Option.some.inj h]
  case isFalse => simp at h; simp [State.ofFirst, Measure.along?, Measure.take?, ← h.right]

-- A number is known by its first character and its path from there.
theorem exists_numeral (hc : Phase.first? c = some p) (hl : p.Path l) :
    ∃ n : Numeral, n.WellFormed ∧ c :: l.map Prod.snd = n.text ∧
      (State.ofFirst p c).measure.along? l = Measure.along? {} n.path := by
  by_cases hm : c = '-'
  case pos =>
    simp [Phase.first?, hm] at hc
    subst hc hm
    have ⟨n, ⟨hi, hf, he⟩, hn⟩ := Phase.path_minus_iff.mp hl
    refine ⟨{ n with negative := true }, ⟨hi, hf, he⟩, ?_, hn ▸ rfl⟩
    rw [hn, n.map_snd_path]
    rfl
  case neg =>
    simp only [Phase.first?, hm, if_false] at hc
    have hl : Phase.minus.Path ((p, c) :: l) := ⟨hc, hl⟩
    have ⟨n, ⟨hi, hf, he⟩, hn⟩ := Phase.path_minus_iff.mp hl
    refine ⟨{ n with negative := false }, ⟨hi, hf, he⟩, ?_, ?_⟩
    · exact (congrArg (List.map Prod.snd) hn).trans n.map_snd_path
    · rw [along?_ofFirst hc, hn]
      rfl

theorem Numeral.exists_first {n : Numeral} (h : n.WellFormed) :
    ∃ c p l, n.text = c :: l.map Prod.snd ∧ Phase.first? c = some p ∧ p.Path l ∧
      (State.ofFirst p c).measure.along? l = Measure.along? {} n.path := by
  have hp := Phase.path_minus_iff.mpr ⟨n, h, rfl⟩
  cases hn : n.negative
  case true  => exact ⟨'-', .minus, n.path, by simp [text, hn, map_snd_path], rfl, hp, rfl⟩
  case false =>
    cases hl : n.path
    case nil      => simp [hl, Phase.Path, Phase.isComplete] at hp
    case cons e l =>
      obtain ⟨p, c⟩ := e
      rw [hl] at hp
      have hc : c ≠ '-' := by
        intro hc
        simp [hc, Phase.Path, Phase.next?] at hp
      refine ⟨c, p, l, ?_, by simp [Phase.first?, hc, hp.left], hp.right, along?_ofFirst hp.left l⟩
      simp [text, hn, ← map_snd_path, hl]

-- A number may end before this character if it may end at all.
theorem Phase.next?_terminator (h : isBlank c ∨ c ∈ [',', ']', '\x7d']) (p : Phase) :
    p.next? c = none ∧ (p.isComplete → p.refuses c = false) := by
  simp [isBlank] at h
  rcases h with (((h | h) | h) | h) | h | h | h <;> subst h <;> cases p <;> decide

theorem Phase.step_ne_last (p : Phase) (c : Char) (u : Unit) : p.step c ≠ .last u := by
  simp only [Phase.step]
  grind

def skipped : Reader Phase Unit where
  start := .minus
  step := Phase.step
  stop := Phase.stop

def kept : Reader State Unit where
  start := ⟨.minus, {}⟩
  step := State.step
  stop := State.stop

variable {cs rest : List Char} {m : Measure}

theorem exists_path_of_skipped (h : skipped.scan p cs = .ok ((), rest)) :
    ∃ l, p.Path l ∧ cs = l.map Prod.snd ++ rest := by
  induction cs generalizing p
  case nil =>
    by_cases hp : p.isComplete <;> simp [Reader.scan, skipped, Phase.stop, hp, Except.map] at h
    exact ⟨[], hp, h.symm⟩
  case cons c cs hi =>
    cases hn : p.next? c
    case some q =>
      simp [Reader.scan, skipped, Phase.step, hn] at h
      obtain ⟨l, hl, hcs⟩ := hi h
      exact ⟨(q, c) :: l, ⟨hn, hl⟩, by simp [hcs]⟩
    case none =>
      by_cases hr : p.refuses c <;> simp [Reader.scan, skipped, Phase.step, hn, hr] at h
      simp [Phase.refuses] at hr
      exact ⟨[], hr.left, h⟩

theorem skipped_path (hl : p.Path l) (hr : Terminated rest) :
    skipped.scan p (l.map Prod.snd ++ rest) = .ok ((), rest) := by
  induction l generalizing p
  case nil =>
    cases rest
    case nil      => simp [Reader.scan, skipped, Phase.stop, show p.isComplete from hl, Except.map]
    case cons c _ =>
      obtain ⟨hn, hc⟩ := Phase.next?_terminator (hr c rfl) p
      simp [Reader.scan, skipped, Phase.step, hn, hc hl]
  case cons e l hi =>
    simpa [Reader.scan, skipped, Phase.step, hl.left] using hi hl.right

theorem exists_path_of_kept (h : kept.scan ⟨p, m⟩ cs = .ok ((), rest)) :
    ∃ l, p.Path l ∧ cs = l.map Prod.snd ++ rest ∧ ∃ m', m.along? l = some m' ∧ m'.inRange := by
  induction cs generalizing p m
  case nil =>
    by_cases hp : p.isComplete <;> by_cases hm : m.inRange <;>
      simp [Reader.scan, kept, State.stop, State.finish, hp, hm, Except.map] at h
    exact ⟨[], hp, h.symm, m, rfl, hm⟩
  case cons c cs hi =>
    cases hn : p.next? c
    case some q =>
      cases ht : m.take? q c <;> simp [Reader.scan, kept, State.step, hn, ht] at h
      obtain ⟨l, hl, hcs, m', hm, hr⟩ := hi h
      exact ⟨(q, c) :: l, ⟨hn, hl⟩, by simp [hcs], m', by simpa [Measure.along?, ht] using hm, hr⟩
    case none =>
      by_cases hr : p.refuses c <;> by_cases hm : m.inRange <;>
        simp [Reader.scan, kept, State.step, State.finish, hn, hr, hm] at h
      simp [Phase.refuses] at hr
      exact ⟨[], hr.left, h, m, rfl, hm⟩

theorem kept_path {m' : Measure} (hl : p.Path l) (hm : m.along? l = some m') (hi : m'.inRange)
    (hr : Terminated rest) : kept.scan ⟨p, m⟩ (l.map Prod.snd ++ rest) = .ok ((), rest) := by
  induction l generalizing p m
  case nil =>
    cases hm
    cases rest
    case nil      =>
      simp [Reader.scan, kept, State.stop, State.finish, show p.isComplete from hl, hi, Except.map]
    case cons c _ =>
      obtain ⟨hn, hc⟩ := Phase.next?_terminator (hr c rfl) p
      simp [Reader.scan, kept, State.step, State.finish, hn, hc hl, hi]
  case cons e l ih =>
    cases ht : m.take? e.1 e.2 <;> simp [Measure.along?, ht] at hm
    simpa [Reader.scan, kept, State.step, hl.left, ht] using ih hl.right hm

end TunnelPorts.Json.Number
