import TunnelPorts.Proofs.Json.Level
import TunnelPorts.Proofs.Json.Prefix

/-!
Strings and numbers by their characters alone. A string goes from a quote to the next one that has
no backslash before it, and outside of strings the characters of numbers stand side by side in
numbers only. All readers keep to that, wherever they are in a text.
-/

namespace TunnelPorts.Json

-- Outside of strings, some of these may also end a word, but two of them are part of a number.
def isNumeric (c : Char) : Bool :=
  c.isDigit || c = '-' || c = '+' || c = '.' || c = 'e' || c = 'E'

-- What the beginning of a text ends with.
inductive Ending
  | plain
  | numeric
  -- Within a string, …
  | string
  -- … and there behind a backslash.
  | escaped
  deriving DecidableEq, Repr

namespace Ending

def step (q : Ending) (c : Char) : Ending :=
  match q with
  | escaped         => string
  | string          => if c = '"' then plain else if c = '\\' then escaped else string
  | plain | numeric => if c = '"' then string else if isNumeric c then numeric else plain

def of (cs : List Char) : Ending :=
  cs.foldl step plain

def IsOutside (q : Ending) : Prop :=
  q = plain ∨ q = numeric

variable {q : Ending} {c : Char}

@[simp]
theorem isOutside_plain : plain.IsOutside :=
  .inl rfl

theorem isOutside_numeric : numeric.IsOutside :=
  .inr rfl

theorem IsOutside.step (h : q.IsOutside) (hc : c ≠ '"') : (q.step c).IsOutside := by
  rcases h with rfl | rfl <;> by_cases hn : isNumeric c <;> simp [Ending.step, IsOutside, hc, hn]

theorem IsOutside.step_blank (h : q.IsOutside) (hc : isBlank c) : (q.step c).IsOutside := by
  refine h.step ?_
  rintro rfl
  contradiction

theorem IsOutside.step_quote (h : q.IsOutside) : q.step '"' = string := by
  rcases h with rfl | rfl <;> rfl

theorem IsOutside.step_numeric (h : q.IsOutside) (hc : isNumeric c) : q.step c = numeric := by
  have hq : c ≠ '"' := by
    rintro rfl
    contradiction
  rcases h with rfl | rfl <;> simp [Ending.step, hq, hc]

end Ending

open Ending (numeric string escaped)

variable {σ α : Type} {P : σ → Ending → Prop} {leave : Ending → Prop} {q : Ending} {c : Char}

-- A reader meets `c` behind a text that ends with `q`, and makes a step. `P s q` says that it may be
-- in the state `s` there. When it is done, the text ends with something that satisfies `leave`.
def Step.Keeps (P : σ → Ending → Prop) (leave : Ending → Prop) (q : Ending) (c : Char) :
    Step σ α → Prop
  | .more s   => P s (q.step c)
  | .last _   => leave (q.step c)
  | .past _   => leave q
  | .fail _ _ => True

namespace Reader

def Keeps (r : Reader σ α) (P : σ → Ending → Prop) (leave : Ending → Prop) : Prop :=
  ∀ s q c, P s q → (r.step s c).Keeps P leave q c

theorem Keeps.after? {r : Reader σ α} (h : r.Keeps P leave) {s t : σ} {pre : List Char}
    (hs : P s q) (ht : r.after? s pre = some t) : P t (pre.foldl Ending.step q) := by
  induction pre generalizing s q
  case nil =>
    cases ht
    exact hs
  case cons c pre hi =>
    have hk := h s q c hs
    cases hc : r.step s c <;> simp [Reader.after?, hc] at ht
    rw [hc] at hk
    exact hi hk ht

end Reader

namespace Text

namespace Code

-- Four bytes that are not all of them digits are no code, and no matter what they are.
def Stands (k : Code) (q : Ending) : Prop :=
  k.value?.isSome → q = string

theorem step_string_digit (h : (TunnelPorts.Text.hexDigit? c).isSome) : string.step c = string := by
  have hq : c ≠ '"' := by
    rintro rfl
    contradiction
  have hb : c ≠ '\\' := by
    rintro rfl
    contradiction
  simp [Ending.step, hq, hb]

theorem keeps : reader.Keeps Stands (· = string) := by
  intro k q c hs
  simp only [reader, Code.step]
  cases hk : k.value? <;> cases hd : TunnelPorts.Text.hexDigit? c <;>
    by_cases hc : c.utf8Size < k.missing <;> simp [hc, Step.Keeps, Stands]
  all_goals rw [hs (by simp [hk]), step_string_digit (by simp [hd])]

end Code

namespace Shape

def Stands : Shape → Ending → Prop
  | plain, q  => q = string
  | escape, q => q = escaped
  | code k, q => k.Stands q

theorem keeps : reader.Keeps Stands Ending.IsOutside := by
  intro s q c hs
  cases s
  case plain =>
    cases hs
    by_cases hq : c = '"' <;> by_cases hb : c = '\\' <;> by_cases hc : isControl c <;>
      simp [reader, Shape.step, hq, hb, hc, Step.Keeps, Stands, Ending.step]
  case escape =>
    cases hs
    by_cases hu : c = 'u' <;> by_cases he : (escape? c).isSome <;>
      simp [reader, Shape.step, hu, he, Step.Keeps, Stands, Code.Stands, Ending.step]
  case code k =>
    have hk := Code.keeps k q c hs
    simp only [Code.reader] at hk
    simp only [reader, Shape.step]
    cases h : k.step c <;> rw [h] at hk
    case past n => exact absurd h <| k.step_ne_past c n
    case fail   => trivial
    all_goals exact hk

end Shape

namespace State

def Stands (s : State) (q : Ending) : Prop :=
  match s.phase with
  | .plain | .half _        => q = string
  | .escape | .halfEscape _ => q = escaped
  | .code k | .halfCode _ k => k.Stands q

theorem keeps : reader.Keeps Stands Ending.IsOutside := by
  intro s q c hs
  have ⟨text, phase⟩ := s
  cases phase
  case plain =>
    cases hs
    by_cases hq : c = '"' <;> by_cases hb : c = '\\' <;> by_cases hc : isControl c <;>
      simp [reader, State.step, push, hq, hb, hc, Step.Keeps, Stands, Ending.step]
  case escape =>
    cases hs
    by_cases hu : c = 'u' <;> cases he : escape? c <;>
      simp [reader, State.step, push, hu, he, Step.Keeps, Stands, Code.Stands, Ending.step]
  case half n =>
    cases hs
    by_cases hb : c = '\\' <;> simp [reader, State.step, hb, Step.Keeps, Stands, Ending.step]
  case halfEscape n =>
    cases hs
    by_cases hu : c = 'u' <;>
      simp [reader, State.step, hu, Step.Keeps, Stands, Code.Stands, Ending.step]
  case code k =>
    have hk := Code.keeps k q c hs
    simp only [Code.reader] at hk
    simp only [reader, State.step]
    cases h : k.step c <;> rw [h] at hk
    case more l => exact hk
    case last n =>
      cases hl : isLowHalf n <;> cases hh : isHighHalf n <;> simp [push, hl, hh, Step.Keeps]
      all_goals exact hk
    case past n => exact absurd h <| k.step_ne_past c n
    case fail   => trivial
  case halfCode m k =>
    have hk := Code.keeps k q c hs
    simp only [Code.reader] at hk
    simp only [reader, State.step]
    cases h : k.step c <;> rw [h] at hk
    case more l => exact hk
    case last n =>
      cases hl : isLowHalf n <;> simp [push, hl, Step.Keeps]
      exact hk
    case past n => exact absurd h <| k.step_ne_past c n
    case fail   => trivial

end State
end Text

namespace Number

variable {p p' : Phase}

theorem Phase.isNumeric_of_next? (h : p.next? c = some p') : isNumeric c := by
  have h0 : c = '0' → c.isDigit := fun h => h ▸ rfl
  cases p <;> simp only [next?, ofExponentMark?] at h <;> simp [isNumeric] <;> grind

theorem Phase.isNumeric_of_first? (h : first? c = some p) : isNumeric c := by
  simp only [first?] at h
  split at h
  case isTrue hc => simp [isNumeric, hc]
  case isFalse   => exact isNumeric_of_next? h

theorem keeps_kept : kept.Keeps (fun _ q => q = numeric) Ending.IsOutside := by
  intro s q c hs
  cases hs
  simp only [kept, State.step]
  cases hp : s.phase.next? c
  case some p =>
    cases hm : s.measure.take? p c <;> simp only [hm]
    case none => trivial
    case some =>
      exact Ending.isOutside_numeric.step_numeric <| Phase.isNumeric_of_next? hp
  case none =>
    by_cases hr : s.phase.refuses c <;> cases hf : s.finish <;>
      simp [hr, Step.Keeps, Ending.isOutside_numeric]

end Number

namespace Skip.State

def Stands : State → Ending → Prop
  | word _ next ds, q          => q.IsOutside ∧ '"' ∉ next :: ds
  | number _ _, q              => q = numeric
  | keyText _ t, q | text _ t, q => t.Stands q
  | _, q                       => q.IsOutside

variable {w o : List Bracket} {b : Bracket}

theorem keeps_complete (h : (q.step c).IsOutside) :
    (complete w).Keeps Stands Ending.IsOutside q c := by
  cases w <;> exact h

theorem keeps_begin (hq : q.IsOutside) : (begin w c).Keeps Stands Ending.IsOutside q c := by
  fun_cases begin w c
  case case1 => exact hq.step_quote
  case case2 => exact hq.step (by decide)
  case case3 => exact hq.step (by decide)
  case case7 p hp _ _ _ _ _ _ =>
    rw [hp]
    exact hq.step_numeric <| Number.Phase.isNumeric_of_first? hp
  case case8 hp _ _ _ _ _ _ =>
    rw [hp]
    trivial
  all_goals exact ⟨hq.step (by decide), by simp⟩

theorem keeps_beginKey (hq : q.IsOutside) : (beginKey o c).Keeps Stands Ending.IsOutside q c := by
  simp only [beginKey]
  split
  case isTrue hc => exact hc ▸ hq.step_quote
  case isFalse   => trivial

theorem closing_ne_quote (b : Bracket) : b.closing ≠ '"' := by
  cases b <;> decide

theorem keeps_follow (hq : q.IsOutside) : (follow b o c).Keeps Stands Ending.IsOutside q c := by
  simp only [follow]
  split
  case isTrue hc => exact hq.step_blank hc
  split
  case isTrue hc => exact keeps_complete <| hq.step <| hc ▸ closing_ne_quote b
  split
  case isFalse   => trivial
  case isTrue hc =>
    have hq : (q.step c).IsOutside := hq.step <| hc ▸ by decide
    cases b <;> exact hq

end Skip.State

namespace Skip

open State

theorem keeps : reader.Keeps Stands Ending.IsOutside := by
  intro s q c hs
  rw [reader_step]
  cases s
  case value w =>
    simp only [step]
    split
    case isTrue hc => exact hs.step_blank hc
    case isFalse   => exact keeps_begin hs
  case opened b o =>
    simp only [step]
    split
    case isTrue hc => exact hs.step_blank hc
    split
    case isTrue hc => exact keeps_complete <| hs.step <| hc ▸ closing_ne_quote b
    cases b
    case array  => exact keeps_begin hs
    case object => exact keeps_beginKey hs
  case after b o => exact keeps_follow hs
  case key o =>
    simp only [step]
    split
    case isTrue hc => exact hs.step_blank hc
    case isFalse   => exact keeps_beginKey hs
  case keyText o t =>
    have hk := Text.Shape.keeps t q c hs
    simp only [Text.Shape.reader] at hk
    simp only [step]
    cases h : t.step c <;> rw [h] at hk
    case past u => exact absurd h <| t.step_ne_past c u
    case fail   => trivial
    all_goals exact hk
  case colon o =>
    simp only [step]
    split
    case isTrue hc => exact hs.step_blank hc
    split
    case isTrue hc => exact hs.step <| hc ▸ by decide
    case isFalse   => trivial
  case word w next ds =>
    obtain ⟨hq, hn⟩ := hs
    simp at hn
    simp only [step]
    split
    case isFalse   => trivial
    case isTrue hc =>
      have hq := hq.step <| hc ▸ Ne.symm hn.left
      cases ds
      case nil       => exact keeps_complete hq
      case cons d ds => exact ⟨hq, by simpa using hn.right⟩
  case number w p =>
    have hq : q.IsOutside := .inr hs
    simp only [step, Number.Phase.step]
    cases hp : p.next? c
    case some p' => exact hq.step_numeric <| Number.Phase.isNumeric_of_next? hp
    case none    =>
      by_cases hr : p.refuses c <;> simp only [hr]
      case pos => trivial
      case neg =>
        cases w
        case nil      => exact hq
        case cons b o => exact keeps_follow hq
  case text w t =>
    have hk := Text.Shape.keeps t q c hs
    simp only [Text.Shape.reader] at hk
    simp only [step]
    cases h : t.step c <;> rw [h] at hk
    case more t => exact hk
    case last u => exact keeps_complete hk
    case past u => exact absurd h <| t.step_ne_past c u
    case fail   => trivial

end Skip

namespace Level

namespace ItemState

def Stands : ItemState → Ending → Prop
  | item s, q => s.Stands q
  | _, q      => q.IsOutside

theorem keeps_follow (hq : q.IsOutside) : (follow c).Keeps Stands Ending.IsOutside q c := by
  simp only [follow]
  split
  case isTrue hc => exact hq.step_blank hc
  split
  case isTrue hc => exact hq.step <| hc ▸ by decide
  split
  case isTrue hc => exact hq.step <| hc ▸ by decide
  case isFalse   => trivial

theorem keeps_inItem {s : Skip.State} (hs : s.Stands q) :
    (inItem s c).Keeps Stands Ending.IsOutside q c := by
  have hk := Skip.keeps s q c hs
  simp only [inItem]
  cases h : Skip.reader.step s c <;> rw [h] at hk
  case past u => exact keeps_follow hk
  case fail   => trivial
  all_goals exact hk

theorem keeps : reader.Keeps Stands Ending.IsOutside := by
  intro s q c hs
  simp only [reader]
  cases s
  case item s => exact keeps_inItem hs
  case after  => exact keeps_follow hs
  case opened =>
    simp only [step]
    split
    case isTrue hc => exact hs.step_blank hc
    split
    case isTrue hc => exact hs.step <| hc ▸ by decide
    case isFalse   => exact keeps_inItem hs
  case comma =>
    simp only [step]
    split
    case isTrue hc => exact hs.step_blank hc
    split
    case isTrue  => trivial
    case isFalse => exact keeps_inItem hs

end ItemState

variable {child : Reader σ α} {es : Entries α}

def Stands (P : σ → Ending → Prop) : State σ α → Ending → Prop
  | .word next ds _, q        => q.IsOutside ∧ '"' ∉ next :: ds
  | .number _, q              => q = numeric
  | .text t, q                => t.Stands q
  | .array s, q               => s.Stands q
  | .object _ (.key t), q     => t.Stands q
  | .object _ (.value _ s), q => P s q
  | _, q                      => q.IsOutside

theorem keeps_begin (hq : q.IsOutside) :
    (begin c : Step (State σ α) (Level α)).Keeps (Stands P) Ending.IsOutside q c := by
  fun_cases begin c
  case case1 => exact hq.step_quote
  case case2 => exact hq.step (by decide)
  case case3 => exact hq.step (by decide)
  case case7 p hp _ _ _ _ _ _ =>
    rw [hp]
    exact hq.step_numeric <| Number.Phase.isNumeric_of_first? hp
  case case8 hp _ _ _ _ _ _ =>
    rw [hp]
    trivial
  all_goals exact ⟨hq.step (by decide), by simp⟩

theorem keeps_follow (hq : q.IsOutside) :
    (follow es c : Step (State σ α) (Level α)).Keeps (Stands P) Ending.IsOutside q c := by
  simp only [follow]
  split
  case isTrue hc => exact hq.step_blank hc
  split
  case isTrue hc => exact hq.step <| hc ▸ by decide
  split
  case isTrue hc => exact hq.step <| hc ▸ by decide
  case isFalse   => trivial

theorem keeps_beginKey (hq : q.IsOutside) :
    (beginKey es c : Step (State σ α) (Level α)).Keeps (Stands P) Ending.IsOutside q c := by
  simp only [beginKey]
  split
  case isTrue hc => exact hc ▸ hq.step_quote
  case isFalse   => trivial

theorem keeps_stepObject (h : child.Keeps P Ending.IsOutside)
    (h₀ : ∀ q : Ending, q.IsOutside → P child.start q) {s : MemberState σ}
    (hs : Stands P (.object es s) q) :
    (stepObject child es s c).Keeps (Stands P) Ending.IsOutside q c := by
  cases s
  case opened =>
    simp only [stepObject]
    split
    case isTrue hc => exact Ending.IsOutside.step_blank hs hc
    split
    case isTrue hc => exact Ending.IsOutside.step hs <| hc ▸ by decide
    case isFalse   => exact keeps_beginKey hs
  case key t =>
    have hk := Text.State.keeps t q c hs
    simp only [Text.State.reader] at hk
    simp only [stepObject]
    cases h : t.step c <;> rw [h] at hk
    case past u => exact absurd h <| t.step_ne_past c u
    case fail   => trivial
    all_goals exact hk
  case colon k =>
    simp only [stepObject]
    split
    case isTrue hc => exact Ending.IsOutside.step_blank hs hc
    split
    case isTrue hc => exact h₀ _ <| Ending.IsOutside.step hs <| hc ▸ by decide
    case isFalse   => trivial
  case value k s =>
    have hk := h s q c hs
    simp only [stepObject]
    cases h : child.step s c <;> rw [h] at hk
    case past u => exact keeps_follow hk
    case fail   => trivial
    all_goals exact hk
  case after => exact keeps_follow hs
  case comma =>
    simp only [stepObject]
    split
    case isTrue hc => exact Ending.IsOutside.step_blank hs hc
    split
    case isTrue  => trivial
    case isFalse => exact keeps_beginKey hs

theorem keeps_map {τ β : Type} {s : Step τ β} {f : τ → State σ α} {g : β → Level α}
    {Q : τ → Ending → Prop} (hk : s.Keeps Q Ending.IsOutside q c)
    (hf : ∀ t q, Q t q → Stands P (f t) q) :
    (s.map f g).Keeps (Stands P) Ending.IsOutside q c := by
  cases s
  case more t => exact hf _ _ hk
  all_goals exact hk

theorem keeps (h : child.Keeps P Ending.IsOutside)
    (h₀ : ∀ q : Ending, q.IsOutside → P child.start q) :
    (reader child).Keeps (Stands P) Ending.IsOutside := by
  intro s q c hs
  rw [reader_step]
  cases s
  case value =>
    simp only [step]
    split
    case isTrue hc => exact Ending.IsOutside.step_blank hs hc
    case isFalse   => exact keeps_begin hs
  case word next ds found =>
    obtain ⟨hq, hn⟩ := hs
    simp at hn
    simp only [step]
    split
    case isFalse   => trivial
    case isTrue hc =>
      have hq := hq.step <| hc ▸ Ne.symm hn.left
      cases ds
      case nil       => exact hq
      case cons d ds => exact ⟨hq, by simpa using hn.right⟩
  case number s    => exact keeps_map (Number.keeps_kept s q c hs) fun _ _ => id
  case text t      => exact keeps_map (Text.State.keeps t q c hs) fun _ _ => id
  case array s     => exact keeps_map (ItemState.keeps s q c hs) fun _ _ => id
  case object es s => exact keeps_stepObject h h₀ hs

end Level

end TunnelPorts.Json
