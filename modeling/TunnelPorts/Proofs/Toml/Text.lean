import TunnelPorts.Proofs.Scan
import TunnelPorts.Toml.Text

/-!
Reading of quoted texts. `Spells` says which characters between two quotes stand for a text: each
character of the text stands for itself or is written as an escape. Every text can be spelled, and
what spells a text is read as that text.
-/

namespace TunnelPorts

open Scan

namespace Text

inductive Spells : (body text : List Char) → Prop
  | nil : Spells [] []
  | plain {c body text} : isPlain c → c ≠ '"' → c ≠ '\\' → Spells body text →
      Spells (c :: body) (c :: text)
  | letter {l c body text} : letterEscape? l = some c → Spells body text →
      Spells ('\\' :: l :: body) (c :: text)
  | code {u n ds c body text} : codeLength? u = some n → ds.length = n → ds.all isHexDigit →
      ofCode? (ofDigits 16 ds) = some c → Spells body text →
      Spells ('\\' :: u :: (ds ++ body)) (c :: text)

variable {c l u : Char} {n : Nat} {ds body s rest : List Char}

theorem run_escaped_letter (h : letterEscape? l = some c) (rest : List Char) :
    escaped.run (l :: rest) = some (c, rest) := by
  have hl : codeLength? l = none := by
    rw [letterEscape?.eq_def] at h
    split at h <;> first | rfl | cases h
  rw [escaped, run_bind_of (run_next ..), hl]
  simp [h]

theorem run_escaped_code (hu : codeLength? u = some n) (hn : ds.length = n) (hd : ds.all isHexDigit)
    (hc : ofCode? (ofDigits 16 ds) = some c) (rest : List Char) :
    escaped.run (u :: (ds ++ rest)) = some (c, rest) := by
  rw [escaped, run_bind_of (run_next ..), hu]
  dsimp only
  rw [run_bind_of (run_exactly hd hn), hc]
  rfl

theorem run_quotedBody_of_ne (hq : c ≠ '"') (fuel : Nat) (text : String) (s : List Char) :
    (quotedBody (fuel + 1) text).run (c :: s) =
      if c = '\\' then (escaped >>= fun c => quotedBody fuel (text.push c)).run s
      else if isPlain c then (quotedBody fuel (text.push c)).run s
      else none := by
  rw [quotedBody, run_bind_of (run_next ..), if_neg hq]
  split_ifs <;> rfl

theorem push_append_ofList (text : String) (c : Char) (s : List Char) :
    text.push c ++ .ofList s = text ++ .ofList (c :: s) := by
  apply String.toList_injective
  simp

-- What was read already is `text`.
theorem run_quotedBody (h : Spells body s) (text : String) {fuel : Nat} (hf : body.length < fuel) :
    (quotedBody fuel text).run (body ++ '"' :: rest) = some (text ++ .ofList s, rest) := by
  induction h generalizing text fuel
  all_goals
    have ⟨fuel, hf'⟩ := Nat.exists_eq_add_one_of_ne_zero (Nat.ne_zero_of_lt hf)
    subst hf'
  case nil =>
    rw [quotedBody, List.nil_append, run_bind_of (run_next ..)]
    simp
  case plain c body s hp hq hb _ hi =>
    rw [List.cons_append, run_quotedBody_of_ne hq, if_neg hb, if_pos hp,
      hi (text.push c) (by simp at hf; omega), push_append_ofList]
  case letter l c body s hl _ hi =>
    rw [List.cons_append, run_quotedBody_of_ne (by decide), if_pos rfl, List.cons_append,
      run_bind_of (run_escaped_letter hl _), hi (text.push c) (by simp at hf; omega),
      push_append_ofList]
  case code u n ds c body s hu hn hd hc _ hi =>
    rw [List.cons_append, run_quotedBody_of_ne (by decide), if_pos rfl, List.cons_append,
      List.append_assoc, run_bind_of (run_escaped_code hu hn hd hc _),
      hi (text.push c) (by simp at hf; omega), push_append_ofList]

theorem run_quotedText (h : Spells body s) (rest : List Char) :
    quotedText.run ('"' :: (body ++ '"' :: rest)) = some (.ofList s, rest) := by
  rw [quotedText, run_bind_of (run_eat _ _), run_bind_of (run_get _),
    run_quotedBody h "" (by simp)]
  simp

-- Digits of the code point of an ASCII character.
def asciiCode (n : Nat) : List Char :=
  ['0', '0', Nat.digitChar (n / 16), Nat.digitChar (n % 16)]

theorem ofDigits_asciiCode :
    ∀ n < 128, (asciiCode n).all isHexDigit ∧ ofDigits 16 (asciiCode n) = n := by
  decide

theorem toNat_lt_of_not_isPlain (h : isPlain c = false) : c.toNat < 128 := by
  simp only [isPlain, Bool.or_eq_false_iff, Bool.and_eq_false_iff, decide_eq_false_iff_not] at h
  rcases h.right with h | h
  case inl =>
    simp [Char.le_def, UInt32.le_iff_toNat_le] at h
    omega
  case inr =>
    have hc : c = '\x7f' := by simpa using h
    subst hc
    decide

theorem ofCode?_toNat (c : Char) : ofCode? c.toNat = some c := by
  have hc : c.toNat.isValidChar := c.valid
  rw [ofCode?, if_pos hc, Char.ofNat_toNat]

-- A way to write a character between quotes, and a text.
def escape (c : Char) : List Char :=
  if c = '"' || c = '\\' then ['\\', c]
  else if isPlain c then [c]
  else '\\' :: 'u' :: asciiCode c.toNat

theorem spells_escape (s : List Char) : Spells (s.flatMap escape) s := by
  induction s
  case nil => exact .nil
  case cons c s hi =>
    rw [List.flatMap_cons, escape]
    split
    case isTrue hm =>
      refine .letter ?_ hi
      simp only [Bool.or_eq_true, decide_eq_true_eq] at hm
      rcases hm with rfl | rfl <;> rfl
    case isFalse hm =>
      split
      case isTrue hp =>
        simp only [Bool.or_eq_true, decide_eq_true_eq, not_or] at hm
        exact .plain hp hm.left hm.right hi
      case isFalse hp =>
        have ⟨hd, hn⟩ := ofDigits_asciiCode c.toNat <| toNat_lt_of_not_isPlain (by simpa using hp)
        exact .code (n := 4) rfl rfl hd (by rw [hn, ofCode?_toNat]) hi

end Text

namespace Toml.Quoted

variable {body s rest : List Char}

-- Behind an empty text must not stand another quote: three of them open a text of several lines.
theorem run_any (h : Text.Spells body s) (hr : Stops (· = '"') rest) :
    any.run ('"' :: (body ++ '"' :: rest)) = some (.ofList s, rest) := by
  have hl : "\"\"\"".toList.isPrefixOf ('"' :: (body ++ '"' :: rest)) = false := by
    cases h
    case nil =>
      cases rest
      case nil  => rfl
      case cons c _ =>
        have hc : '"' ≠ c := by simpa [Stops, eq_comm] using hr
        simp [List.isPrefixOf, hc]
    case plain hq _ _ => simp [List.isPrefixOf, hq.symm]
    all_goals rfl
  have hp : peek?.run ('"' :: (body ++ '"' :: rest)) = some (some '"', _) := rfl
  rw [any, run_bind_of (run_eatsWord_of_not hl), if_neg Bool.false_ne_true,
    run_bind_of (run_eatsWord_of_not rfl), if_neg Bool.false_ne_true, single, run_bind_of hp,
    if_pos rfl, Text.run_quotedText h]

end Toml.Quoted
end TunnelPorts
