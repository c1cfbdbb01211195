import TunnelPorts.Extract
import TunnelPorts.Proofs.Json.Level

/-!
Documents are read as they are spelled: the texts that are accepted are those of the grammar, and
each gives the document that it spells.
-/

namespace TunnelPorts

open Json.Number (Numeral IsDigits)

theorem Json.documentReader_reads :
    documentReader.Reads
      (Level.Spells (Level.Spells (Level.Spells fun v _ => Formed .value v))) :=
  Level.reads <| Level.reads <| Level.reads Skip.reads

theorem Document.parse_eq_ok_iff {text : String} {doc : Document} :
    Document.parse text = .ok doc ↔ doc.SpelledIn text :=
  Json.documentReader_reads.run_eq_ok_iff

theorem Document.ofText_eq_ok_iff {text : String} {doc : Document} :
    Document.ofText text = .ok doc ↔ Document.parse text = .ok doc := by
  rw [Document.ofText]
  cases Document.parse text <;> simp [Except.mapError]

-- No text spells two documents, and those that spell none are no JSON.
theorem Document.ofText_iff_spelledIn (text : String) :
    (∀ doc, Document.ofText text = .ok doc ↔ doc.SpelledIn text) ∧
      ((∃ e, Document.ofText text = .error (.invalidJson e)) ↔
        ∀ doc : Document, ¬doc.SpelledIn text) := by
  have h (doc : Document) : Document.ofText text = .ok doc ↔ doc.SpelledIn text :=
    ofText_eq_ok_iff.trans parse_eq_ok_iff
  refine ⟨h, ?_⟩
  simp only [← h]
  rw [Document.ofText]
  cases Document.parse text <;> simp [Except.mapError]

theorem Json.Number.wellFormed_scientific {integer power : List Char} (hi : IsDigits integer)
    (hz : integer.head? ≠ some '0') (hp : IsDigits power) :
    Numeral.WellFormed ⟨false, integer, none, some ⟨'e', none, power⟩⟩ where
  integer := .inr ⟨hi, hz⟩
  fraction := nofun
  exponent _ he := Option.mem_some_iff.mp he ▸ ⟨.inl rfl, nofun, hp⟩

-- What is rounded to a finite double may still be refused, and what is not may be read: all that
-- counts is the product of what the parts of a number are rounded to.
theorem Document.ofText_near_overflow :
    let below : Numeral :=
      ⟨false, "17976931348623158".toList, none, some ⟨'e', none, "292".toList⟩⟩
    let above : Numeral :=
      ⟨false, "179769313486231581".toList, none, some ⟨'e', none, "291".toList⟩⟩
    (below.WellFormed ∧
        (∃ x, Binary64.IsNearest (17976931348623158 * 10 ^ 292) x ∧ x < 2 ^ 1024) ∧
        ∀ doc, Document.ofText (.ofList below.text) ≠ .ok doc) ∧
      above.WellFormed ∧
        (∃ x, Binary64.IsNearest (179769313486231581 * 10 ^ 291) x ∧ 2 ^ 1024 ≤ x) ∧
        ∃ doc, Document.ofText (.ofList above.text) = .ok doc := by
  intro below above
  refine ⟨⟨?_, ?_, ?_⟩, ?_, ?_, ?_⟩
  case refine_1 =>
    exact Json.Number.wellFormed_scientific (by simp [IsDigits]) (by simp) (by simp [IsDigits])
  case refine_2 =>
    exact ⟨_, Binary64.isNearest_roundNat _, Binary64.roundNat_lt_iff _ |>.mpr (by decide +kernel)⟩
  case refine_3 =>
    have h : (Document.ofText (.ofList below.text)).isOk = false := by decide +kernel
    intro doc hd
    simp [hd, Except.isOk, Except.toBool] at h
  case refine_4 =>
    exact Json.Number.wellFormed_scientific (by simp [IsDigits]) (by simp) (by simp [IsDigits])
  case refine_5 =>
    exact ⟨_, Binary64.isNearest_roundNat _,
      not_lt.mp <| mt (Binary64.roundNat_lt_iff _).mp (by decide +kernel)⟩
  case refine_6 =>
    have h : (Document.ofText (.ofList above.text)).isOk = true := by decide +kernel
    cases hd : Document.ofText (.ofList above.text)
    case ok doc  => exact ⟨doc, rfl⟩
    case error e => simp [hd, Except.isOk, Except.toBool] at h

-- Half a surrogate pair and a number out of range do no harm where nothing is kept.
example : Document.ofText "[\"\\ud800\", 1e999]" = .ok (.notObject .array) := by rfl

example :
    Document.ofText "\x7b\"\\ud800\": 1\x7d" = .error (.invalidJson ⟨.unfinishedPair, 1, 9⟩) := by
  rfl

end TunnelPorts
