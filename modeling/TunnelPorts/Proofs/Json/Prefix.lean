import TunnelPorts.Proofs.Json.Scan

/-!
Beginnings of texts. A reader that wants more after each character of a text is in some state behind
it. All that the beginning of a text has to say about the rest is in that state.
-/

namespace TunnelPorts.Json.Reader

variable {σ α : Type}

-- The state behind a text throughout which there was more to come.
def after? (r : Reader σ α) : σ → List Char → Option σ
  | s, []      => some s
  | s, c :: cs =>
    match r.step s c with
    | .more t => r.after? t cs
    | _       => none

-- What a text comes to, wherever its fault is reported.
def verdict (r : Reader σ α) (s : σ) (cs : List Char) : Except Fault α := do
  let (a, rest) ← r.scan s cs
  if rest.all isBlank then .ok a else .error .trailingCharacters

variable {r : Reader σ α} {s t : σ} {p : Position} {pre cs ds : List Char}

theorem mapError_close (a : α) :
    (close a p cs).mapError Error.fault =
      if cs.all isBlank then .ok a else .error .trailingCharacters := by
  induction cs generalizing p
  case nil => rfl
  case cons c cs hi =>
    by_cases hc : isBlank c
    case pos => simpa [close, hc] using hi
    case neg => simp [close, hc, Except.mapError]

theorem mapError_run : (r.run s p cs).mapError Error.fault = r.verdict s cs := by
  induction cs generalizing s p
  case nil =>
    cases h : r.stop s <;>
      simp [run, verdict, scan, h, Except.mapError, Except.map, bind, Except.bind]
  case cons c cs hi =>
    cases h : r.step s c
    case more t => simpa [run, verdict, scan, h] using hi
    case last a =>
      simp only [run, verdict, scan, h]
      exact mapError_close a
    case past a =>
      simp only [run, verdict, scan, h]
      exact mapError_close a
    case fail e n => simp [run, verdict, scan, h, Except.mapError, bind, Except.bind]

theorem run_append (h : r.after? s pre = some t) (cs : List Char) :
    r.run s p (pre ++ cs) = r.run t (p.after pre) cs := by
  induction pre generalizing s p
  case nil =>
    cases h
    rfl
  case cons c pre hi =>
    cases hc : r.step s c <;> simp [after?, hc] at h
    simpa [run, hc, Position.after] using hi h

-- Texts are told apart by what comes behind the place where they differ, and by nothing else.
theorem run_congr (h : r.after? s pre = some t) (hs : r.scan t cs = r.scan t ds) :
    (r.run s p (pre ++ cs)).mapError Error.fault =
      (r.run s p (pre ++ ds)).mapError Error.fault := by
  rw [run_append h, run_append h, mapError_run, mapError_run, verdict, verdict, hs]

-- There was more to come before any character of a text that is read, but for blanks at its end.
theorem exists_after? {a : α} (h : r.run s p (pre ++ cs) = .ok a) (hcs : ¬Blanks cs) :
    ∃ t, r.after? s pre = some t := by
  have hb (ds : List Char) : ¬Blanks (ds ++ cs) :=
    fun hb => hcs fun c hc => hb c <| List.mem_append_right ds hc
  induction pre generalizing s p
  case nil => exact ⟨s, rfl⟩
  case cons c pre hi =>
    cases hc : r.step s c <;> simp only [List.cons_append, run, hc] at h
    case more t =>
      obtain ⟨u, hu⟩ := hi h
      exact ⟨u, by simpa [after?, hc] using hu⟩
    case last b => exact absurd (close_eq_ok_iff.mp h).right (hb pre)
    case past b => exact absurd (close_eq_ok_iff.mp h).right (hb (c :: pre))
    case fail   => cases h

end TunnelPorts.Json.Reader
