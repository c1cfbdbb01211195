import Mathlib
import TunnelPorts.Json.Reader

/-!
Scans. A scan is a reader put to a text that goes on behind the value: it gives the value and what
is left of the text. Readers that are built from readers scan what those scan, one behind the other.
-/

namespace TunnelPorts.Json

def Blanks (cs : List Char) : Prop :=
  ∀ c ∈ cs, isBlank c

-- A value can end before this text, be it a number or not.
def Terminated (cs : List Char) : Prop :=
  ∀ c ∈ cs.head?, isBlank c ∨ c ∈ [',', ']', '\x7d']

namespace Blanks

@[simp]
theorem nil : Blanks [] := by
  simp [Blanks]

theorem append {cs ds : List Char} (hc : Blanks cs) (hd : Blanks ds) : Blanks (cs ++ ds) := by
  simp only [Blanks, List.mem_append]
  grind [Blanks]

theorem terminated {cs : List Char} (h : Blanks cs) : Terminated cs := by
  intro c hc
  exact .inl <| h c <| List.mem_of_mem_head? hc

end Blanks

theorem Terminated.append {cs ds : List Char} (hc : Blanks cs) (hd : Terminated ds) :
    Terminated (cs ++ ds) := by
  cases cs
  case nil      => exact hd
  case cons c _ =>
    intro d h
    simp at h
    exact .inl <| hc d <| by simp [h]

-- Every text is some blanks and then something else.
theorem exists_blanks (cs : List Char) :
    ∃ ws ds, cs = ws ++ ds ∧ Blanks ws ∧ ∀ d ∈ ds.head?, ¬isBlank d := by
  refine ⟨cs.takeWhile isBlank, cs.dropWhile isBlank, List.takeWhile_append_dropWhile.symm, ?_, ?_⟩
  · intro c h
    exact List.all_eq_true.mp List.all_takeWhile c h
  · intro d h
    have := List.head?_dropWhile_not isBlank cs
    simp_all

namespace Reader

variable {σ τ α β : Type}

def scan (r : Reader σ α) : σ → List Char → Except Fault (α × List Char)
  | s, []      => (r.stop s).map (·, [])
  | s, c :: cs =>
    match r.step s c with
    | .more s   => r.scan s cs
    | .last a   => .ok (a, cs)
    | .past a   => .ok (a, c :: cs)
    | .fail e _ => .error e

theorem close_eq_ok_iff {a b : α} {p : Position} {cs : List Char} :
    close a p cs = .ok b ↔ a = b ∧ Blanks cs := by
  induction cs generalizing p
  case nil         => simp [close]
  case cons c _ hi => by_cases h : isBlank c <;> simp [close, h, hi, Blanks]

-- A text is read when nothing but blanks is left behind its value.
theorem run_eq_ok_iff {r : Reader σ α} {s : σ} {p : Position} {cs : List Char} {a : α} :
    r.run s p cs = .ok a ↔ ∃ rest, r.scan s cs = .ok (a, rest) ∧ Blanks rest := by
  induction cs generalizing s p
  case nil =>
    cases h : r.stop s <;> simp [run, scan, h, Except.mapError, Except.map, and_assoc]
  case cons c cs hi =>
    cases h : r.step s c <;> simp [run, scan, h, hi, close_eq_ok_iff, and_assoc]

-- Blanks that leave a reader where it is.
theorem scan_blanks {r : Reader σ α} {s : σ} {ws : List Char} (cs : List Char) (hw : Blanks ws)
    (hs : ∀ c, isBlank c → r.step s c = .more s) : r.scan s (ws ++ cs) = r.scan s cs := by
  induction ws
  case nil          => rfl
  case cons c ws hi =>
    simp [Blanks] at hw
    simp [scan, hs c hw.left]
    exact hi hw.right

theorem exists_scan_blanks {r : Reader σ α} {s : σ} {cs : List Char} {x : α × List Char}
    (hs : ∀ c, isBlank c → r.step s c = .more s) (h : r.scan s cs = .ok x) :
    ∃ ws ds, cs = ws ++ ds ∧ Blanks ws ∧ (∀ d ∈ ds.head?, ¬isBlank d) ∧ r.scan s ds = .ok x := by
  have ⟨ws, ds, hcs, hw, hd⟩ := exists_blanks cs
  rw [hcs, scan_blanks ds hw hs] at h
  exact ⟨ws, ds, hcs, hw, hd, h⟩

-- A reader that lets another one do its work, and then carries on with what that one leaves.
theorem scan_eq_bind {r : Reader σ α} {q : Reader τ β} {f : τ → σ}
    {k : β → List Char → Except Fault (α × List Char)}
    (nil : ∀ t, r.scan (f t) [] = q.stop t >>= (k · []))
    (cons : ∀ t c cs, r.scan (f t) (c :: cs) =
      match q.step t c with
      | .more t   => r.scan (f t) cs
      | .last b   => k b cs
      | .past b   => k b (c :: cs)
      | .fail e _ => .error e) (t : τ) (cs : List Char) :
    r.scan (f t) cs = q.scan t cs >>= fun x => k x.1 x.2 := by
  induction cs generalizing t
  case nil =>
    rw [nil]
    cases h : q.stop t <;> simp [scan, h, bind, Except.bind, Except.map]
  case cons c cs hi =>
    rw [cons]
    cases h : q.step t c <;> simp [scan, h, hi, bind, Except.bind]

theorem bind_eq_ok_iff {e : Except Fault (β × List Char)}
    {k : β → List Char → Except Fault (α × List Char)} {x : α × List Char} :
    (e >>= fun y => k y.1 y.2) = .ok x ↔ ∃ b rest, e = .ok (b, rest) ∧ k b rest = .ok x := by
  cases e
  case error => simp [bind, Except.bind]
  case ok y  => simp [bind, Except.bind, Prod.ext_iff, and_assoc]

theorem scan_bind {r : Reader σ α} {q : Reader τ β} {f : τ → σ}
    {k : β → List Char → Except Fault (α × List Char)}
    (nil : ∀ t, r.scan (f t) [] = q.stop t >>= (k · []))
    (cons : ∀ t c cs, r.scan (f t) (c :: cs) =
      match q.step t c with
      | .more t   => r.scan (f t) cs
      | .last b   => k b cs
      | .past b   => k b (c :: cs)
      | .fail e _ => .error e) {t : τ} {cs : List Char} {x : α × List Char} :
    r.scan (f t) cs = .ok x ↔ ∃ b rest, q.scan t cs = .ok (b, rest) ∧ k b rest = .ok x := by
  rw [scan_eq_bind nil cons, bind_eq_ok_iff]

-- A reader that lets another one do all its work.
theorem scan_eq_map {r : Reader σ α} {q : Reader τ β} {f : τ → σ} {g : β → α}
    (step : ∀ t c, r.step (f t) c = (q.step t c).map f g)
    (stop : ∀ t, r.stop (f t) = (q.stop t).map g) (t : τ) (cs : List Char) :
    r.scan (f t) cs = (q.scan t cs).map (Prod.map g id) := by
  induction cs generalizing t
  case nil          => cases h : q.stop t <;> simp [scan, stop, h, Except.map]
  case cons c cs hi => cases h : q.step t c <;> simp [scan, step, h, hi, Step.map, Except.map]

theorem scan_map {r : Reader σ α} {q : Reader τ β} {f : τ → σ} {g : β → α}
    (step : ∀ t c, r.step (f t) c = (q.step t c).map f g)
    (stop : ∀ t, r.stop (f t) = (q.stop t).map g) {t : τ} {cs rest : List Char} {a : α} :
    r.scan (f t) cs = .ok (a, rest) ↔ ∃ b, q.scan t cs = .ok (b, rest) ∧ a = g b := by
  rw [scan_eq_map step stop]
  cases q.scan t cs <;> simp [Except.map, Prod.ext_iff]
  grind

-- The values of a reader are those of a grammar, with any blanks before them.
structure Reads (r : Reader σ α) (P : List Char → α → Prop) : Prop where
  sound {cs rest a} : r.scan r.start cs = .ok (a, rest) →
    ∃ ws v, cs = ws ++ v ++ rest ∧ Blanks ws ∧ P v a
  complete {ws v rest a} : Blanks ws → P v a → Terminated rest →
    r.scan r.start (ws ++ v ++ rest) = .ok (a, rest)

theorem Reads.run_eq_ok_iff {r : Reader σ α} {P : List Char → α → Prop} (h : r.Reads P)
    {p : Position} {cs : List Char} {a : α} :
    r.run r.start p cs = .ok a ↔
      ∃ ws v ws', cs = ws ++ v ++ ws' ∧ Blanks ws ∧ Blanks ws' ∧ P v a := by
  rw [Reader.run_eq_ok_iff]
  constructor
  · intro ⟨ws', hs, hw'⟩
    have ⟨ws, v, hc, hw, hv⟩ := h.sound hs
    exact ⟨ws, v, ws', hc, hw, hw', hv⟩
  · intro ⟨ws, v, ws', hc, hw, hw', hv⟩
    rw [hc]
    exact ⟨ws', h.complete hw hv hw'.terminated, hw'⟩

end Reader
end TunnelPorts.Json
