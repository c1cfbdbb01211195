import TunnelPorts.Proofs.Toml.Text
import TunnelPorts.Toml.Document

/-!
Lines of a document: blank ones, headers of tables, and such that give a key a text. Any line may
end in a comment, and blanks may stand wherever they are of no importance. What such a line does to
a document is what its key does, however the line is written.
-/

namespace TunnelPorts.Toml

open Scan

variable {c : Char} {ws cs rest s : List Char} {name key : String}

def IsBlank (cs : List Char) : Prop :=
  ∀ c ∈ cs, isBlank c

theorem IsBlank.nil : IsBlank [] :=
  nofun

-- A line end, or the end of the text.
def Newline (cs rest : List Char) : Prop :=
  cs = ['\n'] ∨ cs = ['\r', '\n'] ∨ cs = [] ∧ rest = []

def Remark (cs : List Char) : Prop :=
  cs = [] ∨ ∃ ds, cs = '#' :: ds ∧ ∀ d ∈ ds, Text.isPlain d

-- What may stand at the end of a line in front of `rest`.
inductive EndsLine (rest : List Char) : List Char → Prop
  | mk {ws note nl} : IsBlank ws → Remark note → Newline nl rest →
    EndsLine rest (ws ++ (note ++ nl))

def BareKey (key : String) : Prop :=
  key.toList ≠ [] ∧ ∀ c ∈ key.toList, Text.isKeyChar c

theorem BareKey.exists_cons (h : BareKey key) :
    ∃ c cs, key.toList = c :: cs ∧ Text.isKeyChar c := by
  have ⟨c, cs, hc⟩ := List.exists_cons_of_ne_nil h.left
  exact ⟨c, cs, hc, h.right c (hc ▸ List.mem_cons_self)⟩

-- A key with a text in quotes.
inductive Pair (key text : String) : List Char → Prop
  | mk {ws ws' body} : BareKey key → IsBlank ws → IsBlank ws' → Text.Spells body text.toList →
    Pair key text (key.toList ++ (ws ++ '=' :: (ws' ++ '"' :: (body ++ ['"']))))

-- The header of a table, from behind its opening bracket.
inductive Header (name : String) : List Char → Prop
  | mk {ws ws'} : BareKey name → IsBlank ws → IsBlank ws' →
    Header name (ws ++ (name.toList ++ (ws' ++ [']'])))

theorem ne_of_isKeyChar {d : Char} (hd : Text.isKeyChar d = false) (c : Char)
    (h : Text.isKeyChar c) : decide (c = d) = false := by
  rw [decide_eq_false_iff_not]
  rintro rfl
  exact Bool.false_ne_true (hd.symm.trans h)

theorem isBlank_of_isKeyChar (c : Char) (h : Text.isKeyChar c) : isBlank c = false := by
  by_contra hb
  simp only [isBlank, Bool.or_eq_true, decide_eq_true_eq, Bool.not_eq_false] at hb
  rcases hb with rfl | rfl <;> revert h <;> decide

theorem Newline.stops {p : Char → Bool} (h : Newline cs rest) (hn : p '\n' = false)
    (hr : p '\r' = false) : Stops p (cs ++ rest) := by
  rcases h with rfl | rfl | ⟨rfl, rfl⟩
  · simpa [Stops] using hn
  · simpa [Stops] using hr
  · rfl

-- A remark begins with a character that is not of the sort, or there is none.
theorem Remark.stops {p : Char → Bool} (h : Remark cs) (hm : p '#' = false) (hs : Stops p s) :
    Stops p (cs ++ s) := by
  rcases h with rfl | ⟨ds, rfl, _⟩
  case inl => exact hs
  case inr => simpa [Stops] using hm

theorem IsBlank.stops {p : Char → Bool} (h : IsBlank ws) (hb : p ' ' = false) (ht : p '\t' = false)
    (hs : Stops p s) : Stops p (ws ++ s) := by
  cases ws
  case nil => exact hs
  case cons c ws =>
    have hc := h c List.mem_cons_self
    simp only [isBlank, Bool.or_eq_true, decide_eq_true_eq] at hc
    rcases hc with rfl | rfl
    · simpa [Stops] using hb
    · simpa [Stops] using ht

theorem EndsLine.stops {p : Char → Bool} (h : EndsLine rest cs) (hb : p ' ' = false)
    (ht : p '\t' = false) (hm : p '#' = false) (hn : p '\n' = false) (hr : p '\r' = false) :
    Stops p (cs ++ rest) := by
  cases h
  case mk hw hs hl =>
    simp only [List.append_assoc]
    exact hw.stops hb ht <| hs.stops hm <| hl.stops hn hr

theorem run_blanks (hw : IsBlank ws) (hs : Stops isBlank s) :
    blanks.run (ws ++ s) = some ((), s) :=
  run_skipWhile hw hs

theorem run_comment {nl : List Char} (h : Remark cs) (hn : Newline nl rest) :
    comment.run (cs ++ (nl ++ rest)) = some ((), nl ++ rest) := by
  rcases h with rfl | ⟨ds, rfl, hd⟩
  case inl =>
    rw [comment, List.nil_append, run_bind_of (run_eats_of_stops (hn.stops rfl rfl))]
    rfl
  case inr =>
    rw [comment, List.cons_append, run_bind_of (run_eats _ _)]
    exact run_skipWhile hd <| hn.stops rfl rfl

theorem run_lineEnd (h : EndsLine rest cs) : lineEnd.run (cs ++ rest) = some ((), rest) := by
  cases h
  case mk ws note nl hw hm hn =>
    have hb : Stops isBlank (note ++ (nl ++ rest)) := hm.stops rfl (hn.stops rfl rfl)
    rw [lineEnd, List.append_assoc, List.append_assoc, run_bind_of (run_blanks hw hb),
      run_bind_of (run_comment hm hn)]
    rcases hn with rfl | rfl | ⟨rfl, rfl⟩ <;> rfl

theorem run_simpleKey (h : BareKey key) (hs : Stops Text.isKeyChar s) :
    simpleKey.run (key.toList ++ s) = some (key, s) := by
  have hb : Text.bareKey.run (key.toList ++ s) = some (key, s) := by
    rw [Text.bareKey, run_map_of _ (run_takeWhile₁ h.right h.left hs), String.ofList_toList]
  have ⟨c, cs, hc, hk⟩ := h.exists_cons
  have hp : peek?.run (key.toList ++ s) = some (some c, key.toList ++ s) := by rw [hc]; rfl
  rw [simpleKey, run_bind_of hp]
  split
  case h_1 he =>
    cases he
    contradiction
  case h_2 he =>
    cases he
    contradiction
  case h_3 => exact hb

theorem BareKey.stops {p : Char → Bool} (h : BareKey key)
    (hp : ∀ c, Text.isKeyChar c → p c = false) (s : List Char) : Stops p (key.toList ++ s) := by
  have ⟨c, cs, hc, hk⟩ := h.exists_cons
  simpa [Stops, hc] using hp c hk

-- What comes behind a key is neither part of it nor a point in front of another.
theorem run_key {ws' : List Char} (h : BareKey key) (hw : IsBlank ws) (hw' : IsBlank ws')
    (hb : Stops isBlank s) (hk : Stops Text.isKeyChar s) (hp : Stops (· = '.') s) :
    Toml.key.run (ws ++ (key.toList ++ (ws' ++ s))) = some ([key], s) := by
  have hl n : (keys (n + 1)).run (ws ++ (key.toList ++ (ws' ++ s))) = some ([key], s) := by
    rw [keys, run_bind_of (run_blanks hw (h.stops isBlank_of_isKeyChar _)),
      run_bind_of (run_simpleKey h (hw'.stops rfl rfl hk)), run_bind_of (run_blanks hw' hb),
      run_bind_of (run_eats_of_stops hp)]
    rfl
  rw [Toml.key, run_bind_of (run_get _), run_bind_of (hl _)]
  rfl

theorem Pair.exists_cons {text : String} (h : Pair key text cs) :
    ∃ c ds, cs = c :: ds ∧ Text.isKeyChar c := by
  cases h
  case mk hk _ _ _ =>
    have ⟨c, ds, hc, hk⟩ := hk.exists_cons
    exact ⟨c, _, by rw [hc]; rfl, hk⟩

theorem run_value {body : List Char} {text : String} (h : Text.Spells body text.toList)
    (hs : Stops (· = '"') s) (depth : Nat) :
    (value depth).run ('"' :: (body ++ '"' :: s)) = some (.string text, s) := by
  have hp : peek?.run ('"' :: (body ++ '"' :: s)) = some (some '"', _) := rfl
  have hq := run_map_of Value.string <| Quoted.run_any h hs
  rw [String.ofList_toList] at hq
  cases depth
  all_goals
    rw [value, run_bind_of hp]
    exact hq

theorem run_pair {text : String} (h : Pair key text cs) (hs : Stops (· = '"') s) (depth : Nat) :
    (pair (value depth)).run (cs ++ s) = some (([key], .string text), s) := by
  cases h
  case mk ws ws' body hk hw hw' ht =>
    have he := run_key hk .nil hw (s := '=' :: (ws' ++ '"' :: (body ++ '"' :: s)))
      rfl rfl rfl
    have hb : Stops isBlank ('"' :: (body ++ '"' :: s)) := rfl
    simp only [List.append_assoc, List.cons_append, List.nil_append] at he ⊢
    rw [pair, run_bind_of he, run_bind_of (run_eat _ _), run_bind_of (run_blanks hw' hb),
      run_bind_of (run_value ht hs depth)]
    rfl

theorem run_headerLine (h : Header name cs) (st : State) (hs : EndsLine rest s) :
    (headerLine st).run (cs ++ (s ++ rest)) =
      (Table.open? false [name] st.root).map fun t => ({ root := t, header := [name] }, rest) := by
  cases h
  case mk ws ws' hn hw hw' =>
    have he := run_key hn hw hw' (s := ']' :: (s ++ rest)) rfl rfl rfl
    have hb : Stops (· = '[') (ws ++ (name.toList ++ (ws' ++ ']' :: (s ++ rest)))) :=
      hw.stops rfl rfl <| hn.stops (ne_of_isKeyChar rfl) _
    have hc : (closing false).run (']' :: (s ++ rest)) = some ((), s ++ rest) := by
      rw [closing, run_bind_of (run_eat _ _)]
      rfl
    simp only [List.append_assoc, List.cons_append, List.nil_append]
    rw [headerLine, run_bind_of (run_eats_of_stops hb), run_bind_of he, run_bind_of hc,
      run_bind_of (run_lineEnd hs)]
    cases Table.open? false [name] st.root <;> rfl

theorem run_pairLine {text : String} (h : Pair key text cs) (st : State) (hs : EndsLine rest s) :
    (pairLine st).run (cs ++ (s ++ rest)) =
      (Table.descend? .implied (Table.addDotted? [key] (.string text)) st.header st.root).map
        fun t => ({ st with root := t }, rest) := by
  rw [pairLine, run_bind_of (run_pair h (hs.stops rfl rfl rfl rfl rfl) _)]
  dsimp only
  rw [run_bind_of (run_lineEnd hs)]
  cases Table.descend? .implied (Table.addDotted? [key] (.string text)) st.header st.root <;> rfl

theorem run_line_blank {note nl : List Char} (hm : Remark note) (hn : Newline nl rest)
    (h : note ++ (nl ++ rest) ≠ []) (st : State) :
    (line st).run (note ++ (nl ++ rest)) = some (st, rest) := by
  have hl : lineEnd.run (note ++ (nl ++ rest)) = some ((), rest) := by
    simpa using run_lineEnd (.mk IsBlank.nil hm hn)
  have hp : peek?.run (note ++ (nl ++ rest)) = some ((note ++ (nl ++ rest)).head?, _) := rfl
  rw [line, run_bind_of hp]
  rcases hm with rfl | ⟨ds, rfl, _⟩
  case inr => exact run_bind_of hl
  case inl =>
    rcases hn with rfl | rfl | ⟨rfl, rfl⟩
    · exact run_bind_of hl
    · exact run_bind_of hl
    · contradiction

theorem run_line_header (h : Header name cs) (hs : EndsLine rest s) (st : State) :
    (line st).run ('[' :: (cs ++ (s ++ rest))) =
      (Table.open? false [name] st.root).map fun t => ({ root := t, header := [name] }, rest) := by
  have hp : peek?.run ('[' :: (cs ++ (s ++ rest))) = some (some '[', _) := rfl
  rw [line, run_bind_of hp, ← run_headerLine h st hs]
  exact run_bind_of (run_eat _ _)

theorem run_line_pair {text : String} (h : Pair key text cs) (hs : EndsLine rest s) (st : State) :
    (line st).run (cs ++ (s ++ rest)) =
      (Table.descend? .implied (Table.addDotted? [key] (.string text)) st.header st.root).map
        fun t => ({ st with root := t }, rest) := by
  rw [← run_pairLine h st hs]
  have ⟨c, ds, hc, hk⟩ := h.exists_cons
  have hp : peek?.run (cs ++ (s ++ rest)) = some (some c, cs ++ (s ++ rest)) := by rw [hc]; rfl
  rw [line, run_bind_of hp]
  split
  case h_5 => rfl
  all_goals
    rename_i he
    cases he
    contradiction

theorem run_document_line (hw : IsBlank ws) (hb : Stops isBlank s) (hs : s ≠ []) (st : State)
    (fuel : Nat) :
    (document (fuel + 1) st).run (ws ++ s) =
      ((line st).run s).bind fun x => (document fuel x.1).run x.2 := by
  rw [document, run_bind_of (run_blanks hw hb), run_bind_of (run_get s), if_neg (by simpa using hs)]
  rfl

-- Reading a blank line takes some of the fuel, unless it is the end of the text.
theorem run_document_blank (h : EndsLine rest s) (st : State) {fuel : Nat}
    (hf : (s ++ rest).length < fuel) :
    ∃ fuel', rest.length < fuel' ∧
      (document fuel st).run (s ++ rest) = (document fuel' st).run rest := by
  have ⟨fuel, hf'⟩ := Nat.exists_eq_add_one_of_ne_zero (Nat.ne_zero_of_lt hf)
  subst hf'
  cases h
  case mk ws note nl hw hm hn =>
    have hb : Stops isBlank (note ++ (nl ++ rest)) := hm.stops rfl (hn.stops rfl rfl)
    simp only [List.append_assoc] at hf ⊢
    by_cases he : note ++ (nl ++ rest) = []
    case pos =>
      have hr : rest = [] := by simp_all
      have hs : Stops isBlank [] := rfl
      refine ⟨1, by simp [hr], ?_⟩
      rw [he, hr, document, run_bind_of (run_blanks hw hs)]
      rfl
    case neg =>
      have hf : rest.length < fuel := by
        simp only [List.length_append] at hf
        rcases hn with rfl | rfl | ⟨rfl, rfl⟩
        · simp at hf; omega
        · simp at hf; omega
        · have hn := List.length_pos_of_ne_nil he
          simp at hf hn ⊢
          omega
      exact ⟨fuel, hf, by rw [run_document_line hw hb he, run_line_blank hm hn he, Option.bind_some]⟩

end TunnelPorts.Toml
