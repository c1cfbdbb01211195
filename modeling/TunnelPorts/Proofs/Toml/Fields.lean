import TunnelPorts.Proofs.Assoc
import TunnelPorts.Proofs.Toml.Line

/-!
Documents that are one table of texts: a header, and lines that give keys texts, with blank lines
between them.
-/

namespace TunnelPorts.Toml

open Scan

variable {cs : List Char} {name key : String} {fields : List (String × String)}

-- Lines that give keys texts, in order.
inductive Fields : List (String × String) → List Char → Prop
  | nil : Fields [] []
  | blank {fields e cs} : EndsLine cs e → Fields fields cs → Fields fields (e ++ cs)
  | field {key text fields ws p e cs} : IsBlank ws → Pair key text p → EndsLine cs e →
    Fields fields cs → Fields ((key, text) :: fields) (ws ++ (p ++ (e ++ cs)))

-- A table with nothing but blank lines before it.
inductive TableText (name : String) (fields : List (String × String)) : List Char → Prop
  | blank {e cs} : EndsLine cs e → TableText name fields cs → TableText name fields (e ++ cs)
  | header {ws h e cs} : IsBlank ws → Header name h → EndsLine cs e → Fields fields cs →
    TableText name fields (ws ++ '[' :: (h ++ (e ++ cs)))

-- A table as it is written with as few blanks as possible.
def written (name : String) (fields : List (String × String)) : List Char :=
  '[' :: (name.toList ++ ']' :: '\n' :: fields.flatMap fun e =>
    e.1.toList ++ '=' :: '"' :: (e.2.toList.flatMap Text.escape ++ ['"', '\n']))

theorem endsLine_newline (rest : List Char) : EndsLine rest ['\n'] :=
  .mk .nil (.inl rfl) (.inl rfl)

theorem fields_written (h : ∀ e ∈ fields, BareKey e.1) :
    Fields fields (fields.flatMap fun e =>
      e.1.toList ++ '=' :: '"' :: (e.2.toList.flatMap Text.escape ++ ['"', '\n'])) := by
  induction fields
  case nil => exact .nil
  case cons e fields hi =>
    have ⟨he, h⟩ := List.forall_mem_cons.mp h
    have hp : Pair e.1 e.2 _ := .mk he .nil .nil (Text.spells_escape e.2.toList)
    simpa using Fields.field .nil hp (endsLine_newline _) (hi h)

theorem tableText_written (hn : BareKey name) (h : ∀ e ∈ fields, BareKey e.1) :
    TableText name fields (written name fields) := by
  have hh : Header name _ := .mk hn .nil .nil
  simpa [written] using TableText.header .nil hh (endsLine_newline _) (fields_written h)

-- A table, and nothing else.
def oneTable (name : String) (entries : Entries) : Table where
  entries := [(name, .table .defined entries)]

theorem addDotted?_single {t : Table} {v : Value} (h : key ∉ t.entries.map Prod.fst) :
    Table.addDotted? [key] v t = some { t with entries := t.entries ++ [(key, v)] } := by
  have hn : t.get? key = none := Assoc.lookup_eq_none h
  change Table.addKey? false key v t = _
  simp [Table.addKey?, hn, Table.set, Assoc.set_of_not_mem h]

theorem descend?_oneTable {entries : Entries} {v : Value} (h : key ∉ entries.map Prod.fst) :
    Table.descend? .implied (Table.addDotted? [key] v) [name] (oneTable name entries) =
      some (oneTable name (entries ++ [(key, v)])) := by
  have hg : (oneTable name entries).get? name = some (.table .defined entries) := by
    simp [oneTable, Table.get?]
  have ha := addDotted?_single (t := ⟨.defined, entries⟩) (v := v) h
  rw [Table.descend?, hg]
  change ((Table.addDotted? [key] v ⟨.defined, entries⟩).map Table.toValue).bind _ = _
  rw [ha]
  simp [Table.toValue, oneTable, Table.set, Assoc.set]

theorem open?_oneTable (name : String) : Table.open? false [name] {} = some (oneTable name []) :=
  rfl

def ofFields (fields : List (String × String)) : Entries :=
  fields.map fun e => (e.1, .string e.2)

theorem keys_ofFields (fields : List (String × String)) :
    (ofFields fields).map Prod.fst = fields.map Prod.fst := by
  rw [ofFields, List.map_map]
  rfl

theorem run_document_fields {entries : Entries} (h : Fields fields cs)
    (hn : ((entries ++ ofFields fields).map Prod.fst).Nodup) {fuel : Nat} (hf : cs.length < fuel) :
    (document fuel { root := oneTable name entries, header := [name] }).run cs =
      some (oneTable name (entries ++ ofFields fields), []) := by
  induction h generalizing entries fuel
  case nil =>
    have ⟨fuel, hf'⟩ := Nat.exists_eq_add_one_of_ne_zero (Nat.ne_zero_of_lt hf)
    subst hf'
    rw [ofFields, List.map_nil, List.append_nil]
    rfl
  case blank fields e cs he _ hi =>
    have ⟨fuel', hf', hd⟩ :=
      run_document_blank he { root := oneTable name entries, header := [name] } hf
    rw [hd, hi hn hf']
  case field key text fields ws p e cs hw hp he _ hi =>
    have ⟨fuel, hf'⟩ := Nat.exists_eq_add_one_of_ne_zero (Nat.ne_zero_of_lt hf)
    subst hf'
    have ⟨c, ds, hc, hk⟩ := hp.exists_cons
    have hb : Stops isBlank (p ++ (e ++ cs)) := by
      rw [hc]
      exact isBlank_of_isKeyChar c hk
    have hs : entries ++ ofFields ((key, text) :: fields) =
        entries ++ [(key, .string text)] ++ ofFields fields := by
      simp [ofFields]
    have hm : key ∉ entries.map Prod.fst := by
      rw [hs] at hn
      simp only [List.map_append, List.nodup_append] at hn
      intro hk
      exact hn.left.right.right key hk key (by simp) rfl
    rw [run_document_line hw hb (by simp [hc]), run_line_pair hp he, descend?_oneTable hm, hs]
    exact hi (hs ▸ hn) (by simp [hc] at hf; omega)

theorem run_document_table (h : TableText name fields cs) (hn : (fields.map Prod.fst).Nodup)
    {fuel : Nat} (hf : cs.length < fuel) :
    (document fuel {}).run cs = some (oneTable name (ofFields fields), []) := by
  induction h generalizing fuel
  case blank e cs he _ hi =>
    have ⟨fuel', hf', hd⟩ := run_document_blank he {} hf
    rw [hd, hi hf']
  case header ws h e cs hw hh he hs =>
    have ⟨fuel, hf'⟩ := Nat.exists_eq_add_one_of_ne_zero (Nat.ne_zero_of_lt hf)
    subst hf'
    have hb : Stops isBlank ('[' :: (h ++ (e ++ cs))) := rfl
    have hn : (([] ++ ofFields fields).map Prod.fst).Nodup := keys_ofFields fields ▸ hn
    rw [run_document_line hw hb (List.cons_ne_nil _ _), run_line_header hh he, open?_oneTable]
    exact run_document_fields hs hn (by simp at hf; omega)

-- A byte order mark may stand in front of the table.
theorem parse?_tableText {text : String} (h : TableText name fields cs)
    (hn : (fields.map Prod.fst).Nodup) (ht : text.toList = cs ∨ text.toList = byteOrderMark :: cs) :
    parse? text = some (oneTable name (ofFields fields)).entries := by
  have hs : (if text.toList.head? = some byteOrderMark then text.toList.tail else text.toList) =
      cs := by
    have hb : Stops (· = byteOrderMark) cs := by
      cases h
      case blank he _      => exact he.stops rfl rfl rfl rfl rfl
      case header hw _ _ _ => exact hw.stops rfl rfl rfl
    rcases ht with ht | ht
    case inl =>
      have hm : cs.head? ≠ some byteOrderMark := by
        intro hm
        simp [Stops, hm] at hb
      rw [ht, if_neg hm]
    case inr =>
      rw [ht]
      rfl
  rw [parse?, hs, whole?, run_document_table h hn (Nat.lt_succ_self _)]
  rfl

end TunnelPorts.Toml
