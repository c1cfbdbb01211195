import TunnelPorts.Proofs.Assoc
import TunnelPorts.Proofs.Calls
import TunnelPorts.Proofs.Json.Document

/-!
Objects in which a name is given more than once. An entry is what stands in the text: a name, with
its escapes undone, and the text of a value. All of them are read, but only the last one of a name
is kept, whole, and it takes the place of the first one.
-/

namespace TunnelPorts

namespace Json

open Json.Bracket (object)

-- The text of a value that is read.
def Reader.Accepts {σ α : Type} (r : Reader σ α) (v : List Char) (text : String) : Prop :=
  text = .ofList v ∧ ∃ a, r.read text = .ok a

namespace Level

section

variable {α β : Type} {P : List Char → α → Prop} {Q : List Char → β → Prop}
  {R : String × α → String × β → Prop} {cs : List Char} {text : String} {ms : List (String × α)}

-- An object with these entries, up to the blanks around it.
def IsObject (P : List Char → α → Prop) (text : String) (ms : List (String × α)) : Prop :=
  ∃ ws cs ws', text.toList = ws ++ object.enclose cs ++ ws' ∧ Blanks ws ∧ Blanks ws' ∧
    (Blanks cs ∧ ms = [] ∨ Members P cs ms)

theorem Members.exists_forall₂ (hm : ∀ m e, Member P m e → ∃ e', Member Q m e' ∧ R e e')
    (h : Members P cs ms) : ∃ ms', Members Q cs ms' ∧ List.Forall₂ R ms ms' := by
  induction h
  case last m e he =>
    have ⟨e', he', hr⟩ := hm m e he
    exact ⟨[e'], .last he', .cons hr .nil⟩
  case cons m cs e ms he _ hi =>
    have ⟨e', he', hr⟩ := hm m e he
    have ⟨ms', hms, hrs⟩ := hi
    exact ⟨e' :: ms', .cons he' hms, .cons hr hrs⟩

theorem IsObject.exists_forall₂ (hm : ∀ m e, Member P m e → ∃ e', Member Q m e' ∧ R e e')
    (h : IsObject P text ms) : ∃ ms', IsObject Q text ms' ∧ List.Forall₂ R ms ms' := by
  have ⟨ws, cs, ws', ht, hw, hw', h⟩ := h
  cases h
  case inl h => exact ⟨[], ⟨ws, cs, ws', ht, hw, hw', .inl ⟨h.left, rfl⟩⟩, h.right ▸ .nil⟩
  case inr h =>
    have ⟨ms', hms, hr⟩ := h.exists_forall₂ hm
    exact ⟨ms', ⟨ws, cs, ws', ht, hw, hw', .inr hms⟩, hr⟩

end

variable {σ α : Type} {child : Reader σ α} {P : List Char → α → Prop} {text : String}
  {ms : List (String × String)} {vs : List (String × α)} {k : String} {a : α}

-- What an entry comes to when its value is read.
def Gives (child : Reader σ α) (m : String × String) (v : String × α) : Prop :=
  m.1 = v.1 ∧ child.read m.2 = .ok v.2

theorem read_ofList (hr : child.Reads P) {v : List Char} (hv : P v a) :
    child.read (.ofList v) = .ok a := by
  rw [Reader.read, String.toList_ofList, hr.run_eq_ok_iff]
  exact ⟨[], v, [], by simp, .nil, .nil, hv⟩

theorem exists_text (hr : child.Reads P) {m : List Char} {v : String × α} (h : Member P m v) :
    ∃ e, Member child.Accepts m e ∧ Gives child e v := by
  cases h
  case intro hw hk hw₁ hw₂ hv hw' =>
    have hv := read_ofList hr hv
    exact ⟨_, .intro hw hk hw₁ hw₂ ⟨rfl, _, hv⟩ hw', rfl, hv⟩

theorem exists_value (hr : child.Reads P) {m : List Char} {e : String × String}
    (h : Member child.Accepts m e) : ∃ v, Member P m v ∧ Gives child e v := by
  cases h
  case intro ws k ks ws₁ ws₂ v text ws' hw hk hw₁ hw₂ hv hw' =>
    obtain ⟨rfl, a, ha⟩ := hv
    have h := ha
    rw [Reader.read, String.toList_ofList, hr.run_eq_ok_iff] at h
    obtain ⟨us, u, us', rfl, hu, hu', hp⟩ := h
    have hm : Member P _ (.ofList ks, a) := .intro hw hk hw₁ (hw₂.append hu) hp (hu'.append hw')
    exact ⟨_, by simpa using hm, rfl, ha⟩

theorem IsObject.exists_texts (hr : child.Reads P) (h : IsObject P text vs) :
    ∃ ms, IsObject child.Accepts text ms ∧ List.Forall₂ (Gives child) ms vs := by
  have ⟨ms, ho, hg⟩ := h.exists_forall₂ (R := flip (Gives child)) fun _ _ => exists_text hr
  exact ⟨ms, ho, hg.flip⟩

theorem IsObject.exists_values (hr : child.Reads P) (h : IsObject child.Accepts text ms) :
    ∃ vs, IsObject P text vs ∧ List.Forall₂ (Gives child) ms vs :=
  h.exists_forall₂ fun _ _ => exists_value hr

theorem map_fst_of_gives (h : List.Forall₂ (Gives child) ms vs) :
    ms.map Prod.fst = vs.map Prod.fst := by
  induction h
  case nil          => rfl
  case cons hg _ hi => simp [hg.left, hi]

theorem rel_lookup (h : List.Forall₂ (Gives child) ms vs) (k : String) :
    Option.Rel (fun v a => child.read v = .ok a) (ms.lookup k) (vs.lookup k) := by
  induction h
  case nil => exact .none
  case cons m v _ _ hg _ hi =>
    have ⟨j, t⟩ := m
    have ⟨j', b⟩ := v
    obtain ⟨rfl, hb⟩ := hg
    simp only [Assoc.lookup_cons]
    split
    case isTrue  => exact .some hb
    case isFalse => exact hi

theorem lookup_of_gives (h : List.Forall₂ (Gives child) ms vs) :
    (∃ v, ms.lookup k = some v ∧ child.read v = .ok a) ↔ vs.lookup k = some a := by
  have h := rel_lookup h k
  generalize ms.lookup k = o at h ⊢
  generalize vs.lookup k = o' at h ⊢
  cases h
  case none    => simp
  case some ha => simp [ha]

theorem read_object_iff (hr : child.Reads P) {es : Entries α} :
    (reader child).read text = .ok (.object es) ↔ ∃ vs, IsObject P text vs ∧ Collects vs es := by
  rw [Reader.read, (reads hr).run_eq_ok_iff]
  constructor
  · intro ⟨ws, v, ws', ht, hw, hw', hv⟩
    cases hv
    case emptyObject hb =>
      exact ⟨[], ⟨ws, _, ws', ht, hw, hw', .inl ⟨hb, rfl⟩⟩, collects_iff.mpr rfl⟩
    case object hm hc => exact ⟨_, ⟨ws, _, ws', ht, hw, hw', .inr hm⟩, hc⟩
  · intro ⟨vs, ⟨ws, cs, ws', ht, hw, hw', h⟩, hc⟩
    cases h
    case inl h =>
      have he : es = {} := by simpa [h.right, Entries.insertAll] using collects_iff.mp hc
      exact ⟨ws, _, ws', ht, hw, hw', he ▸ .emptyObject h.left⟩
    case inr h => exact ⟨ws, _, ws', ht, hw, hw', .object h hc⟩

-- What is read from the text of an object is an object, and has each name once: where it was given
-- first, with the value that is read from the last text it was given.
structure KeepsLast (child : Reader σ α) : Prop where
  sound {text : String} {es : Entries α} : (reader child).read text = .ok (.object es) →
    ∃ ms, IsObject child.Accepts text ms
  complete {text : String} {ms : List (String × String)} : IsObject child.Accepts text ms →
    ∃ es, (reader child).read text = .ok (.object es) ∧
      es.keys = (ms.map Prod.fst).eraseDups ∧ es.keys.Nodup ∧
      ∀ k a, es.toList.lookup k = some a ↔
        ∃ v, ms.reverse.lookup k = some v ∧ child.read v = .ok a

theorem keepsLast (hr : child.Reads P) : KeepsLast child where
  sound h := by
    have ⟨vs, ho, _⟩ := (read_object_iff hr).mp h
    have ⟨ms, ho, _⟩ := ho.exists_texts hr
    exact ⟨ms, ho⟩
  complete {text ms} ho := by
    have ⟨vs, ho, hg⟩ := ho.exists_values hr
    have hc : Collects vs (Entries.insertAll {} vs) := collects_iff.mpr rfl
    refine ⟨_, (read_object_iff hr).mpr ⟨vs, ho, hc⟩, ?keys, Entries.nodup _, fun k a => ?lookup⟩
    case keys   => rw [hc.left, map_fst_of_gives hg]
    case lookup => rw [hc.right, lookup_of_gives (List.forall₂_reverse_iff.mpr hg)]

-- The last text that a name is given.
def GivesLast (child : Reader σ α) (text name value : String) : Prop :=
  ∃ ms, IsObject child.Accepts text ms ∧ ms.reverse.lookup name = some value

theorem KeepsLast.lookup_entries (hk : KeepsLast child) {lvl : Level α}
    (h : (reader child).read text = .ok lvl) :
    lvl.entries.lookup k = some a ↔ ∃ v, GivesLast child text k v ∧ child.read v = .ok a := by
  have entries {ms} (ho : IsObject child.Accepts text ms) :
      lvl.entries.lookup k = some a ↔ ∃ v, ms.reverse.lookup k = some v ∧ child.read v = .ok a := by
    have ⟨es, hr, _, _, hl⟩ := hk.complete ho
    cases h.symm.trans hr
    exact hl k a
  constructor
  · intro hl
    cases lvl
    case notObject => cases hl
    case object es =>
      have ⟨ms, ho⟩ := hk.sound h
      have ⟨v, hv, ha⟩ := (entries ho).mp hl
      exact ⟨v, ⟨ms, ho, hv⟩, ha⟩
  · intro ⟨v, ⟨ms, ho, hv⟩, ha⟩
    exact (entries ho).mpr ⟨v, hv, ha⟩

theorem GivesLast.exists_read (hr : child.Reads P) {v : String} (h : GivesLast child text k v) :
    ∃ a, child.read v = .ok a := by
  have ⟨ms, ho, hv⟩ := h
  have ⟨vs, _, hg⟩ := ho.exists_values hr
  have hl := rel_lookup (List.forall₂_reverse_iff.mpr hg) k
  rw [hv] at hl
  generalize vs.reverse.lookup k = o at hl
  cases hl
  case some ha => exact ⟨_, ha⟩

-- The beginning of an object up to where an entry may stand: behind the brace, or behind a comma
-- that follows other entries.
def Opening (P : List Char → α → Prop) (pre : List Char) : Prop :=
  pre = [] ∨ ∃ cs vs, pre = cs ++ [','] ∧ Members P cs vs

-- What stands there is an entry and what may follow one, or it closes an object without entries.
def GoesOn (P : List Char → α → Prop) (pre rest : List Char) : Prop :=
  (∃ m v c ds, rest = m ++ c :: ds ∧ Member P m v ∧ (c = ',' ∨ c = '\x7d')) ∨
    pre = [] ∧ ∃ ws ds, rest = ws ++ '\x7d' :: ds ∧ Blanks ws

-- Texts in which an entry is malformed, be it one of this object or one of an object below. Nothing
-- is said of what follows it.
inductive Malformed (P : List Char → α → Prop) (below : List Char → Prop) : List Char → Prop
  | entry {ws pre rest} : Blanks ws → Opening P pre → ¬GoesOn P pre rest →
    Malformed P below (ws ++ '\x7b' :: pre ++ rest)
  | within {ws pre ws₁ k ks ws₂ rest} : Blanks ws → Opening P pre →
    Blanks ws₁ → Text.Spells k ks → Blanks ws₂ → below rest →
    Malformed P below (ws ++ '\x7b' :: pre ++ (ws₁ ++ quoted k ++ ws₂ ++ ':' :: rest))

variable {cs pre rest : List Char}

-- Where an entry may stand, the reader waits for one.
theorem exists_scan_opening (hr : child.Reads P) (h : Opening P pre) :
    ∃ es s, (s = .opened ∧ pre = [] ∨ s = .comma) ∧
      ∀ rest, (reader child).scan (.object {} .opened) (pre ++ rest) =
        (reader child).scan (.object es s) rest := by
  cases h
  case inl h => exact ⟨{}, .opened, .inl ⟨rfl, h⟩, fun rest => by rw [h, List.nil_append]⟩
  case inr h =>
    obtain ⟨cs, vs, rfl, hm⟩ := h
    refine ⟨Entries.insertAll {} vs, .comma, .inr rfl, fun rest => ?_⟩
    rw [List.append_assoc, List.singleton_append,
      scan_members hr (.inl rfl) hm (by simp [Terminated])]
    rfl

theorem goesOn_of_scan (hr : child.Reads P) {es : Entries α} {s : MemberState σ}
    {x : Level α × List Char} (hs : s = .opened ∧ pre = [] ∨ s = .comma)
    (h : (reader child).scan (.object es s) rest = .ok x) : GoesOn P pre rest := by
  have hc (h : (reader child).scan (.object es .comma) rest = .ok x) : GoesOn P pre rest := by
    have ⟨m, v, hm, h⟩ := exists_member hr h
    cases h
    case inl h => exact .inl ⟨m, v, _, _, h.left, hm, .inr rfl⟩
    case inr h =>
      have ⟨ds, hd, _⟩ := h
      exact .inl ⟨m, v, _, _, hd, hm, .inl rfl⟩
  obtain ⟨rfl, hp⟩ | rfl := hs
  case inr => exact hc h
  case inl =>
    cases closes_or_scan_comma h
    case inr h => exact hc h
    case inl h =>
      have ⟨ws, ds, hd, hw, _⟩ := h
      exact .inr ⟨hp, ws, ds, hd, hw⟩

theorem scan_brace {ws : List Char} (hw : Blanks ws) (cs : List Char) :
    (reader child).scan .value (ws ++ '\x7b' :: cs) =
      (reader child).scan (.object {} .opened) cs :=
  Reader.scan_blanks _ hw fun c hc => by simp [reader_step, step, hc]

-- A malformed entry is met when the reader comes to it, whatever stands behind it.
theorem Malformed.scan_ne_ok {below : List Char → Prop} (hr : child.Reads P)
    (hb : ∀ cs, below cs → ∀ x, child.scan child.start cs ≠ .ok x)
    (h : Malformed P below cs) (x : Level α × List Char) :
    (reader child).scan .value cs ≠ .ok x := by
  cases h
  case entry hw ho hg =>
    have ⟨es, s, hs, he⟩ := exists_scan_opening hr ho
    rw [List.append_assoc, List.cons_append, scan_brace hw, he]
    exact fun h => hg <| goesOn_of_scan hr hs h
  case within rest hw ho hw₁ hk hw₂ hr' =>
    have ⟨es, s, hs, he⟩ := exists_scan_opening hr ho
    rw [List.append_assoc, List.cons_append, scan_brace hw, he,
      scan_name (hs.imp And.left id) hw₁ hk hw₂, ne_eq, scan_value_iff]
    intro ⟨v, ds, hv, _⟩
    exact hb rest hr' _ hv

-- An entry begins with a quote.
theorem not_goesOn_of_ne {c : Char} (hb : isBlank c = false) (hq : c ≠ '"') (hc : c ≠ '\x7d')
    (cs : List Char) : ¬GoesOn P pre (c :: cs) := by
  rintro (⟨m, v, d, ds, h, hm, -⟩ | ⟨-, ws, ds, h, hw⟩)
  case inl =>
    cases hm
    case intro ws _ _ _ _ _ _ _ hw _ _ _ _ _ =>
      cases ws
      case nil  => simp [quoted, hq] at h
      case cons => simp_all [Blanks]
  case inr =>
    cases ws
    case nil  => simp [hc] at h
    case cons => simp_all [Blanks]

end Level

-- The key of a call is given where its site and its datacenter are given last.
def GivesKey (text : String) (c : Call) : Prop :=
  ∃ site dc tunnel, Level.GivesLast siteReader text c.site site ∧
    Level.GivesLast datacenterReader site c.datacenter dc ∧
    Level.GivesLast Skip.reader dc c.key tunnel

-- What stands behind the names at each level.
def SpellsTunnel (v : List Char) (_ : Unit) : Prop :=
  Formed .value v

def SpellsDatacenter : List Char → Datacenter → Prop :=
  Level.Spells SpellsTunnel

def SpellsSite : List Char → Site → Prop :=
  Level.Spells SpellsDatacenter

theorem reads_tunnel : Skip.reader.Reads SpellsTunnel :=
  Skip.reads

theorem reads_datacenter : datacenterReader.Reads SpellsDatacenter :=
  Level.reads reads_tunnel

theorem reads_site : siteReader.Reads SpellsSite :=
  Level.reads reads_datacenter

-- One of the entries of a document is malformed, whichever of the three levels it belongs to.
def HasMalformed (text : String) : Prop :=
  Level.Malformed SpellsSite
    (Level.Malformed SpellsDatacenter (Level.Malformed SpellsTunnel fun _ => False)) text.toList

theorem HasMalformed.exists_error {text : String} (h : HasMalformed text) :
    ∃ e, Document.parse text = .error e := by
  have hn x : documentReader.scan documentReader.start text.toList ≠ .ok x :=
    h.scan_ne_ok reads_site (fun _ h => h.scan_ne_ok reads_datacenter fun _ h =>
      h.scan_ne_ok reads_tunnel fun _ h => h.elim) x
  cases hp : Document.parse text
  case error e => exact ⟨e, rfl⟩
  case ok doc  =>
    have ⟨rest, hs, _⟩ := Reader.run_eq_ok_iff.mp hp
    exact absurd hs <| hn _

end Json

theorem Level.mem_entries_iff {α : Type} {lvl : Level α} {k : String} {a : α} :
    (k, a) ∈ lvl.entries ↔ lvl.entries.lookup k = some a := by
  constructor
  · intro h
    cases lvl
    case notObject => cases h
    case object es => exact Assoc.lookup_of_mem es.nodup h
  · intro h
    have ⟨l₁, l₂, hl, _⟩ := List.lookup_eq_some_iff.mp h
    simp [hl]

namespace Document

open Json
open Json.Level (keepsLast)

theorem mem_calls_iff {doc : Document} {c : Call} :
    c ∈ doc.calls ↔ ∃ site dc, doc.entries.lookup c.site = some site ∧
      site.entries.lookup c.datacenter = some dc ∧ dc.entries.lookup c.key = some () := by
  simp only [calls_eq, List.mem_flatMap, List.mem_singleton, ← Level.mem_entries_iff]
  constructor
  · rintro ⟨⟨s, site⟩, hs, ⟨d, dc⟩, hd, ⟨k, u⟩, hk, rfl⟩
    exact ⟨site, dc, hs, hd, hk⟩
  · intro ⟨site, dc, hs, hd, hk⟩
    exact ⟨_, hs, _, hd, _, hk, rfl⟩

theorem mem_calls_iff_givesKey {text : String} {doc : Document} {c : Call}
    (h : Document.parse text = .ok doc) : c ∈ doc.calls ↔ GivesKey text c := by
  have hs := keepsLast reads_site
  have hd := keepsLast reads_datacenter
  have ht := keepsLast reads_tunnel
  rw [mem_calls_iff]
  constructor
  · intro ⟨site, dc, hsite, hdc, htunnel⟩
    have ⟨v, hv, hr⟩ := (hs.lookup_entries h).mp hsite
    have ⟨v', hv', hr'⟩ := (hd.lookup_entries hr).mp hdc
    have ⟨v'', hv'', _⟩ := (ht.lookup_entries hr').mp htunnel
    exact ⟨v, v', v'', hv, hv', hv''⟩
  · intro ⟨v, v', v'', hv, hv', hv''⟩
    have ⟨site, hr⟩ := hv.exists_read reads_site
    have ⟨dc, hr'⟩ := hv'.exists_read reads_datacenter
    have ⟨(), hr''⟩ := hv''.exists_read reads_tunnel
    exact ⟨site, dc, (hs.lookup_entries h).mpr ⟨v, hv, hr⟩,
      (hd.lookup_entries hr).mpr ⟨v', hv', hr'⟩, (ht.lookup_entries hr').mpr ⟨v'', hv'', hr''⟩⟩

end Document

theorem Visitor.isPrefix_recorded {σ : Type} (v : Visitor σ) (doc : Document) (t : σ) :
    (v.recorded.walk doc (t, [])).2.2.map Prod.fst <+: doc.calls := by
  have ⟨_, _, _, _, hr, he⟩ := v.foldlM_recorded doc.places {} t []
  rw [v.recorded.walk_eq_foldlM, hr]
  exact he.isPrefix

open Json Json.Level

-- At each level a name keeps its first place and its last value. So a key is walked only if it is
-- in the last value of its datacenter in the last value of its site. An entry that is not kept has
-- to be well-formed all the same.
theorem document_duplicates :
    KeepsLast Skip.reader ∧ KeepsLast datacenterReader ∧ KeepsLast siteReader ∧
      (∀ text doc, Document.ofText text = .ok doc →
        (∀ c, c ∈ doc.calls ↔ GivesKey text c) ∧
          ∀ {σ : Type} (v : Visitor σ) (t : σ),
            (v.recorded.walk doc (t, [])).2.2.map Prod.fst <+: doc.calls) ∧
      ∀ text, HasMalformed text → ∃ e, Document.ofText text = .error (.invalidJson e) := by
  refine ⟨keepsLast reads_tunnel, keepsLast reads_datacenter, keepsLast reads_site, ?_, ?_⟩
  · intro text doc h
    rw [Document.ofText_eq_ok_iff] at h
    exact ⟨fun c => Document.mem_calls_iff_givesKey h, fun v t => v.isPrefix_recorded doc t⟩
  · intro text h
    have ⟨e, he⟩ := h.exists_error
    exact ⟨e, by simp [Document.ofText, he, Except.mapError]⟩

-- A site that is spelled in two ways, and a name without quotes in a site that is given again.
theorem document_duplicates_respelled :
    let text :=
      "\x7b\"s\":\x7b\"d\":\x7b\"k\":0\x7d\x7d,\"\\u0073\":\x7b\"d\":\x7b\"l\":0\x7d\x7d\x7d"
    let text' := "\x7b\"s\":\x7b\"d\":null,e:0\x7d,\"s\":\x7b\x7d\x7d"
    (∃ doc, Document.ofText text = .ok doc) ∧
      GivesKey text ⟨"s", "d", "l"⟩ ∧ ¬GivesKey text ⟨"s", "d", "k"⟩ ∧
      HasMalformed text' ∧ ∃ e, Document.ofText text' = .error (.invalidJson e) := by
  have ⟨_, _, _, hw, hm⟩ := document_duplicates
  have ht : Document.ofText
      "\x7b\"s\":\x7b\"d\":\x7b\"k\":0\x7d\x7d,\"\\u0073\":\x7b\"d\":\x7b\"l\":0\x7d\x7d\x7d" =
        .ok (.object { toList := [("s", .object { toList := [("d", .object {
          toList := [("l", ())] })] })] }) := rfl
  have hc := (hw _ _ ht).left
  have hp c (h : Json.Text.IsPlain c) : Json.Text.Spells [c] [c] := .plain h .nil
  have hn : SpellsDatacenter "null".toList (.notObject .null) := .word (by simp [words, Found.text])
  have hd : Member SpellsDatacenter "\"d\":null".toList (.ofList ['d'], .notObject .null) :=
    .intro .nil (hp 'd' (by simp [Json.Text.IsPlain])) .nil .nil hn .nil
  have hi : Malformed SpellsDatacenter (Malformed SpellsTunnel fun _ => False)
      ([] ++ '\x7b' :: "\"d\":null,".toList ++ "e:0\x7d,\"s\":\x7b\x7d\x7d".toList) :=
    .entry .nil (.inr ⟨_, _, rfl, .last hd⟩) <|
      not_goesOn_of_ne (c := 'e') rfl (by decide) (by decide) _
  have hs : Malformed SpellsSite _ ([] ++ '\x7b' :: [] ++ ([] ++ quoted ['s'] ++ [] ++ ':' :: _)) :=
    .within .nil (.inl rfl) .nil (hp 's' (by simp [Json.Text.IsPlain])) .nil hi
  exact ⟨⟨_, ht⟩, (hc _).mp (by decide), mt (hc _).mpr (by decide), hs, hm _ hs⟩

end TunnelPorts
