import TunnelPorts.Proofs.Config.Layering
import TunnelPorts.Proofs.Json.Document
import TunnelPorts.Run

/-!
Documents in environment variables. A JSON object is no value in the notation of variables, for a
colon stands behind its first name where that wants an equals sign. So it stands for itself, and
arrives as it is; all but the empty object, which is written alike in both.
-/

namespace TunnelPorts

open Scan

namespace Json

variable {α : Type}

theorem Text.Spells.shaped {cs ds : List Char} (h : Text.Spells cs ds) : Text.Shaped cs := by
  induction h
  case nil => exact .nil
  case plain hc _ hi => exact .plain hc hi
  case escape he _ hi => exact .escape he hi
  case code hc _ _ hi => exact .code hc hi
  case pair hm _ hn _ _ hi =>
    rw [List.append_assoc]
    exact .code hm (.code hn hi)

-- A text that begins with a name and the colon behind it.
def BeginsWithName (cs : List Char) : Prop :=
  ∃ ws k ws' rest, Blanks ws ∧ Text.Shaped k ∧ Blanks ws' ∧
    cs = ws ++ (quoted k ++ (ws' ++ ':' :: rest))

theorem BeginsWithName.append {cs : List Char} (h : BeginsWithName cs) (more : List Char) :
    BeginsWithName (cs ++ more) := by
  have ⟨ws, k, ws', rest, hw, hk, hw', hc⟩ := h
  exact ⟨ws, k, ws', rest ++ more, hw, hk, hw', by simp [hc]⟩

theorem Level.Member.beginsWithName {child : List Char → α → Prop} {cs : List Char}
    {e : String × α} (h : Level.Member child cs e) : BeginsWithName cs := by
  cases h
  case intro ws k ks ws₁ ws₂ v a ws' hw hk hw₁ _ _ _ =>
    exact ⟨ws, k, ws₁, ws₂ ++ v ++ ws', hw, hk.shaped, hw₁, by simp⟩

-- So does an object that is not empty, behind its opening brace.
theorem Level.Members.beginsWithName {child : List Char → α → Prop} {cs : List Char}
    {es : List (String × α)} (h : Level.Members child cs es) : BeginsWithName cs := by
  cases h
  case last h   => exact h.beginsWithName
  case cons h _ => exact h.beginsWithName.append _

theorem isAsciiBlank_of_isBlank {c : Char} (h : isBlank c) : TunnelPorts.Text.isAsciiBlank c := by
  simp only [isBlank, Bool.or_eq_true, decide_eq_true_eq] at h
  rcases h with ((rfl | rfl) | rfl) | rfl <;> rfl

end Json

namespace Text

variable {k rest : List Char}

theorem leaves_escaped_letter {c d : Char} (h : (c, d) ∈ Json.Text.escapes) (s : List Char) :
    Leaves escaped (c :: s) s := by
  have hc : codeLength? c = none := by
    simp only [Json.Text.escapes, List.mem_cons, Prod.mk.injEq, List.not_mem_nil, or_false] at h
    rcases h with h | h | h | h | h | h | h | h <;> rw [h.left] <;> rfl
  refine .bind_of (run_next ..) ?_
  rw [hc]
  exact .lift _ _

theorem leaves_escaped_code {hs : List Char} {n : Nat} (h : Json.Text.IsCode hs n) (s : List Char) :
    Leaves escaped ('u' :: (hs ++ s)) s := by
  have ⟨hl, hd, _⟩ := h
  have he : (exactly 4 isHexDigit).run (hs ++ s) = some (hs, s) :=
    run_exactly (List.all_eq_true.mpr hd) hl
  exact .bind_of (run_next ..) <| .bind_of he <| .lift _ _

-- Both notations end a text at the same quote, if they take it for a text.
theorem leaves_quotedBody (h : Json.Text.Shaped k) (fuel : Nat) (text : String) :
    Leaves (quotedBody fuel text) (k ++ '"' :: rest) rest := by
  induction h generalizing fuel text
  all_goals
    cases fuel
    case zero => exact .of_none rfl
  case nil.succ => exact .bind_of (run_next ..) <| .of_run rfl
  case plain.succ c cs hc _ hi fuel =>
    refine .bind_of (run_next ..) ?_
    rw [if_neg hc.left, if_neg hc.right.left]
    split
    case isTrue  => exact hi _ _
    case isFalse => exact .of_none rfl
  case escape.succ c d cs he _ hi fuel =>
    exact .bind_of (run_next ..) <| (leaves_escaped_letter he _).bind fun _ => hi _ _
  case code.succ hs n cs hc _ hi fuel =>
    rw [List.append_assoc]
    exact .bind_of (run_next ..) <| (leaves_escaped_code hc _).bind fun _ => hi _ _

theorem leaves_quotedText (h : Json.Text.Shaped k) :
    Leaves quotedText (Json.quoted k ++ rest) rest := by
  rw [Json.quoted, List.append_assoc]
  exact .bind_of (run_eat ..) <| .bind_of (run_get _) <| leaves_quotedBody h _ _

end Text

namespace Config.EnvironmentValue

variable {inner : Scan Value} {ws ws' k rest s : List Char} {c : Char} {text : String}

theorem run_skipBlanks (hw : Json.Blanks ws) (hs : Stops Text.isAsciiBlank s) :
    (skipWhile Text.isAsciiBlank).run (ws ++ s) = some ((), s) :=
  run_skipWhile (fun c hc => Json.isAsciiBlank_of_isBlank (hw c hc)) hs

theorem leaves_key (hw : Json.Blanks ws) (hk : Json.Text.Shaped k) (hw' : Json.Blanks ws')
    (rest : List Char) :
    Leaves key (ws ++ (Json.quoted k ++ (ws' ++ ':' :: rest))) (':' :: rest) := by
  have hs : (skipWhile Text.isAsciiBlank).run (ws ++ (Json.quoted k ++ (ws' ++ ':' :: rest))) =
      some ((), Json.quoted k ++ (ws' ++ ':' :: rest)) :=
    run_skipBlanks hw rfl
  have hp : peek?.run (Json.quoted k ++ (ws' ++ ':' :: rest)) = some (some '"', _) := rfl
  refine .bind_of hs <| .bind_of hp ?_
  refine (Text.leaves_quotedText hk).bind fun _ => ?_
  exact .bind_of (run_skipBlanks hw' rfl) <| .of_run rfl

-- No member begins with a name and a colon …
theorem run_member_of_beginsWithName (h : Json.BeginsWithName s) :
    (member inner).run s = none := by
  have ⟨ws, k, ws', rest, hw, hk, hw', hs⟩ := h
  rw [hs]
  exact (leaves_key hw hk hw' rest).run_bind fun _ => run_bind_of_none rfl

-- … or with blanks and nothing.
theorem run_member_brace (hw : Json.Blanks ws) (rest : List Char) :
    (member inner).run (ws ++ '\x7d' :: rest) = none := by
  have hs : (skipWhile Text.isAsciiBlank).run (ws ++ '\x7d' :: rest) = some ((), '\x7d' :: rest) :=
    run_skipBlanks hw rfl
  have hp : peek?.run ('\x7d' :: rest) = some (some '\x7d', '\x7d' :: rest) := rfl
  have hk : key.run (ws ++ '\x7d' :: rest) = none := by
    rw [key, run_bind_of hs, run_bind_of hp]
    exact run_bind_of_none rfl
  exact run_bind_of_none hk

theorem stops_of_isBlank (h : Json.isBlank c) : Stops (· = '\x7d') (c :: s) := by
  simp only [Json.isBlank, Bool.or_eq_true, decide_eq_true_eq] at h
  rcases h with ((rfl | rfl) | rfl) | rfl <;> rfl

theorem stops_of_beginsWithName (h : Json.BeginsWithName s) : Stops (· = '\x7d') s := by
  have ⟨ws, k, ws', rest, hw, _, _, hs⟩ := h
  rw [hs]
  cases ws
  case nil  => rfl
  case cons => exact stops_of_isBlank <| hw _ List.mem_cons_self

theorem run_dict_of_none (hs : Stops (· = '\x7d') s) (hm : (member inner).run s = none) :
    (dict inner).run ('\x7b' :: s) = none := by
  have hi : (items '\x7d' (member inner) (s.length + 1)).run s = none := by
    rw [items, run_bind_of (run_eats_of_stops hs)]
    exact run_bind_of_none hm
  have hl : (list '\x7b' '\x7d' (member inner)).run ('\x7b' :: s) = none := by
    rw [list, run_bind_of (run_eat ..), run_bind_of (run_get s), hi]
  exact run_bind_of_none hl

theorem run_content_brace (s : List Char) :
    (content inner).run ('\x7b' :: s) = (dict inner).run ('\x7b' :: s) := by
  have hp : peek?.run ('\x7b' :: s) = some (some '\x7b', '\x7b' :: s) := rfl
  rw [content, run_bind_of (run_eatsWord_of_not rfl), if_neg Bool.false_ne_true,
    run_bind_of (run_eatsWord_of_not rfl), if_neg Bool.false_ne_true, run_bind_of hp]
  rfl

theorem ofText_of_none (ht : text.toList = ws ++ '\x7b' :: s) (hw : Json.Blanks ws)
    (hs : Stops (· = '\x7d') s) (hm : ∀ inner, (member inner).run s = none) :
    ofText text = .scalar (.string text) .environment := by
  have hv fuel : (value (fuel + 1)).run text.toList = none := by
    have hb : (skipWhile Text.isAsciiBlank).run text.toList = some ((), '\x7b' :: s) :=
      ht ▸ run_skipBlanks hw rfl
    rw [value, run_bind_of hb]
    refine run_bind_of_none ?_
    rw [run_content_brace, run_dict_of_none hs (hm _)]
  rw [ofText, whole?, hv]
  rfl

-- A text that is nothing but an empty object, with not even blanks between its braces.
def IsBare (text : String) : Prop :=
  ∃ ws ws', Json.Blanks ws ∧ Json.Blanks ws' ∧ text.toList = ws ++ '\x7b' :: '\x7d' :: ws'

theorem ofText_bare (h : IsBare text) : ofText text = .dict [] .environment := by
  have ⟨ws, ws', hw, hw', ht⟩ := h
  have hb : (skipWhile Text.isAsciiBlank).run text.toList = some ((), '\x7b' :: '\x7d' :: ws') :=
    ht ▸ run_skipBlanks hw rfl
  have hb' : (skipWhile Text.isAsciiBlank).run ws' = some ((), []) := by
    simpa using run_skipBlanks hw' (s := []) rfl
  have hd {inner} : (dict inner).run ('\x7b' :: '\x7d' :: ws') =
      some (.dict [] .environment, ws') :=
    rfl
  have hv fuel : (value (fuel + 1)).run text.toList = some (.dict [] .environment, []) := by
    rw [value, run_bind_of hb, run_bind_of ((run_content_brace _).trans hd), run_bind_of hb']
    rfl
  rw [ofText, whole?, hv]
  rfl

-- An object stands for itself unless it is bare.
theorem ofText_object {es : Entries Site} (h : Document.parse text = .ok (.object es))
    (hb : ¬IsBare text) : ofText text = .scalar (.string text) .environment := by
  have ⟨ws, v, ws', ht, hw, hw', hv⟩ := Document.parse_eq_ok_iff.mp h
  cases hv
  case emptyObject ws₁ hw₁ =>
    simp only [Json.Bracket.enclose, Json.Bracket.opening, Json.Bracket.closing] at ht
    cases ws₁
    case nil => exact absurd ⟨ws, ws', hw, hw', by simpa using ht⟩ hb
    case cons c ws₁ =>
      have hs : Stops (· = '\x7d') (c :: ws₁ ++ '\x7d' :: ws') :=
        stops_of_isBlank <| hw₁ c List.mem_cons_self
      exact ofText_of_none (by simpa using ht) hw hs fun _ => run_member_brace hw₁ ws'
  case object cs ms hm _ =>
    simp only [Json.Bracket.enclose, Json.Bracket.opening, Json.Bracket.closing] at ht
    have hn : Json.BeginsWithName (cs ++ '\x7d' :: ws') := hm.beginsWithName.append _
    exact ofText_of_none (by simpa using ht) hw (stops_of_beginsWithName hn)
      fun _ => run_member_of_beginsWithName hn

end Config.EnvironmentValue

namespace Environment

open Config (Dict)

-- The variables that belong to the layer.
def settings (env : Environment) : Environment :=
  env.filter fun var => (Config.Variable.path? var.1).isSome

theorem layer_settings (env : Environment) : env.settings.layer = env.layer := by
  rw [layer, settings, List.foldl_filter, layer]
  congr
  funext d var
  cases h : Config.Variable.path? var.1 <;> simp [h]

-- The environment gives a document and the kind that goes with it, in either order, and no more.
def GivesDocument (env : Environment) (text : String) : Prop :=
  let kind := ("TKX_SOURCE_CONFIG__KIND", "in_memory")
  let document := ("TKX_SOURCE_CONFIG__DOCUMENT", text)
  env.settings = [kind, document] ∨ env.settings = [document, kind]

theorem path?_kind : Config.Variable.path? "TKX_SOURCE_CONFIG__KIND" =
    some ["source_config", "kind"] := by
  rfl

theorem path?_document : Config.Variable.path? "TKX_SOURCE_CONFIG__DOCUMENT" =
    some ["source_config", "document"] := by
  rfl

theorem layer_pair (var var' : String × String) :
    layer [var, var'] = (Dict.merge [] (ofVariable var)).merge (ofVariable var') :=
  (layer_concat [var] var').trans <| congrArg (Dict.merge · _) (layer_concat [] var)

end Environment

namespace Config

variable {fs : FileSystem} {env : Environment} {text : String}

-- All depends on what the text of the variable stands for.
theorem decode_of_givesDocument (h : env.GivesDocument text) :
    decode (merged env []) =
      (Decode.document .environment (EnvironmentValue.ofText text)).map .inMemory := by
  have hd : decode (merged env []) =
      Decode.document .environment (EnvironmentValue.ofText text) >>=
        fun s => pure (.inMemory s) := by
    rw [merged, ← env.layer_settings]
    rcases h with h | h <;> rw [h, Environment.layer_pair, Environment.ofVariable,
      Environment.ofVariable, Environment.path?_kind, Environment.path?_document] <;> rfl
  rw [hd]
  cases Decode.document .environment (EnvironmentValue.ofText text) <;> rfl

theorem load_of_givesDocument (fs : FileSystem) (h : env.GivesDocument text) :
    ∃ found, load fs env none =
      ((Decode.document .environment (EnvironmentValue.ofText text)).map Source.inMemory).mapError
        fun error => ⟨none, found, error⟩ := by
  have ⟨found, hl⟩ := load_eq env (rfl : namedLayer fs none = .ok [])
  exact ⟨found, by rw [hl, decode_of_givesDocument h]⟩

-- A bare object is taken for a dictionary, which is no document.
theorem load_bare_document (h : env.GivesDocument text) (hb : EnvironmentValue.IsBare text) :
    ∃ f, load fs env none = .error f ∧
      f.error = .wrongValue (.invalidType "map" "a string") ["source_config"] .environment := by
  have ⟨found, hl⟩ := load_of_givesDocument fs h
  rw [hl, EnvironmentValue.ofText_bare hb]
  exact ⟨_, rfl, rfl⟩

-- Any other object that is a document arrives as it is.
theorem load_document_verbatim {es : Entries Site} {σ : Type} [Sink σ] (h : env.GivesDocument text)
    (hd : Document.ofText text = .ok (.object es)) (hb : ¬EnvironmentValue.IsBare text)
    (sink : σ) :
    load fs env none = .ok (.inMemory text) ∧
      (load fs env none).map (fun source => (run fs source sink : Run.Result σ Outcome)) =
        .ok (run fs (.inMemory text) sink) := by
  have ⟨found, hl⟩ := load_of_givesDocument fs h
  rw [EnvironmentValue.ofText_object (Document.ofText_eq_ok_iff.mp hd) hb] at hl
  exact ⟨hl, by rw [hl]; rfl⟩

-- The name could be a text in the notation of variables but for the slash, and the value could be
-- a bare object.
theorem load_document_verbatim_escapes :
    let fs : FileSystem := ⟨"/", fun _ => .error (.system .noSuchFile)⟩
    let text := "\n\x7b\"\\\"\\/=\" : \x7b\x7d\x7d "
    let env : Environment := [("TKX_SOURCE_CONFIG__DOCUMENT", text), ("PATH", "/bin"),
      ("TKX_SOURCE_CONFIG__KIND", "in_memory")]
    let sink : Collected := {}
    load fs env none = .ok (.inMemory text) ∧
      (load fs env none).map (fun source => (run fs source sink : Run.Result Collected Outcome)) =
        .ok (run fs (.inMemory text) sink) := by
  have hd : Document.ofText "\n\x7b\"\\\"\\/=\" : \x7b\x7d\x7d " =
      .ok (.object { toList := [("\"/=", .object {})] }) :=
    rfl
  have hb : ¬EnvironmentValue.IsBare "\n\x7b\"\\\"\\/=\" : \x7b\x7d\x7d " := by
    intro ⟨ws, ws', hw, _, ht⟩
    have hc : "\n\x7b\"\\\"\\/=\" : \x7b\x7d\x7d ".toList = '\n' :: '\x7b' :: '"' :: _ := rfl
    rw [hc] at ht
    rcases ws with _ | ⟨c, _ | ⟨d, ws⟩⟩ <;> simp at ht
    have hd := hw d (by simp)
    rw [← ht.right.left] at hd
    contradiction
  intro fs text env sink
  have hp : Variable.path? "PATH" = none := rfl
  have hg : env.GivesDocument text := by
    right
    simp [env, Environment.settings, Environment.path?_kind, Environment.path?_document, hp]
  exact load_document_verbatim hg hd hb sink

theorem load_empty_document :
    let fs : FileSystem := ⟨"/", fun _ => .error (.system .noSuchFile)⟩
    let text := "\x7b\x7d"
    let env : Environment := [("TKX_SOURCE_CONFIG__KIND", "in_memory"),
      ("TKX_SOURCE_CONFIG__DOCUMENT", text)]
    env.GivesDocument text ∧ Document.ofText text = .ok (.object {}) ∧
      ∃ f, load fs env none = .error f ∧
        f.error = .wrongValue (.invalidType "map" "a string") ["source_config"] .environment := by
  have hb : EnvironmentValue.IsBare "\x7b\x7d" := ⟨[], [], nofun, nofun, rfl⟩
  have hd : Document.ofText "\x7b\x7d" = .ok (.object {}) := rfl
  intro fs text env
  have hg : env.GivesDocument text := by
    left
    simp [env, Environment.settings, Environment.path?_kind, Environment.path?_document]
  exact ⟨hg, hd, load_bare_document hg hb⟩

end Config
end TunnelPorts
