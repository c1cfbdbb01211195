import TunnelPorts.Proofs.Extract
import TunnelPorts.Proofs.Split

/-!
Output read back. Nothing is escaped in the output, and still it says which tunnels and which ports
went into it, as long as no label holds a comma, a colon or a line feed and no port a comma or a
line feed: the only line feed is then the one behind the header, every comma ends a token, and the
first colon of a pair is the one behind the label.
-/

namespace TunnelPorts

namespace Output

-- The tokens of a section, without their commas; `ending` is what stands behind the last of them.
def tokens? (ending cs : List Char) : Option (List (List Char)) :=
  let parts := Text.split ',' cs
  if parts.getLast? = some ending then some parts.dropLast else none

def readPair? (token : List Char) : Option Tunnel :=
  match token.dropWhile (· ≠ ':') with
  | []        => none
  | _ :: port => some ⟨.ofList (token.takeWhile (· ≠ ':')), .ofList port⟩

def readPort? : List Char → Option String
  | ':' :: port => some (.ofList port)
  | _           => none

-- The tunnels and the distinct ports that an output names.
def decode (bytes : Bytes) : Option (List Tunnel × List String) := do
  let text ← Text.ofUtf8? bytes
  match Text.split '\n' text.toList with
  | [first, second] =>
    let pairs ← tokens? header.toList first
    let ports ← tokens? [] second
    return (← pairs.mapM readPair?, ← ports.mapM readPort?)
  | _ => none

end Output

-- The tunnel can be told from its token.
structure Tunnel.IsPlain (t : Tunnel) : Prop where
  label : ∀ c ∈ t.label.toList, c ∉ [',', ':', '\n']
  port  : ∀ c ∈ t.port.toList, c ∉ [',', '\n']

theorem Tunnel.isPlain_iff (t : Tunnel) :
    t.IsPlain ↔ t.label.toList.all (· ∉ [',', ':', '\n']) ∧ t.port.toList.all (· ∉ [',', '\n']) := by
  rw [List.all_eq_true, List.all_eq_true]
  simp only [decide_eq_true_eq]
  exact ⟨fun h => ⟨h.label, h.port⟩, fun ⟨hl, hp⟩ => ⟨hl, hp⟩⟩

instance (t : Tunnel) : Decidable t.IsPlain :=
  decidable_of_iff' _ t.isPlain_iff

-- All tunnels of the document can be told from their tokens.
def Document.IsPlain (doc : Document) : Prop :=
  ∀ k ∈ doc.keys, (Key.tunnel k).IsPlain

namespace Output

def pairToken (t : Tunnel) : List Char :=
  t.label.toList ++ ':' :: t.port.toList

def portToken (port : String) : List Char :=
  ':' :: port.toList

-- Everything in front of the header.
def pairSection (ts : List Tunnel) : List Char :=
  (ts.map pairToken).flatMap (· ++ [','])

-- Everything behind the header.
def portSection (ports : List String) : List Char :=
  (ports.map portToken).flatMap (· ++ [','])

def text (ts : List Tunnel) (ports : List String) : String :=
  .ofList (pairSection ts ++ "ports:\n".toList ++ portSection ports)

theorem bytes_eq_utf8_join (pieces : List String) :
    bytes pieces = Text.utf8 (String.join pieces) := by
  induction pieces
  case nil          => rfl
  case cons p ps hi => rw [bytes_cons, hi, String.join_cons, Text.utf8_append]

theorem utf8_text (ts : List Tunnel) (ports : List String) :
    Text.utf8 (text ts ports) = bytes (ts.flatMap pairPieces ++ portPieces ports) := by
  rw [bytes_eq_utf8_join]
  congr 1
  rw [← String.toList_inj, String.toList_join, text, String.toList_ofList]
  simp [pairSection, portSection, pairToken, portToken, pairPieces, portPieces, header,
    List.flatMap_map, List.flatMap_assoc]

variable {t : Tunnel} {ts : List Tunnel} {ports : List String}

theorem readPair?_pairToken (h : t.IsPlain) : readPair? (pairToken t) = some t := by
  have hl : ∀ c ∈ t.label.toList, decide (c ≠ ':') = true := by
    intro c hc
    have := h.label c hc
    simp_all
  rw [readPair?, pairToken, List.dropWhile_append_of_pos hl, List.takeWhile_append_of_pos hl]
  simp

theorem tokens?_append {parts : List (List Char)} {ending : List Char}
    (hp : ∀ p ∈ parts, ',' ∉ p) (he : ',' ∉ ending) :
    tokens? ending (parts.flatMap (· ++ [',']) ++ ending) = some parts := by
  rw [tokens?, Text.split_terminated hp he]
  simp

theorem mapM_map_of_eq {α β : Type} {f : α → Option β} {g : β → α} {bs : List β}
    (h : ∀ b ∈ bs, f (g b) = some b) : (bs.map g).mapM f = some bs := by
  induction bs
  case nil => rfl
  case cons b bs hi =>
    have ⟨hb, hbs⟩ := List.forall_mem_cons.mp h
    simp [hb, hi hbs]

theorem comma_not_mem_pairToken (h : t.IsPlain) : ',' ∉ pairToken t := by
  have hl : ',' ∉ t.label.toList := fun hc => h.label _ hc (by simp)
  have hp : ',' ∉ t.port.toList := fun hc => h.port _ hc (by simp)
  simp [pairToken, hl, hp]

theorem lineFeed_not_mem_pairToken (h : t.IsPlain) : '\n' ∉ pairToken t := by
  have hl : '\n' ∉ t.label.toList := fun hc => h.label _ hc (by simp)
  have hp : '\n' ∉ t.port.toList := fun hc => h.port _ hc (by simp)
  simp [pairToken, hl, hp]

theorem lineFeed_not_mem_section {parts : List (List Char)} (h : ∀ p ∈ parts, '\n' ∉ p) :
    '\n' ∉ parts.flatMap (· ++ [',']) := by
  simpa using h

theorem lineFeed_not_mem_pairSection (h : ∀ t ∈ ts, t.IsPlain) : '\n' ∉ pairSection ts :=
  lineFeed_not_mem_section <|
    List.forall_mem_map.mpr fun t ht => lineFeed_not_mem_pairToken (h t ht)

-- The first line of an output, and the rest of it.
theorem toList_text (ts : List Tunnel) (ports : List String) :
    (text ts ports).toList = (pairSection ts ++ header.toList) ++ '\n' :: portSection ports := by
  have hh : "ports:\n".toList = header.toList ++ ['\n'] := rfl
  rw [text, String.toList_ofList, hh]
  simp

theorem lineFeed_not_mem_first (h : ∀ t ∈ ts, t.IsPlain) :
    '\n' ∉ pairSection ts ++ header.toList := by
  simp [lineFeed_not_mem_pairSection h, header]

theorem lineFeed_not_mem_portSection (h : ∀ p ∈ ports, ∀ c ∈ p.toList, c ∉ [',', '\n']) :
    '\n' ∉ portSection ports := by
  refine lineFeed_not_mem_section <| List.forall_mem_map.mpr fun p hp => ?_
  have hn : '\n' ∉ p.toList := fun hc => h p hp _ hc (by simp)
  simp [portToken, hn]

theorem comma_not_mem_portToken {p : String} (h : ∀ c ∈ p.toList, c ∉ [',', '\n']) :
    ',' ∉ portToken p := by
  have hn : ',' ∉ p.toList := fun hc => h _ hc (by simp)
  simp [portToken, hn]

theorem decode_text (ht : ∀ t ∈ ts, t.IsPlain)
    (hp : ∀ p ∈ ports, ∀ c ∈ p.toList, c ∉ [',', '\n']) :
    decode (Text.utf8 (text ts ports)) = some (ts, ports) := by
  have hs : Text.split '\n' (text ts ports).toList =
      [pairSection ts ++ header.toList, portSection ports] := by
    rw [toList_text, Text.split_append_cons, Text.split_of_not_mem (lineFeed_not_mem_first ht),
      Text.split_of_not_mem (lineFeed_not_mem_portSection hp)]
    rfl
  have hf : tokens? header.toList (pairSection ts ++ header.toList) = some (ts.map pairToken) :=
    tokens?_append (List.forall_mem_map.mpr fun t h => comma_not_mem_pairToken (ht t h))
      (by decide)
  have hr : tokens? [] (portSection ports ++ []) = some (ports.map portToken) :=
    tokens?_append (List.forall_mem_map.mpr fun p h => comma_not_mem_portToken (hp p h))
      List.not_mem_nil
  rw [List.append_nil] at hr
  have hpairs := mapM_map_of_eq fun t h => readPair?_pairToken (ht t h)
  have hports : (ports.map portToken).mapM readPort? = some ports :=
    mapM_map_of_eq fun p _ => by simp [portToken, readPort?]
  simp only [decode, Text.ofUtf8?_utf8, hs, hf, hr, hpairs, hports, Option.bind_eq_bind,
    Option.bind_some]
  rfl

-- The header occurs once.
theorem eq_pairSection_of_header {pre post : List Char} (ht : ∀ t ∈ ts, t.IsPlain)
    (hp : ∀ p ∈ ports, ∀ c ∈ p.toList, c ∉ [',', '\n'])
    (h : (text ts ports).toList = pre ++ "ports:\n".toList ++ post) : pre = pairSection ts := by
  have hh : "ports:\n".toList = header.toList ++ ['\n'] := rfl
  rw [toList_text, hh, ← List.append_assoc, List.append_assoc (pre ++ header.toList),
    List.singleton_append] at h
  have ⟨hf, _⟩ := List.append_cons_inj_of_notMem (lineFeed_not_mem_first ht)
    (lineFeed_not_mem_portSection hp) |>.mp h
  exact (List.append_cancel_right hf).symm

theorem count_pairSection (h : ∀ t ∈ ts, t.IsPlain) : (pairSection ts).count ',' = ts.length := by
  induction ts
  case nil => rfl
  case cons t ts hi =>
    have ⟨ht, hts⟩ := List.forall_mem_cons.mp h
    have hc := List.count_eq_zero_of_not_mem <| comma_not_mem_pairToken ht
    have hs : pairSection (t :: ts) = pairToken t ++ [','] ++ pairSection ts := rfl
    rw [hs, List.count_append, List.count_append, hc, hi hts]
    simp [Nat.add_comm]

end Output

namespace Document

theorem output_eq_utf8_text (doc : Document) :
    doc.output = Text.utf8 (Output.text (doc.keys.map Key.tunnel) doc.ports) := by
  rw [Output.utf8_text, Output.bytes_append, Output.bytes_pairPieces, Output.bytes_portPieces,
    output, List.append_assoc]

theorem IsPlain.forall_ports {doc : Document} (h : doc.IsPlain) :
    ∀ p ∈ doc.ports, ∀ c ∈ p.toList, c ∉ [',', '\n'] := by
  intro p hp
  have ⟨k, hk, he⟩ := List.mem_map.mp <| List.mem_eraseDups.mp hp
  exact he ▸ (h k hk).port

theorem IsPlain.forall_tunnels {doc : Document} (h : doc.IsPlain) :
    ∀ t ∈ doc.keys.map Key.tunnel, t.IsPlain :=
  List.forall_mem_map.mpr h

-- What is written for a document names the tunnels of the document in order, and its ports.
theorem IsPlain.decode_output {doc : Document} (h : doc.IsPlain) :
    Output.decode doc.output = some (doc.keys.map Key.tunnel, doc.ports) := by
  rw [output_eq_utf8_text]
  exact Output.decode_text h.forall_tunnels h.forall_ports

end Document

-- The output of an extraction can be read back, and says what it was made of.
theorem decode_written {doc : Document} {out : Collected} {o : Outcome}
    (h : (extract doc out).1 = .ok o) (hd : doc.IsPlain) :
    ∃ text : String, (extract doc out).2.sink.received = out.received ++ Text.utf8 text ∧
      Output.decode (Text.utf8 text) = some (doc.keys.map Key.tunnel, o.ports.toList) ∧
      (∃ pre post, text.toList = pre ++ "ports:\n".toList ++ post ∧
        pre.count ',' = o.summary.tunnels ∧
        ∀ pre' post', text.toList = pre' ++ "ports:\n".toList ++ post' → pre' = pre) ∧
      ∀ (doc' : Document) (out' : Collected) (o' : Outcome), (extract doc' out').1 = .ok o' →
        doc'.IsPlain → (extract doc' out').2.sink.received = out'.received ++ Text.utf8 text →
          doc'.keys.map Key.tunnel = doc.keys.map Key.tunnel ∧
            o'.ports.toList = o.ports.toList := by
  have ⟨hr, hp, hs⟩ := extract_of_ok h
  have hw := doc.output_eq_utf8_text
  refine ⟨Output.text (doc.keys.map Key.tunnel) doc.ports, hw ▸ hr, ?decoded, ?header, ?same⟩
  case decoded => rw [← hw, hd.decode_output, hp]
  case header =>
    refine ⟨_, _, String.toList_ofList, ?_, fun pre post he => ?_⟩
    case refine_1 =>
      rw [Output.count_pairSection hd.forall_tunnels, List.length_map, hs]
      rfl
    case refine_2 => exact Output.eq_pairSection_of_header hd.forall_tunnels hd.forall_ports he
  case same =>
    intro doc' out' o' h' hd' he
    have ⟨hr', hp', _⟩ := extract_of_ok h'
    have ho : doc'.output = doc.output := by
      have he := congrArg Array.toList <| hr'.symm.trans he
      simpa [hw] using he
    have hd := hd'.decode_output.symm.trans <| ho ▸ hd.decode_output
    rw [hp, hp']
    exact Prod.mk.inj <| Option.some.inj hd

theorem decode_written_colons :
    let doc : Document := .object { toList := [("s", .object { toList := [("d", .object {
      toList := [("a_b_c_ports_1:2", ()), ("a_b_c__", ()), ("a_b_c_x_1:2", ())] })] })] }
    let out : Collected := {}
    doc.IsPlain ∧ ∃ o text, (extract doc out).1 = .ok o ∧
      (extract doc out).2.sink.received = out.received ++ Text.utf8 text ∧
      Output.decode (Text.utf8 text) =
        some ([⟨"ports", "1:2"⟩, ⟨"", ""⟩, ⟨"x", "1:2"⟩], ["1:2", ""]) := by
  intro doc out
  have hk : doc.keys.map Key.tunnel = [⟨"ports", "1:2"⟩, ⟨"", ""⟩, ⟨"x", "1:2"⟩] := by
    decide +kernel
  have ht : ∀ t ∈ doc.keys.map Key.tunnel, t.IsPlain := by
    rw [hk]
    decide
  have hd : doc.IsPlain := List.forall_mem_map.mp ht
  have ⟨o, ho⟩ : ∃ o, (extract doc out).1 = .ok o := extract_isOk_iff.mpr (by decide +kernel)
  have ⟨text, hr, hc, _⟩ := decode_written ho hd
  have hp : o.ports.toList = ["1:2", ""] := by
    rw [(extract_of_ok ho).right.left]
    decide +kernel
  exact ⟨hd, o, text, ho, hr, by rw [hc, hk, hp]⟩

end TunnelPorts
