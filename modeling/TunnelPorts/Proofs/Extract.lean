import TunnelPorts.Proofs.Script

/-!
Extractions as a whole: when they succeed and what they then deliver, what is left behind when they
fail, and what a sink that gives out on the way makes of them.
-/

namespace TunnelPorts

namespace Level

variable {α : Type}

-- The entries of a level; what is no object has none.
def entries : Level α → List (String × α)
  | object es   => es.toList
  | notObject _ => []

-- The level is an object all of whose entries satisfy `P`.
def All (P : String × α → Prop) : Level α → Prop
  | object es   => ∀ e ∈ es.toList, P e
  | notObject _ => False

instance {P : String × α → Prop} [DecidablePred P] : (level : Level α) → Decidable (level.All P)
  | object es   => inferInstanceAs (Decidable (∀ e ∈ es.toList, P e))
  | notObject _ => isFalse id

theorem All.forall_mem {P : String × α → Prop} {level : Level α} (h : level.All P) :
    ∀ e ∈ level.entries, P e := by
  cases level
  case object      => exact h
  case notObject f => exact h.elim

-- Something is true of all places of a level if the level is an object and it is true of all that
-- the object holds.
theorem forall_places {P : Place → Prop} (ho : ∀ loc n, P (.object loc n))
    (hm : ∀ loc found, ¬P (.misshapen loc found)) {loc : Location}
    {inner : String × α → List Place} (level : Level α) :
    (∀ p ∈ level.places loc inner, P p) ↔ level.All fun e => ∀ p ∈ inner e, P p := by
  cases level
  case object es   => simp [places, All, ho]; grind
  case notObject f => simp [places, All, hm]

-- What only keys contribute to is contributed by what a level holds.
theorem flatMap_places {β : Type} {f : Place → List β} (ho : ∀ loc n, f (.object loc n) = [])
    (hm : ∀ loc found, f (.misshapen loc found) = []) {loc : Location}
    {inner : String × α → List Place} (level : Level α) :
    (level.places loc inner).flatMap f = level.entries.flatMap fun e => (inner e).flatMap f := by
  cases level
  case object es   => simp [places, entries, ho, List.flatMap_assoc]
  case notObject f => simp [places, entries, hm]

theorem foldl_places {P : String × α → Prop} {loc : Location} {inner : String × α → List Place}
    {level : Level α} (h : level.All P) (sum : Summary) :
    (level.places loc inner).foldl Summary.pass sum =
      level.entries.foldl (fun sum e => (inner e).foldl Summary.pass sum)
        (sum.pass (.object loc level.entries.length)) := by
  cases level
  case object es   => simp [places, entries, List.foldl_flatMap, Entries.size]
  case notObject f => exact h.elim

end Level

namespace Document

-- Every level is an object, and every key reaches its port.
def IsSound (doc : Document) : Prop :=
  doc.All fun s => s.2.All fun d => d.2.All fun t => 4 ≤ Key.separators t.1

instance (doc : Document) : Decidable doc.IsSound :=
  inferInstanceAs (Decidable (Level.All _ doc))

-- The datacenters of all sites.
def datacenters (doc : Document) : List (String × Datacenter) :=
  doc.entries.flatMap fun s => s.2.entries

-- The keys of all tunnels.
def keys (doc : Document) : List String :=
  doc.datacenters.flatMap fun d => d.2.entries.map Prod.fst

-- The distinct ports of all tunnels, each where it is first seen.
def ports (doc : Document) : List String :=
  (doc.keys.map (Key.field · 4)).eraseDups

def summary (doc : Document) : Summary where
  sites := doc.entries.length
  datacenters := doc.datacenters.length
  tunnels := doc.keys.length
  distinctPorts := doc.ports.length

theorem isSound_iff (doc : Document) : doc.IsSound ↔ ∀ p ∈ doc.places, p.error? = none := by
  have hm loc found : ¬(Place.misshapen loc found).error? = none := by simp [Place.error?]
  simp only [IsSound, places, sitePlaces, datacenterPlaces,
    Level.forall_places (P := fun p => p.error? = none) (fun _ _ => rfl) hm,
    List.mem_singleton, forall_eq]
  simp [Place.error?]

theorem flatMap_places_keys (doc : Document) : doc.places.flatMap Place.keys = doc.keys := by
  simp only [places, sitePlaces, datacenterPlaces,
    Level.flatMap_places (f := Place.keys) (fun _ _ => rfl) fun _ _ => rfl, keys, datacenters,
    List.flatMap_assoc, List.map_eq_flatMap]
  rfl

theorem foldl_pass_keys (s d : String) (ts : List (String × Unit)) (sum : Summary) :
    ts.foldl (fun sum t => [Place.key s d t.1].foldl Summary.pass sum) sum =
      { sum with tunnels := sum.tunnels + ts.length } := by
  induction ts generalizing sum
  case nil         => rfl
  case cons t _ hi => rw [List.foldl_cons, hi]; simp [Summary.pass]; omega

theorem foldl_pass_datacenters {P : String × Unit → Prop} (s : String)
    {ds : List (String × Datacenter)} (h : ∀ d ∈ ds, d.2.All P) (sum : Summary) :
    ds.foldl (fun sum d => (datacenterPlaces s d).foldl Summary.pass sum) sum =
      { sum with
        datacenters := sum.datacenters + ds.length
        tunnels := sum.tunnels + (ds.flatMap fun d => d.2.entries.map Prod.fst).length } := by
  induction ds generalizing sum
  case nil => rfl
  case cons d ds hi =>
    simp only [List.forall_mem_cons] at h
    rw [List.foldl_cons, hi h.right, datacenterPlaces, Level.foldl_places h.left, foldl_pass_keys]
    simp [Summary.pass]
    omega

theorem foldl_pass_sites {P : String × Unit → Prop} {ss : List (String × Site)}
    (h : ∀ s ∈ ss, s.2.All fun d => d.2.All P) (sum : Summary) :
    ss.foldl (fun sum s => (sitePlaces s).foldl Summary.pass sum) sum =
      { sum with
        sites := sum.sites + ss.length
        datacenters := sum.datacenters + (ss.flatMap fun s => s.2.entries).length
        tunnels := sum.tunnels +
          ((ss.flatMap fun s => s.2.entries).flatMap fun d =>
          d.2.entries.map Prod.fst).length } := by
  induction ss generalizing sum
  case nil => rfl
  case cons s ss hi =>
    simp only [List.forall_mem_cons] at h
    rw [List.foldl_cons, hi h.right, sitePlaces, Level.foldl_places h.left,
      foldl_pass_datacenters s.1 h.left.forall_mem]
    simp [Summary.pass]
    omega

theorem foldl_pass_places {P : String × Unit → Prop} {doc : Document}
    (h : doc.All fun s => s.2.All fun d => d.2.All P) :
    doc.places.foldl Summary.pass {} = { doc.summary with distinctPorts := 0 } := by
  rw [places, Level.foldl_places h, foldl_pass_sites h.forall_mem]
  simp [Summary.pass, summary, keys, datacenters]

-- The tunnels of all places, in order.
theorem flatMap_places_tunnels (doc : Document) :
    doc.places.flatMap Place.tunnels = doc.keys.map Key.tunnel := by
  simp only [← flatMap_places_keys, List.map_flatMap]
  rfl

-- The bytes of a document that is sound: the pairs, the header and the ports.
def output (doc : Document) : Bytes :=
  Key.tokens doc.keys ++ Text.utf8 "ports:\n" ++
    doc.ports.flatMap fun p => Text.utf8 (":" ++ p ++ ",")

theorem toList_insertAll_ports (doc : Document) :
    (PortSet.insertAll .empty ((doc.keys.map Key.tunnel).map Tunnel.port)).toList = doc.ports := by
  rw [List.map_map]
  exact PortSet.toList_ofList _

theorem exists_script_eq {doc : Document} (h : doc.IsSound) :
    ∃ ports : PortSet, ports.toList = doc.ports ∧
      doc.script =
        ⟨(doc.keys.map Key.tunnel).flatMap Output.pairPieces ++ Output.portPieces doc.ports,
          .ok ⟨ports, doc.summary⟩⟩ := by
  have hp := Script.ofPlaces_append (doc.isSound_iff.mp h) .empty {} []
  rw [List.append_nil, flatMap_places_tunnels, foldl_pass_places h] at hp
  have ht := doc.toList_insertAll_ports
  generalize PortSet.insertAll .empty _ = ports at hp ht
  refine ⟨ports, ht, ?_⟩
  rw [script, hp, Script.after, Script.ofPlaces, ht]
  simp [PortSet.size, ht, summary]

theorem script_of_isSound {doc : Document} (h : doc.IsSound) :
    Output.bytes doc.script.pieces = doc.output ∧
      ∃ o, doc.script.verdict = .ok o ∧ o.ports.toList = doc.ports ∧ o.summary = doc.summary := by
  have ⟨ports, hp, hs⟩ := exists_script_eq h
  rw [hs]
  refine ⟨?_, _, rfl, hp, rfl⟩
  rw [Output.bytes_append, Output.bytes_pairPieces, Output.bytes_portPieces, output,
    List.append_assoc]

end Document

namespace Place

-- How a message names a level, …
def levelName : Location → String
  | .root           => "the document root"
  | .site s         => s!"site '{s}'"
  | .datacenter s d => s!"site '{s}', datacenter '{d}'"

-- … and how what stands there instead of an object.
def kindName : Found → String
  | .array   => "an array"
  | .string  => "a string"
  | .boolean => "a boolean"
  | .number  => "a number"
  | .null    => "null"

-- What is said of a place at which a walk fails.
def report : Place → String
  | object _ _          => ""
  | misshapen loc found =>
    s!"💀 expected a JSON object at {levelName loc}, found {kindName found}"
  | key s d k           =>
    s!"💀 encoded key '{k}' under site '{s}', datacenter '{d}' has {Key.separators k + 1} '_'-separated fields, need at least {5}"

theorem message_eq_report {p : Place} {e : ExtractError} (h : p.error? = some e) :
    e.message = p.report := by
  cases p
  case object              => exact absurd h (by simp [error?])
  case misshapen loc found =>
    have he : .unexpectedShape loc found = e := Option.some.inj h
    rw [← he]
    cases loc <;> cases found <;> rfl
  case key s d k           =>
    have he := (Option.ite_none_right_eq_some.mp h).right
    rw [← Option.some.inj he]
    rfl

-- Nothing else is behind such a failure.
theorem chain_eq_report {p : Place} {e : ExtractError} (h : p.error? = some e) :
    e.chain = [p.report] := by
  have hc : e.cause? = none := by
    cases p
    case object    => contradiction
    case misshapen =>
      cases h
      rfl
    case key       =>
      have ⟨_, he⟩ := Option.ite_none_right_eq_some.mp h
      cases he
      rfl
  rw [ExtractError.chain, message_eq_report h, hc]
  rfl

end Place

namespace Document

-- The first thing that is wrong with a document.
def error? (doc : Document) : Option ExtractError :=
  doc.places.findSome? Place.error?

theorem isSound_iff_error? (doc : Document) : doc.IsSound ↔ doc.error? = none :=
  doc.isSound_iff.trans List.findSome?_eq_none_iff.symm

-- A script ends at a place with something wrong about it, if there is none before.
theorem script_of_stop {doc : Document} {before after : List Place} {place : Place}
    {e : ExtractError} (hs : doc.places = before ++ place :: after)
    (hb : ∀ p ∈ before, p.error? = none) (hp : place.error? = some e) :
    doc.script = ⟨(before.flatMap Place.tunnels).flatMap Output.pairPieces, .error e⟩ := by
  rw [script, hs, Script.ofPlaces_append hb, Script.ofPlaces, hp]
  simp [Script.after]

-- The script of a document ends at the first place with something wrong about it.
theorem script_of_error? {doc : Document} {e : ExtractError} (h : doc.error? = some e) :
    ∃ before place after, doc.places = before ++ place :: after ∧
      (∀ p ∈ before, p.error? = none) ∧ place.error? = some e ∧
        doc.script = ⟨(before.flatMap Place.tunnels).flatMap Output.pairPieces, .error e⟩ := by
  have ⟨before, place, after, hs, hp, hb⟩ := List.findSome?_eq_some_iff.mp h
  exact ⟨before, place, after, hs, hb, hp, script_of_stop hs hb hp⟩

theorem verdict_eq_error_iff {doc : Document} {e : ExtractError} :
    doc.script.verdict = .error e ↔ doc.error? = some e := by
  cases h : doc.error?
  case none =>
    have ⟨_, _, ho, _⟩ := script_of_isSound (doc.isSound_iff_error?.mpr h)
    simp [ho]
  case some =>
    have ⟨_, _, _, _, _, _, hs⟩ := script_of_error? h
    simp [hs]

end Document

theorem extract_collected (doc : Document) (out : Collected) :
    (extract doc out).1 = doc.script.verdict ∧
      (extract doc out).2.sink.received = out.received ++ Output.bytes doc.script.pieces := by
  have ⟨hv, hs⟩ := extract_of_taken (Output.writePieces_collected doc.script.pieces out)
  exact ⟨hv, by rw [hs]⟩

theorem extract_isOk_iff {doc : Document} {out : Collected} :
    (∃ o, (extract doc out).1 = .ok o) ↔ doc.IsSound := by
  rw [(extract_collected doc out).left, doc.isSound_iff_error?]
  cases hv : doc.script.verdict
  case error e => simp [Document.verdict_eq_error_iff.mp hv]
  case ok o    =>
    have he : doc.error? = none := by
      by_contra he
      have ⟨e, he⟩ := Option.ne_none_iff_exists'.mp he
      cases (Document.verdict_eq_error_iff.mpr he).symm.trans hv
    simp [he]

theorem extract_of_ok {doc : Document} {out : Collected} {o : Outcome}
    (h : (extract doc out).1 = .ok o) :
    (extract doc out).2.sink.received = out.received ++ doc.output ∧
      o.ports.toList = doc.ports ∧ o.summary = doc.summary := by
  have ⟨hv, hr⟩ := extract_collected doc out
  have ⟨hb, o', ho, hs⟩ := Document.script_of_isSound <| extract_isOk_iff.mp ⟨o, h⟩
  have he : o' = o := Except.ok.inj <| ho.symm.trans <| hv.symm.trans h
  exact ⟨by rw [hr, hb], he ▸ hs⟩

theorem extract_ok_iff_isSound (doc : Document) (out : Collected) :
    ((∃ o, (extract doc out).1 = .ok o) ↔ doc.IsSound) ∧
      ∀ o, (extract doc out).1 = .ok o →
        (extract doc out).2.sink.received = out.received ++ doc.output ∧
          o.ports.toList = doc.ports ∧ o.summary = doc.summary := by
  have ⟨hv, hr⟩ := extract_collected doc out
  rw [hv, hr]
  by_cases h : doc.IsSound
  case pos =>
    have ⟨hb, o, ho, hs⟩ := Document.script_of_isSound h
    simp [hb, ho, hs, h]
  case neg =>
    have ⟨e, he⟩ := Option.ne_none_iff_exists'.mp (mt doc.isSound_iff_error?.mpr h)
    simp [Document.verdict_eq_error_iff.mpr he, h]

theorem extract_ok_iff_isSound_pairs :
    let doc : Document := .object { toList := [("s", .object { toList := [("d", .object {
      toList := [("a_b_c_x_1", ()), ("a_b_c__1_z", ()), ("a_b_c_y_2", ())] })] }),
      ("t", .object {})] }
    ∃ o, (extract doc ({} : Collected)).1 = .ok o ∧
      (extract doc ({} : Collected)).2.sink.received.toList =
        Text.utf8 "x:1,:1,y:2,ports:\n:1,:2," ∧
      o.ports.toList = ["1", "2"] ∧ o.summary = ⟨2, 1, 3, 2⟩ := by
  intro doc
  have ⟨hi, hs⟩ := extract_ok_iff_isSound doc {}
  have ⟨o, ho⟩ := hi.mpr (by decide +kernel)
  have ⟨hr, hp, hc⟩ := hs o ho
  refine ⟨o, ho, ?_, ?_, ?_⟩
  · rw [hr]
    decide +kernel
  · rw [hp]
    decide +kernel
  · rw [hc]
    decide +kernel

-- A failure is reported for the first place that is to blame, and what came before it is written.
theorem extract_error_first {doc : Document} {out : Collected} {e : ExtractError}
    (h : (extract doc out).1 = .error e) :
    ∃ before place after, doc.places = before ++ place :: after ∧
      (∀ p ∈ before, p.error? = none) ∧ place.error? = some e ∧ e.message = place.report ∧
        (extract doc out).2.sink.received =
          out.received ++ Key.tokens (before.flatMap Place.keys) := by
  have ⟨hv, hr⟩ := extract_collected doc out
  rw [hv] at h
  have ⟨before, place, after, hp, hb, he, hs⟩ :=
    Document.script_of_error? (Document.verdict_eq_error_iff.mp h)
  refine ⟨before, place, after, hp, hb, he, Place.message_eq_report he, ?_⟩
  rw [hr, hs, ← Output.bytes_pairPieces, List.map_flatMap]
  rfl

theorem extract_error_first_places :
    let good : Datacenter := .object { toList := [("a_b_c_x_1", ())] }
    let bad : Datacenter := .object {
      toList := [("a_b_c_x_1", ()), ("nope", ()), ("a_b_c_y_2", ())] }
    let failures : List (Document × ExtractError × String) := [
      (.object { toList := [("s", .object { toList := [("d", bad)] }), ("t", .notObject .array)] },
        .malformedKey "s" "d" "nope" 1,
        "💀 encoded key 'nope' under site 's', datacenter 'd' has 1 '_'-separated fields, need at least 5"),
      (.object { toList := [("s", .object {
          toList := [("d", good), ("c", .notObject .string)] })] },
        .unexpectedShape (.datacenter "s" "c") .string,
        "💀 expected a JSON object at site 's', datacenter 'c', found a string"),
      (.object { toList := [("s", .object { toList := [("d", good)] }), ("t", .notObject .array)] },
        .unexpectedShape (.site "t") .array,
        "💀 expected a JSON object at site 't', found an array"),
      (.notObject .null,
        .unexpectedShape .root .null,
        "💀 expected a JSON object at the document root, found null")]
    let out : Collected := {}
    ∀ f ∈ failures, let ⟨doc, e, text⟩ := f
      (extract doc out).1 = .error e ∧ e.message = text ∧
        ∃ before place after, doc.places = before ++ place :: after ∧
          (∀ p ∈ before, p.error? = none) ∧ place.error? = some e ∧ e.message = place.report ∧
            (extract doc out).2.sink.received =
              out.received ++ Key.tokens (before.flatMap Place.keys) := by
  intro good bad failures out
  have hf : ∀ f ∈ failures, f.1.error? = some f.2.1 ∧ f.2.1.message = f.2.2 := by decide +kernel
  rintro ⟨doc, e, text⟩ hm
  have ⟨he, ht⟩ := hf _ hm
  have h := (extract_collected doc out).left.trans (Document.verdict_eq_error_iff.mpr he)
  exact ⟨h, ht, extract_error_first h⟩

-- A sink that gives out gets the beginning of what it would have got, and has the last word.
theorem extract_limited (doc : Document) (n : Nat) (refusal : WriteError) (got : Array UInt8) :
    let full := extract doc ({} : Collected)
    let cut := extract doc ({ room := n, refusal, received := got } : Limited)
    cut.2.sink.received = got ++ full.2.sink.received.toList.take n ∧
      (cut.1 = if full.2.sink.received.size ≤ n then full.1 else .error (.output refusal)) ∧
      (ExtractError.output .tookNothing).cause? = some "failed to write whole buffer" := by
  intro full cut
  have ⟨hv, hr⟩ := extract_collected doc {}
  have hf : full.2.sink.received.toList = Output.bytes doc.script.pieces := by simp [full, hr]
  have hc := extract_eq_play doc ({ room := n, refusal, received := got } : Limited)
  rw [Script.play, Output.writePieces_limited, ← hf] at hc
  rw [← Array.length_toList]
  by_cases h : n < full.2.sink.received.toList.length
  case pos =>
    simp only [h, if_true, Prod.mk.injEq] at hc
    rw [if_neg (by omega)]
    exact ⟨congrArg Limited.received hc.right, hc.left, rfl⟩
  case neg =>
    simp only [h, if_false, Prod.mk.injEq] at hc
    rw [if_pos (by omega)]
    exact ⟨congrArg Limited.received hc.right, hc.left.trans hv.symm, rfl⟩

end TunnelPorts
