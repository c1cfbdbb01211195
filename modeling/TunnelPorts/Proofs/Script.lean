import TunnelPorts.Extract
import TunnelPorts.Proofs.Key
import TunnelPorts.Proofs.Output
import TunnelPorts.Proofs.PortSet
import TunnelPorts.Proofs.Walk

/-!
Scripts. All that an extraction does to a sink is to write some pieces, and unless the sink refuses
one of them it ends in a way that has nothing to do with the sink. A script holds the two, and the
script of a document follows from its places.
-/

namespace TunnelPorts

open Failing

namespace Place

-- What is wrong with a place, if anything is.
def error? : Place → Option ExtractError
  | object _ _          => none
  | misshapen loc found => some (.unexpectedShape loc found)
  | key s d k           =>
    if Key.separators k < 4 then some (.malformedKey s d k (Key.separators k + 1)) else none

def keys : Place → List String
  | key _ _ k => [k]
  | _         => []

def tunnels (p : Place) : List Tunnel :=
  p.keys.map Key.tunnel

end Place

-- The counts after one more place.
def Summary.pass (sum : Summary) : Place → Summary
  | .object .root _             => sum
  | .object (.site _) _         => { sum with sites := sum.sites + 1 }
  | .object (.datacenter _ _) _ => { sum with datacenters := sum.datacenters + 1 }
  | .misshapen _ _              => sum
  | .key _ _ _                  => { sum with tunnels := sum.tunnels + 1 }

structure Script where
  pieces : List String
  verdict : Except ExtractError Outcome

namespace Script

variable {σ : Type} [Sink σ]

-- A sink that refuses a piece has the last word.
def play (s : Script) (sink : σ) : Except ExtractError Outcome × σ :=
  match (Output.writePieces s.pieces : Writing σ Unit) sink with
  | (.ok _, sink)    => (s.verdict, sink)
  | (.error e, sink) => (.error (.output e), sink)

def after (pieces : List String) (s : Script) : Script :=
  { s with pieces := pieces ++ s.pieces }

theorem play_after (pieces : List String) (s : Script) (sink : σ) :
    (s.after pieces).play sink =
      match (Output.writePieces pieces : Writing σ Unit) sink with
      | (.ok _, sink)    => s.play sink
      | (.error e, sink) => (.error (.output e), sink) := by
  rw [play, after, Output.writePieces_append, bind_apply]
  rcases (Output.writePieces pieces : Writing σ Unit) sink with ⟨_ | _, _⟩ <;> rfl

@[simp]
theorem after_nil (s : Script) : s.after [] = s :=
  rfl

theorem after_after (ps qs : List String) (s : Script) :
    (s.after qs).after ps = s.after (ps ++ qs) := by
  simp [after]

-- The script of what is left to visit, with some ports and counts noted before.
def ofPlaces (ports : PortSet) (sum : Summary) : List Place → Script
  | []      =>
    ⟨Output.portPieces ports.toList, .ok ⟨ports, { sum with distinctPorts := ports.size }⟩⟩
  | p :: ps =>
    match p.error? with
    | some e => ⟨[], .error e⟩
    | none   =>
      (ofPlaces (ports.insertAll (p.tunnels.map Tunnel.port)) (sum.pass p) ps).after
        (p.tunnels.flatMap Output.pairPieces)

-- Places with nothing wrong about them add up.
theorem ofPlaces_append {ps : List Place} (h : ∀ p ∈ ps, p.error? = none) (ports : PortSet)
    (sum : Summary) (qs : List Place) :
    ofPlaces ports sum (ps ++ qs) =
      (ofPlaces (ports.insertAll ((ps.flatMap Place.tunnels).map Tunnel.port))
        (ps.foldl Summary.pass sum) qs).after
          ((ps.flatMap Place.tunnels).flatMap Output.pairPieces) := by
  induction ps generalizing ports sum
  case nil => simp
  case cons p ps hi =>
    simp at h
    simp [ofPlaces, h.left, hi h.right, after_after, PortSet.insertAll_append]

end Script

namespace Extract

variable {σ α : Type} [Sink σ]

-- What shows of an extraction: its result and the sink.
def shown (m : Extracting (Progress σ) α) (p : Progress σ) : Except ExtractError α × σ :=
  ((m p).1, (m p).2.sink)

-- What is left to do when the walk is over.
def finish (sum : Summary) : Extracting (Progress σ) Outcome := do
  let ports := (← get).ports
  writing (Output.writePorts ports)
  return { ports, summary := { sum with distinctPorts := ports.size } }

theorem extracting_eq (doc : Document) :
    (extracting doc : Extracting (Progress σ) Outcome) =
      doc.places.foldlM visitor.visit {} >>= finish := by
  rw [← Visitor.walk_eq_foldlM]
  rfl

omit [Sink σ] in
theorem writing_apply (w : Writing σ Unit) (p : Progress σ) :
    writing w p = ((w p.sink).1.mapError .output, { p with sink := (w p.sink).2 }) :=
  rfl

omit [Sink σ] in
theorem writing_ok {w : Writing σ Unit} {p : Progress σ} {t : σ} (h : w p.sink = (.ok (), t)) :
    writing w p = (.ok (), { p with sink := t }) := by
  rw [writing_apply, h]
  rfl

omit [Sink σ] in
theorem writing_error {w : Writing σ Unit} {p : Progress σ} {e : WriteError} {t : σ}
    (h : w p.sink = (.error e, t)) :
    writing w p = (.error (.output e), { p with sink := t }) := by
  rw [writing_apply, h]
  rfl

theorem shown_finish (sum : Summary) (p : Progress σ) :
    shown (finish sum) p = (Script.ofPlaces p.ports sum []).play p.sink := by
  simp only [shown, finish, Script.play, Script.ofPlaces, bind_apply, get_apply, writing_apply,
    Output.writePorts]
  rcases (Output.writePieces (Output.portPieces p.ports.toList) : Writing σ Unit) p.sink
    with ⟨_ | _, _⟩ <;> rfl

variable {sum : Summary} {p : Progress σ} {t : σ}

section

variable {s d k : String}

theorem key_malformed (h : Key.separators k < 4) :
    key s d k p = (.error (.malformedKey s d k (Key.separators k + 1)), p) := by
  simp [key, Key.parse_eq, h]

-- A key is noted in the log before its pair is written, and in the port set after that.
theorem key_ok (h : ¬Key.separators k < 4)
    (hw : (Output.writePair (Key.tunnel k) : Writing σ Unit) p.sink = (.ok (), t)) :
    ∃ notes, key s d k p = (.ok (), ⟨t, p.ports.insert (Key.tunnel k).port, notes⟩) := by
  let noted := p.note .trace s!"🚇 '{k}' → {(Key.tunnel k).text}"
  have hw' : writing (Output.writePair (Key.tunnel k)) noted = _ := writing_ok hw
  simp only [key, Key.parse_eq, if_neg h]
  rw [bind_ok (modify_apply _ p), bind_ok hw']
  exact ⟨noted.notes, rfl⟩

theorem key_refused {e : WriteError} (h : ¬Key.separators k < 4)
    (hw : (Output.writePair (Key.tunnel k) : Writing σ Unit) p.sink = (.error e, t)) :
    ∃ notes, key s d k p = (.error (.output e), ⟨t, p.ports, notes⟩) := by
  let noted := p.note .trace s!"🚇 '{k}' → {(Key.tunnel k).text}"
  have hw' : writing (Output.writePair (Key.tunnel k)) noted = _ := writing_error hw
  simp only [key, Key.parse_eq, if_neg h]
  rw [bind_ok (modify_apply _ p), bind_error hw']
  exact ⟨noted.notes, rfl⟩

end

variable {q : Place}

theorem visit_error {e : ExtractError} (h : q.error? = some e) :
    visitor.visit sum q p = (.error e, p) := by
  cases q
  case object => contradiction
  case misshapen =>
    cases h
    rfl
  case key s d k =>
    simp [Place.error?] at h
    rw [← h.right]
    exact bind_error (key_malformed h.left)

theorem visit_ok (sum : Summary) (h : q.error? = none)
    (hw : (Output.writePieces (q.tunnels.flatMap Output.pairPieces) : Writing σ Unit) p.sink =
      (.ok (), t)) :
    ∃ notes, visitor.visit sum q p =
      (.ok (sum.pass q), ⟨t, p.ports.insertAll (q.tunnels.map Tunnel.port), notes⟩) := by
  cases q
  case misshapen => contradiction
  case object loc n =>
    cases hw
    cases loc <;> exact ⟨_, rfl⟩
  case key s d k =>
    simp [Place.error?] at h
    simp [Place.tunnels, Place.keys] at hw
    have ⟨notes, hk⟩ := key_ok (s := s) (d := d) (by omega) hw
    exact ⟨notes, bind_ok hk⟩

theorem visit_refused {e : WriteError} (sum : Summary) (h : q.error? = none)
    (hw : (Output.writePieces (q.tunnels.flatMap Output.pairPieces) : Writing σ Unit) p.sink =
      (.error e, t)) :
    ∃ notes, visitor.visit sum q p = (.error (.output e), ⟨t, p.ports, notes⟩) := by
  cases q
  case misshapen => contradiction
  case object    => cases hw
  case key s d k =>
    simp [Place.error?] at h
    simp [Place.tunnels, Place.keys] at hw
    have ⟨notes, hk⟩ := key_refused (s := s) (d := d) (by omega) hw
    exact ⟨notes, bind_error hk⟩

theorem shown_foldlM (ps : List Place) (sum : Summary) (p : Progress σ) :
    shown (ps.foldlM visitor.visit sum >>= finish) p =
      (Script.ofPlaces p.ports sum ps).play p.sink := by
  induction ps generalizing sum p
  case nil => simp [shown_finish]
  case cons q ps hi =>
    rw [List.foldlM_cons, bind_assoc, Script.ofPlaces]
    split
    case h_1 e he =>
      rw [shown, bind_error (visit_error he)]
      rfl
    case h_2 he =>
      rw [Script.play_after]
      split
      case h_1 t hw =>
        have ⟨notes, hv⟩ := visit_ok sum he hw
        have hr := hi (sum.pass q) ⟨t, p.ports.insertAll (q.tunnels.map Tunnel.port), notes⟩
        rw [shown, bind_ok hv]
        exact hr
      case h_2 e t hw =>
        have ⟨notes, hv⟩ := visit_refused sum he hw
        rw [shown, bind_error hv]

end Extract

-- The script that an extraction plays to whatever sink it is given.
def Document.script (doc : Document) : Script :=
  .ofPlaces .empty {} doc.places

theorem extract_eq_play {σ : Type} [Sink σ] (doc : Document) (sink : σ) :
    ((extract doc sink).1, (extract doc sink).2.sink) = doc.script.play sink := by
  have h := Extract.shown_foldlM doc.places {} ({ sink } : Extract.Progress σ)
  rw [← Extract.extracting_eq] at h
  exact h

section

variable {σ : Type} [Sink σ] {doc : Document} {sink t : σ}

-- The script of a document is all that counts for an extraction: if its pieces are taken, it ends
-- as the script does.
theorem extract_of_taken
    (h : (Output.writePieces doc.script.pieces : Writing σ Unit) sink = (.ok (), t)) :
    (extract doc sink).1 = doc.script.verdict ∧ (extract doc sink).2.sink = t := by
  have he := extract_eq_play doc sink
  rw [Script.play, h] at he
  exact Prod.mk.inj he

theorem extract_of_refused {e : WriteError}
    (h : (Output.writePieces doc.script.pieces : Writing σ Unit) sink = (.error e, t)) :
    (extract doc sink).1 = .error (.output e) ∧ (extract doc sink).2.sink = t := by
  have he := extract_eq_play doc sink
  rw [Script.play, h] at he
  exact Prod.mk.inj he

end

end TunnelPorts
