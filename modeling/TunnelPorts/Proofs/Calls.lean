import TunnelPorts.Proofs.Extract

/-!
Walks and their calls. A visitor that keeps a record of its calls shows what a walk does with it: it
is called for the keys of a document in order, each of them once, until a call fails or something is
no object, and that is how the walk ends.
-/

namespace TunnelPorts

open Failing

-- A call of a visitor, named by the key that it is about.
structure Call where
  site : String
  datacenter : String
  key : String
  deriving DecidableEq, Repr

namespace Place

def calls : Place → List Call
  | key s d k => [⟨s, d, k⟩]
  | _         => []

-- Whatever the place is, it is not a level that is no object.
def IsShaped (p : Place) : Prop :=
  ∀ loc found, p ≠ misshapen loc found

end Place

-- The calls that were made, and what came of each.
abbrev CallRecord :=
  List (Call × Except ExtractError Unit)

namespace CallRecord

-- Calls all of which went well.
def successes (calls : List Call) : CallRecord :=
  calls.map (·, .ok ())

theorem successes_append (cs ds : List Call) :
    successes (cs ++ ds) = successes cs ++ successes ds :=
  List.map_append

@[simp]
theorem map_fst_successes (cs : List Call) : (successes cs).map Prod.fst = cs := by
  simp [successes, Function.comp_def]

end CallRecord

open CallRecord (successes)

-- How a walk over places ends, and which calls it has made by then. `counts` is what it counts if
-- it gets through.
inductive WalkEnds (places : List Place) (counts : Summary) :
    CallRecord → Except ExtractError Summary → Prop
  | complete : (∀ p ∈ places, p.IsShaped) →
    WalkEnds places counts (successes (places.flatMap Place.calls)) (.ok counts)
  | misshapen {before loc found after} : places = before ++ .misshapen loc found :: after →
    (∀ p ∈ before, p.IsShaped) →
    WalkEnds places counts (successes (before.flatMap Place.calls))
      (.error (.unexpectedShape loc found))
  | failed {before s d k after e} : places = before ++ .key s d k :: after →
    (∀ p ∈ before, p.IsShaped) →
    WalkEnds places counts (successes (before.flatMap Place.calls) ++ [(⟨s, d, k⟩, .error e)])
      (.error e)

namespace WalkEnds

variable {ps qs : List Place} {counts counts' : Summary} {record record' : CallRecord}
  {result : Except ExtractError Summary}

-- Only a walk that gets through has counted anything.
theorem eq_of_ok (h : WalkEnds ps counts record (.ok counts')) : counts' = counts := by
  cases h
  case complete => rfl

-- A walk that gets through some places goes on with the next.
theorem append (h : WalkEnds ps counts record (.ok counts))
    (h' : WalkEnds qs counts' record' result) :
    WalkEnds (ps ++ qs) counts' (record ++ record') result := by
  cases h
  case complete hp =>
    cases h'
    case complete hq =>
      rw [← CallRecord.successes_append, ← List.flatMap_append]
      exact .complete <| List.forall_mem_append.mpr ⟨hp, hq⟩
    case misshapen he hq =>
      rw [← CallRecord.successes_append, ← List.flatMap_append]
      exact .misshapen (by rw [he, List.append_assoc]) <| List.forall_mem_append.mpr ⟨hp, hq⟩
    case failed he hq =>
      rw [← List.append_assoc, ← CallRecord.successes_append, ← List.flatMap_append]
      exact .failed (by rw [he, List.append_assoc]) <| List.forall_mem_append.mpr ⟨hp, hq⟩

-- Once a walk has failed, it does not matter what else there is.
theorem append_of_error {e : ExtractError} (h : WalkEnds ps counts record (.error e))
    (qs : List Place) (counts' : Summary) : WalkEnds (ps ++ qs) counts' record (.error e) := by
  cases h
  case misshapen he hp =>
    rw [he, List.append_assoc]
    exact .misshapen rfl hp
  case failed he hp =>
    rw [he, List.append_assoc]
    exact .failed rfl hp

-- The counts matter only if the walk gets through.
theorem congr (h : WalkEnds ps counts record result)
    (hc : (∀ p ∈ ps, p.IsShaped) → counts = counts') : WalkEnds ps counts' record result := by
  cases h
  case complete hs     => exact hc hs ▸ .complete hs
  case misshapen he hs => exact .misshapen he hs
  case failed he hs    => exact .failed he hs

-- No call is made that is not due, and none is left out in between.
theorem isPrefix (h : WalkEnds ps counts record result) :
    record.map Prod.fst <+: ps.flatMap Place.calls := by
  cases h
  case complete => simp
  case misshapen before loc found after he _ =>
    rw [he, List.flatMap_append, CallRecord.map_fst_successes]
    exact List.prefix_append ..
  case failed before s d k after e he _ =>
    have hc : ps.flatMap Place.calls =
        before.flatMap Place.calls ++ [⟨s, d, k⟩] ++ after.flatMap Place.calls := by
      simp [he, Place.calls]
    rw [hc, List.map_append, CallRecord.map_fst_successes]
    exact List.prefix_append ..

end WalkEnds

namespace Visitor

variable {σ : Type}

-- The same visitor, with a record of its calls beside its state.
def recorded (v : Visitor σ) : Visitor (σ × CallRecord) where
  key s d k := fun (t, record) =>
    let (result, t) := v.key s d k t
    (result, t, record ++ [(⟨s, d, k⟩, result)])
  enterSite s n := fun (t, record) =>
    let ((), t) := v.enterSite s n t
    ((), t, record)
  enterDatacenter s d n := fun (t, record) =>
    let ((), t) := v.enterDatacenter s d n t
    ((), t, record)

variable {v : Visitor σ} {t u : σ} {s d k : String}

theorem visit_key {result : Except ExtractError Unit} (sum : Summary)
    (h : v.key s d k t = (result, u)) :
    v.visit sum (.key s d k) t = (result.map fun _ => sum.pass (.key s d k), u) := by
  cases result
  case error => exact bind_error h
  case ok    => exact bind_ok h

theorem recorded_key {result : Except ExtractError Unit} (h : v.key s d k t = (result, u))
    (record : CallRecord) :
    v.recorded.key s d k (t, record) = (result, u, record ++ [(⟨s, d, k⟩, result)]) := by
  simp only [recorded, h]

-- To keep a record changes nothing, and what is recorded is told by how the visit ends.
theorem visit_recorded (v : Visitor σ) (sum : Summary) (p : Place) (t : σ) (record : CallRecord) :
    ∃ result u calls, v.visit sum p t = (result, u) ∧
      v.recorded.visit sum p (t, record) = (result, u, record ++ calls) ∧
      WalkEnds [p] (sum.pass p) calls result := by
  cases p
  case object loc n =>
    have hs : ∀ p ∈ [Place.object loc n], p.IsShaped := by simp [Place.IsShaped]
    cases loc <;> exact ⟨_, _, [], rfl, by rw [List.append_nil]; rfl, .complete hs⟩
  case misshapen loc found =>
    refine ⟨_, t, [], rfl, by rw [List.append_nil]; rfl, ?_⟩
    exact .misshapen (List.nil_append _).symm (by simp)
  case key s d k =>
    rcases hk : v.key s d k t with ⟨result, u⟩
    refine ⟨_, u, _, visit_key sum hk, visit_key sum (recorded_key hk record), ?_⟩
    cases result
    case error e => exact .failed (List.nil_append _).symm (by simp)
    case ok      => exact .complete (by simp [Place.IsShaped])

theorem foldlM_recorded (v : Visitor σ) (ps : List Place) (sum : Summary) (t : σ)
    (record : CallRecord) :
    ∃ result u calls, ps.foldlM v.visit sum t = (result, u) ∧
      ps.foldlM v.recorded.visit sum (t, record) = (result, u, record ++ calls) ∧
      WalkEnds ps (ps.foldl Summary.pass sum) calls result := by
  induction ps generalizing sum t record
  case nil => exact ⟨.ok sum, t, [], rfl, by simp, .complete (by simp)⟩
  case cons p ps hi =>
    have ⟨result, u, calls, hv, hr, he⟩ := v.visit_recorded sum p t record
    simp only [List.foldlM_cons, List.foldl_cons]
    cases result
    case error e =>
      rw [bind_error hv, bind_error hr]
      exact ⟨.error e, u, calls, rfl, rfl, he.append_of_error ps _⟩
    case ok sum' =>
      have hs := he.eq_of_ok
      subst hs
      have ⟨result, w, calls', hv', hr', he'⟩ := hi (sum.pass p) u (record ++ calls)
      rw [bind_ok hv, bind_ok hr]
      exact ⟨result, w, calls ++ calls', hv', by rw [hr', List.append_assoc], he.append he'⟩

end Visitor

namespace Document

-- The calls for all the keys of a document, in order.
def calls (doc : Document) : List Call :=
  doc.places.flatMap Place.calls

theorem calls_eq (doc : Document) :
    doc.calls = doc.entries.flatMap fun s => s.2.entries.flatMap fun d =>
      d.2.entries.flatMap fun t => [⟨s.1, d.1, t.1⟩] := by
  simp only [calls, places, sitePlaces, datacenterPlaces,
    Level.flatMap_places (f := Place.calls) (fun _ _ => rfl) fun _ _ => rfl]
  rfl

theorem shaped_iff (doc : Document) :
    (∀ p ∈ doc.places, p.IsShaped) ↔ doc.All fun s => s.2.All fun d => d.2.All fun _ => True := by
  have ho loc n : (Place.object loc n).IsShaped := by simp [Place.IsShaped]
  have hm loc found : ¬(Place.misshapen loc found).IsShaped := by simp [Place.IsShaped]
  simp only [places, sitePlaces, datacenterPlaces, Level.forall_places ho hm, List.mem_singleton,
    forall_eq]
  simp [Place.IsShaped]

end Document

-- Whatever is told by the name of the entry that it comes from occurs once if it does so within
-- each entry.
theorem Level.nodup_flatMap {α β : Type} (level : Level α) {f : String × α → List β}
    (name : β → String) (hn : ∀ e, ∀ b ∈ f e, name b = e.1)
    (hf : ∀ e ∈ level.entries, (f e).Nodup) : (level.entries.flatMap f).Nodup := by
  cases level
  case notObject => exact List.nodup_nil
  case object es =>
    refine List.nodup_flatMap.mpr ⟨hf, ?_⟩
    refine List.Pairwise.imp ?_ <| List.pairwise_map.mp es.nodup
    intro e e' he b hb hb'
    exact he <| (hn e b hb).symm.trans (hn e' b hb')

-- Names occur once in every level, so no two keys are reached by the same way.
theorem Document.nodup_calls (doc : Document) : doc.calls.Nodup := by
  rw [calls_eq]
  refine doc.nodup_flatMap Call.site (by simp; grind) fun s _ => ?_
  refine s.2.nodup_flatMap Call.datacenter (by simp; grind) fun d _ => ?_
  exact d.2.nodup_flatMap Call.key (by simp) fun t _ => List.nodup_singleton _

-- A visitor is called for key after key, until a call fails or the walk comes to what is no object.
theorem walk_calls {σ : Type} (v : Visitor σ) (doc : Document) (t : σ) :
    ∃ result u record, v.walk doc t = (result, u) ∧
      v.recorded.walk doc (t, []) = (result, u, record) ∧
      WalkEnds doc.places { doc.summary with distinctPorts := 0 } record result ∧
      (record.map Prod.fst).Nodup := by
  have ⟨result, u, record, hv, hr, he⟩ := v.foldlM_recorded doc.places {} t []
  rw [← Visitor.walk_eq_foldlM] at hv hr
  refine ⟨result, u, record, hv, hr, ?_, he.isPrefix.sublist.nodup doc.nodup_calls⟩
  exact he.congr fun hs => Document.foldl_pass_places <| doc.shaped_iff.mp hs

end TunnelPorts
