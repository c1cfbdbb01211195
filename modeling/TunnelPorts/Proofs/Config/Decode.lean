import TunnelPorts.Proofs.Config.Merge

/-!
Decoding by fields. Where the kind is given by its name, a source is decoded from two fields of the
source table: the kind, and the one field that a source of that kind has.
-/

namespace TunnelPorts

namespace Source

def kind : Source → Kind
  | file _     => .file
  | inMemory _ => .inMemory

-- The field that a source is given by, besides its kind.
def field : Source → String
  | file _     => "file_name"
  | inMemory _ => "document"

def text : Source → String
  | file s | inMemory s => s

-- The fields give the kind of the source and its text, each as a string.
structure GivenBy (source : Source) (fields : String → Option Config.Value) : Prop where
  kind : ∃ o, fields "kind" = some (.scalar (.string source.kind.name) o)
  text : ∃ o, fields source.field = some (.scalar (.string source.text) o)

theorem GivenBy.congr {source : Source} {fields fields' : String → Option Config.Value}
    (hk : fields "kind" = fields' "kind") (ht : fields source.field = fields' source.field) :
    source.GivenBy fields ↔ source.GivenBy fields' where
  mp h  := ⟨hk ▸ h.kind, ht ▸ h.text⟩
  mpr h := ⟨hk ▸ h.kind, ht ▸ h.text⟩

theorem Kind.ofName?_eq_some_iff {name : String} {k : Kind} :
    Kind.ofName? name = some k ↔ name = k.name := by
  rw [Kind.ofName?]
  by_cases hf : name = file.name
  case pos =>
    subst hf
    cases k <;> simp [Kind.name]
  case neg =>
    cases k <;> simp [hf, eq_comm]

end Source

namespace Config

variable {config d : Dict} {v : Value} {o o' : Origin} {source : Source} {s name : String}

namespace Decode

theorem text_eq_ok_iff {expected : String} :
    text expected o v = .ok s ↔ ∃ o', v = .scalar (.string s) o' := by
  rw [text.eq_def]
  split
  case h_1 => simp
  case h_2 hv =>
    simp only [wrong, reduceCtorEq, false_iff, not_exists]
    exact hv s

theorem named_eq_ok_iff (path : List String) (o : Origin) {k : Source.Kind} :
    kind.named path name o = .ok k ↔ name = k.name := by
  rw [← Source.Kind.ofName?_eq_some_iff, kind.named]
  cases Source.Kind.ofName? name <;> simp [wrong]

theorem kind_eq_ok_iff (path : List String) (o : Origin) {k : Source.Kind} :
    kind path (.scalar (.string name) o) = .ok k ↔ name = k.name :=
  named_eq_ok_iff path o

-- A text that is read for a source.
theorem read_eq_ok_iff {expected : String} {make : String → Source} :
    (text expected o v >>= fun s => pure (make s)) = .ok source ↔
      ∃ s o', v = .scalar (.string s) o' ∧ make s = source := by
  cases h : text expected o v
  case ok s =>
    have ⟨o', hv⟩ := text_eq_ok_iff.mp h
    simp [bind, Except.bind, pure, Except.pure, hv]
  case error =>
    simp only [bind, Except.bind, reduceCtorEq, false_iff]
    rintro ⟨s, o', hv, _⟩
    rw [text_eq_ok_iff.mpr ⟨o', hv⟩] at h
    cases h

theorem givenBy_iff (hk : d.get? kindKey = some (.scalar (.string name) o)) :
    source.GivenBy (Dict.get? d) ↔ name = source.kind.name ∧
      ∃ o, d.get? source.field = some (.scalar (.string source.text) o) := by
  constructor
  case mp =>
    intro ⟨⟨_, h⟩, ht⟩
    have he := hk.symm.trans h
    simp only [Option.some.injEq, Value.scalar.injEq, Scalar.string.injEq] at he
    exact ⟨he.left, ht⟩
  case mpr =>
    rintro ⟨rfl, ht⟩
    exact ⟨⟨o, hk⟩, ht⟩

-- A file is given even without a name, by the default; hence the second hypothesis.
theorem ofDict_eq_ok_iff (hk : d.get? kindKey = some (.scalar (.string name) o'))
    (hf : source.kind = .file → (d.get? source.field).isSome) :
    ofDict d o = .ok source ↔ source.GivenBy (Dict.get? d) := by
  rw [givenBy_iff hk, ofDict, hk, ← kind_eq_ok_iff [kindKey] o']
  dsimp only
  cases kind [kindKey] (.scalar (.string name) o')
  case error => simp [bind, Except.bind]
  case ok k =>
    change Except.bind _ _ = _ ↔ _
    rw [Except.bind, Except.ok.injEq]
    cases k
    case file =>
      cases hv : d.get? "file_name"
      case none => cases source <;> simp_all [Source.kind, Source.field, pure, Except.pure]
      case some v =>
        simp only [fileName, read_eq_ok_iff]
        cases source <;> simp [Source.kind, Source.field, Source.text, hv]
    case inMemory =>
      cases hv : d.get? "document"
      case none => cases source <;> simp [wrong, Source.kind, Source.field, hv]
      case some v =>
        simp only [document, read_eq_ok_iff]
        cases source <;> simp [Source.kind, Source.field, Source.text, hv]

end Decode

theorem decode_eq_ok_iff (hk : config.field? Decode.kindKey = some (.scalar (.string name) o))
    (hf : source.kind = .file → (config.field? source.field).isSome) :
    decode config = .ok source ↔ source.GivenBy config.field? := by
  have ⟨v, hv, hd⟩ := Option.bind_eq_some_iff.mp hk
  match v with
  | .scalar .. | .sequence .. => contradiction
  | .dict d _ =>
    have he : config.field? = Dict.get? d := by
      funext key
      rw [Dict.field?, hv, Option.bind_some, Value.get?]
    rw [he] at hf ⊢
    rw [decode, hv]
    exact Decode.ofDict_eq_ok_iff hd hf

theorem decode_of_givenBy (h : source.GivenBy config.field?) : decode config = .ok source := by
  have ⟨⟨_, hk⟩, ⟨_, ht⟩⟩ := h
  exact decode_eq_ok_iff hk (fun _ => by rw [ht]; rfl) |>.mpr h

end Config
end TunnelPorts
