import TunnelPorts.Log.Filter
import TunnelPorts.Proofs.Run

/-!
What runs note in the log. A run says how far it got, but it leaves it to others to report a failure:
none of its notes is an error, and so none is shown unless a filter asks for more than errors.
-/

namespace TunnelPorts

open Failing

namespace Log

-- There is no error among the lines.
def Quiet (notes : Array Line) : Prop :=
  ∀ l ∈ notes, l.level ≠ .error

namespace Quiet

variable {notes notes' : Array Line} {l : Line}

theorem empty : Quiet #[] :=
  fun _ hm => nomatch hm

theorem push (h : Quiet notes) (hl : l.level ≠ .error) : Quiet (notes.push l) := by
  intro l' hm
  cases Array.mem_push.mp hm
  case inl hm => exact h l' hm
  case inr he => exact he ▸ hl

theorem append (h : Quiet notes) (h' : Quiet notes') : Quiet (notes ++ notes') :=
  fun l hm => (Array.mem_append.mp hm).elim (h l) (h' l)

end Quiet

namespace Filter

-- The filter that counts if none is asked for.
theorem ofText?_empty : ofText? "" = some ⟨[{ rank := Level.error.rank }]⟩ :=
  rfl

theorem shows_errors_iff (l : Line) :
    shows ⟨[{ rank := Level.error.rank }]⟩ l ↔ l.level = .error := by
  have hr : l.level.rank ≤ Level.error.rank ↔ l.level = .error := by
    cases l.level <;> simp [Level.rank]
  simp [shows, deciding?, Directive.covers, hr]

end Filter
end Log

namespace Extract

open Log (Quiet)

variable {σ : Type} [Sink σ]

omit [Sink σ] in
theorem keeps_note {level : Log.Level} (h : level ≠ .error) (message : String) :
    Keeps (fun p : Progress σ => Quiet p.notes)
      (modify (·.note level message) : Extracting (Progress σ) Unit) :=
  .modify fun _ hp => hp.push h

omit [Sink σ] in
theorem keeps_writing (w : Writing σ Unit) :
    Keeps (fun p : Progress σ => Quiet p.notes) (writing w) := by
  intro p hp
  rw [writing_apply]
  exact hp

theorem keeps_key (s d k : String) :
    Keeps (fun p : Progress σ => Quiet p.notes) (key s d k) := by
  rw [key]
  split
  case h_1 => exact .throw _
  case h_2 =>
    refine .bind (keeps_note (by simp) _) fun _ => .bind (keeps_writing _) fun _ => ?_
    exact .modify fun _ hp => hp

theorem keeps_visit (sum : Summary) (q : Place) :
    Keeps (fun p : Progress σ => Quiet p.notes) (visitor.visit sum q) := by
  cases q
  case key s d k     => exact .bind (keeps_key s d k) fun _ => .pure _
  case misshapen     => exact .throw _
  case object loc n  =>
    cases loc
    case root => exact .pure _
    all_goals exact .bind (keeps_note (by simp) _) fun _ => .pure _

theorem keeps_finish (sum : Summary) :
    Keeps (fun p : Progress σ => Quiet p.notes) (finish sum) := by
  refine .bind .get fun _ => .bind (keeps_writing _) fun _ => .pure _

theorem keeps_extracting (doc : Document) :
    Keeps (fun p : Progress σ => Quiet p.notes) (extracting doc) := by
  rw [extracting_eq]
  exact .bind (.foldlM keeps_visit _ _) keeps_finish

theorem quiet_extract (doc : Document) (sink : σ) : Quiet (extract doc sink).2.notes :=
  keeps_extracting doc { sink } .empty

end Extract

theorem Run.quiet_text (fs : FileSystem) (source : Source) :
    Log.Quiet (Run.text fs source).2 := by
  cases source
  case inMemory => exact .empty
  case file path =>
    have hr : Log.Quiet #[readingNotes.reading path] :=
      .push .empty (by simp [readingNotes.reading])
    rw [Run.text]
    cases fs.readText path
    case error => exact hr
    case ok    => exact hr.push (by simp)

theorem quiet_run {σ : Type} [Sink σ] (fs : FileSystem) (source : Source) (sink : σ) :
    Log.Quiet (run fs source sink).notes := by
  have ht := Run.quiet_text fs source
  rw [run]
  dsimp only
  split
  case h_1       => exact ht
  case h_2 doc _ =>
    have he := ht.append <| Extract.quiet_extract doc sink
    split
    case h_1 h => exact .push (by simpa [h] using he) (by simp [Run.summaryNote])
    case h_2 h => simpa [h] using he

end TunnelPorts
