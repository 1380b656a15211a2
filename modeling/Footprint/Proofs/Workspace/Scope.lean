import Footprint.Proofs.Session.Scope
import Footprint.Proofs.Workspace.History

namespace Footprint

namespace Event

/-- The scope that the event set for rows. A failed operation sets none. -/
def marking (e : Event) : Marking := if e.answer.isOk then e.operation.marking e.before else .nothing

/-- The scope that was set last for a row since the row was created, if any: whether it was taken out. The
    latest event comes first. -/
def lastMark (kind : Kind) (id : Int) : List Event → Option Bool
  | [] => none
  | e :: earlier => (e.marking kind id).or (if e.creates kind id then none else lastMark kind id earlier)

end Event

namespace Session

variable {s : Session}

theorem event_marks (sound : s.Sound) (op : Operation) : s.Marks (s.event op).marking (s.step op) :=
  op.marks sound

def Marked (s : Session) (kind : Kind) (id : Int) (past : List Event) : Prop :=
  s.contents.holds kind id = true → s.contents.unscoped kind id = (Event.lastMark kind id past).getD false

variable {kind : Kind} {id : Int} {past : List Event}

theorem Marked.step (sound : s.Sound) (settled : s.pending = none) (marked : s.Marked kind id past) (op : Operation) :
    (s.step op).Marked kind id (s.event op :: past) := by
  intro held
  have steps := event_steps sound op
  obtain ⟨row, member, rfl, rfl⟩ := Store.holds_iff.mp held
  rw [steps.sound.contents.unscoped_eq member, event_marks sound op settled row member, Event.lastMark]
  cases set : (s.event op).marking row.kind row.id with
  | some unscoped => rfl
  | none =>
    have creates : (s.event op).creates row.kind row.id = !s.contents.holds row.kind row.id := by
      simp [Event.creates, event, held]
    -- What was set for an earlier row with the id says nothing of a row that is new.
    cases held' : s.contents.holds row.kind row.id with
    | true => simpa [creates, held'] using marked held'
    | false => simp [creates, held', Store.unscoped_eq_false held']

theorem Marked.run (sound : s.Sound) (settled : s.pending = none) (marked : s.Marked kind id past)
    (ops : List Operation) : (s.run ops).Marked kind id ((s.history ops).reverse ++ past) := by
  induction ops generalizing s past with
  | nil => exact marked
  | cons op rest ih =>
    have steps := event_steps sound op
    rw [history, List.reverse_cons, List.append_assoc]
    exact ih steps.sound (steps.settled settled) (marked.step sound settled op)

/-- After every run a row is out of scope exactly if, since it was created, an operation on the scope of
    matching rows succeeded and matched it, and the last such operation took it out. No other operation changes
    the scope of a row, and every new row is in scope. -/
theorem run_keeps_scope (fresh : s.Fresh) (ops : List Operation) :
    (∀ row ∈ (s.run ops).contents.rows,
      row.unscoped = true ↔ Event.lastMark row.kind row.id (s.history ops).reverse = some true) ∧
    ∀ op, ∀ new ∈ ((s.run ops).step op).contents.rows,
      ((s.run ops).contents.holds new.kind new.id = false → new.unscoped = false) ∧
      ∀ old ∈ (s.run ops).contents.rows, old.kind = new.kind → old.id = new.id →
        new.unscoped = (((s.run ops).event op).marking new.kind new.id).getD old.unscoped ∧
        ((∀ kind f, op ≠ .scope kind f ∧ op ≠ .noscope kind f) → new.unscoped = old.unscoped) := by
  have sound := fresh.sound.run ops
  have settled := settled_run fresh.sound fresh.settled ops
  constructor
  · intro row member
    have blank : s.Marked row.kind row.id [] := fun held => by
      rw [fresh.contents] at held
      cases held
    have marked := blank.run fresh.sound fresh.settled ops (Store.holds_iff.mpr ⟨row, member, rfl, rfl⟩)
    rw [sound.contents.unscoped_eq member, List.append_nil] at marked
    rw [marked]
    cases Event.lastMark row.kind row.id (s.history ops).reverse <;> simp
  · intro op new member
    have set := event_marks sound op settled new member
    refine ⟨fun absent => ?_, fun old member' kind id => ?_⟩
    · have unset : ((s.run ops).event op).marking new.kind new.id = none := by
        unfold Event.marking
        split
        · exact op.marking_of_absent absent
        · rfl
      rw [set, unset, Store.unscoped_eq_false absent]
      rfl
    · rw [← kind, ← id, sound.contents.unscoped_eq member', kind, id] at set
      refine ⟨set, fun other => ?_⟩
      have unset : ((s.run ops).event op).marking = .nothing := by
        unfold Event.marking
        split
        · exact Operation.marking_of_other other _
        · rfl
      rw [unset] at set
      exact set

/-- A domain that is out of scope and is offered again stays out; one that gets the id of such a domain does not. -/
theorem run_keeps_scope_of_reused_id :
    let out : List Operation := [.insertDomain (.text "example.com"), .noscope .domain (.ofText "value = 'example.com'"),
      .insertDomain (.text "example.com")]
    let reused := out ++ [.delete .domain (.ofText "unscoped = 1"), .insertDomain (.text "example.org")]
    (∃ row ∈ (inMemory.run out).contents.rows, row.id = 1 ∧ row.unscoped = true) ∧
    ∃ row ∈ (inMemory.run reused).contents.rows, row.id = 1 ∧ row.unscoped ≠ true := by
  intro out reused
  constructor
  · let row : Row := ⟨1, .domain "example.com", [], true⟩
    have member : row ∈ (inMemory.run out).contents.rows := by decide +kernel
    exact ⟨row, member, rfl, ((run_keeps_scope .memory out).1 row member).mpr (by decide +kernel)⟩
  · let row : Row := ⟨1, .domain "example.org", [], false⟩
    have member : row ∈ (inMemory.run reused).contents.rows := by decide +kernel
    refine ⟨row, member, rfl, fun unscoped => ?_⟩
    have marked := ((run_keeps_scope .memory reused).1 row member).mp unscoped
    exact absurd marked (by decide +kernel)

end Session
end Footprint
