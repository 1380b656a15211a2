import Footprint.Proofs.Session.Operation
import Footprint.Proofs.Store.Scope

namespace Footprint

def Sql.Query.affects (q : Sql.Query) (f : Search) (store : Store) (row : Row) : Bool :=
  match q.hits f.engine f.text store with
  | .ok hits => hits.affects row
  | .error _ => false

namespace Session

def Marks (marking : Marking) (s t : Session) : Prop := s.pending = none → Store.Marked marking s.contents t.contents

variable {s t : Session}

theorem Leaves.marks {tables : Store} (left : s.Leaves tables t) (formed : s.contents.WellFormed)
    (which : tables = s.contents ∨ tables = s.database.store) : s.Marks .nothing t := by
  intro settled
  rw [left.contents_eq, which_of_settled settled which]
  exact .refl formed

theorem Sound.marks (sound : s.Sound) : s.Marks .nothing s := fun _ => .refl sound.contents

theorem Sound.marks_rollback (sound : s.Sound) : s.Marks .nothing s.rollback :=
  Leaves.marks (.undone {} rfl) sound.contents (.inr rfl)

end Session

theorem Upsert.Ends.marks {s t : Session} {c : Candidate} {result : Except Fault Outcome} (sound : s.Sound)
    (ends : Ends s c result t) : s.Marks .nothing t := by
  cases ends with
  | failed which left => exact left.marks sound.contents which
  | done which inserted left =>
    intro settled
    rw [left.contents_eq, ← Session.which_of_settled settled which]
    exact .inserted (sound.which which) inserted

namespace Action

variable {α β : Type}

def Unmarking (x : Action α) : Prop := ∀ s : Session, s.Sound → s.Marks .nothing (perform x s).2

theorem Looks.unmarking {x : Action α} (looks : x.Looks) : Unmarking x := by
  intro s sound
  obtain ⟨tables, which, left⟩ := looks s
  exact left.marks sound.contents which

theorem Unmarking.bind {x : Action α} {f : α → Action β} (adds : Adds x) (first : Unmarking x)
    (next : ∀ a, Unmarking (f a)) : Unmarking (x >>= f) := by
  intro s sound settled
  have steps := adds.steps s sound
  have grows := adds.grows s sound settled
  have marked := first s sound settled
  rw [perform_bind]
  cases run : perform x s with
  | mk result t =>
    rw [run] at steps grows marked
    cases result with
    | error fault => exact marked
    | ok a => exact .trans grows steps.sound.contents marked (next a t steps.sound (steps.settled settled))

theorem unmarking_offered (submission : Data) {insertion : Candidate → Action Outcome}
    (ends : ∀ s : Session, s.Sound → ∀ c : Candidate, c.Proper →
      Upsert.Ends s c (perform (insertion c) s).1 (perform (insertion c) s).2) :
    Unmarking (offered submission >>= insertion) := by
  intro s sound
  unfold offered
  cases read : Submission.ofData submission with
  | ok accepted => exact (ends s sound accepted.candidate (Submission.ofData_proper read)).marks sound
  | error issues => exact sound.marks

theorem unmarking_insertMembers (kind : Kind) (members : Members) : Unmarking (insertMembers kind members) := by
  intro s sound
  unfold insertMembers candidate
  cases read : Candidate.read kind members with
  | valid submission => exact (Upsert.run_ends sound (Candidate.read_proper read)).marks sound
  | invalid issues => exact sound.marks

theorem unmarking_insertSubdomain (value domain : Data) : Unmarking (insertSubdomain value domain) := by
  have insertion (id : Int) : Unmarking (insertMembers .subdomain [("domain_id", .int id), ("value", value)]) :=
    unmarking_insertMembers _ _
  have looks := looks_getId? .domain domain
  refine looks.unmarking.bind looks.adds fun found => ?_
  have gives (id : Int) : Looks (pure id) := .kept fun _ => rfl
  cases found with
  | some id => exact (gives id).unmarking.bind (gives id).adds insertion
  | none =>
    simp only [map_eq_pure_bind]
    have adds := adds_insertDomain domain
    exact ((unmarking_insertMembers _ _).bind adds fun outcome => (gives outcome.2).unmarking).bind
      (adds.bind fun outcome => (gives outcome.2).adds) insertion

theorem unmarking_update (submission : Data) : Unmarking (revised submission >>= update) := by
  intro s sound
  unfold revised
  cases read : Revision.ofData submission with
  | error issues => exact sound.marks
  | ok r =>
    change s.Marks .nothing (perform (update r) s).2
    by_cases nothing : r.changes = []
    · rw [perform_update_nil r nothing]
      exact sound.marks
    by_cases ready : s.Ready
    · rw [perform_update ready nothing]
      cases r.misfit? with
      | none => exact fun _ => .update sound.contents _ _ _
      | some m => exact sound.marks
    · rw [perform_update_unready ready nothing]
      exact sound.marks_rollback

end Action

namespace Operation

/-- The scope that an operation sets if it succeeds, told by the rows that it finds. -/
def marking : Operation → Store → Marking
  | scope kind f, before => before.marking ((Sql.Query.update kind false).affects f before) false
  | noscope kind f, before => before.marking ((Sql.Query.update kind true).affects f before) true
  | _, _ => .nothing

theorem marking_of_other {op : Operation} (other : ∀ kind f, op ≠ .scope kind f ∧ op ≠ .noscope kind f)
    (before : Store) : op.marking before = .nothing := by
  cases op with
  | scope kind f => exact absurd rfl (other kind f).1
  | noscope kind f => exact absurd rfl (other kind f).2
  | _ => rfl

theorem marking_of_absent (op : Operation) {before : Store} {kind : Kind} {id : Int}
    (absent : before.holds kind id = false) : op.marking before kind id = none := by
  have missing := Store.find?_eq_none_iff.mpr absent
  cases op <;> simp [marking, Store.marking, missing, Marking.nothing]

variable {s : Session}

theorem marks_setScope (sound : s.Sound) (attempt : Attempt) (kind : Kind) (f : Search) (unscoped : Bool) :
    let x : Action Nat := do
      Action.requireScopable kind
      Action.bulk attempt kind (Statement.setScope kind f unscoped)
    s.Marks (if (perform x s).1.isOk then
      s.contents.marking ((Sql.Query.update kind unscoped).affects f s.contents) unscoped
      else .nothing) (perform x s).2 := by
  intro x
  let q := Sql.Query.update kind unscoped
  let change (store : Store) (affected : Row → Bool) : Store := store.setScope affected unscoped
  cases scopable : kind.scopable with
  | true =>
    have same : x = Action.bulk attempt kind (Action.changeMatching q f change) :=
      Action.setScope_eq scopable attempt f unscoped
    obtain ⟨result, t, run, ends⟩ := Action.bulk_ends s attempt kind q f change
    rw [same, run]
    cases ends with
    | @changed hits ready fit answered =>
      have affects : q.affects f s.contents = hits.affects := by
        funext row
        rw [Sql.Query.affects, answered]
      change s.Marks (s.contents.marking (q.affects f s.contents) unscoped) _
      rw [affects]
      exact fun _ => .setScope sound.contents _ _
    | refused => exact sound.marks_rollback
    | misfit => exact sound.marks
  | false =>
    rw [show perform x s = _ from Action.perform_setScope_refused scopable attempt f unscoped s]
    exact sound.marks

theorem marks_delete (sound : s.Sound) (kind : Kind) (f : Search) :
    s.Marks .nothing (perform (Action.delete kind f) s).2 := by
  obtain ⟨result, t, run, ends⟩ := Action.bulk_ends s .delete kind (.delete kind) f Store.delete
  rw [Action.perform_delete_eq sound.enforced, run]
  cases ends with
  | changed => exact fun _ => .delete sound.contents _
  | refused => exact sound.marks_rollback
  | misfit => exact sound.marks

theorem marks (sound : s.Sound) (op : Operation) :
    s.Marks (if (perform op.action s).1.isOk then op.marking s.contents else .nothing) (perform op.action s).2 := by
  cases op <;> simp only [action, perform_map_eq, isOk_map, marking, ite_self]
  case insert submission =>
    exact Action.unmarking_offered submission (fun s sound c proper => Upsert.run_ends sound proper) s sound
  case insertUnseen submission =>
    exact Action.unmarking_offered submission (fun s sound c proper => Upsert.storeOrMerge_ends sound proper) s sound
  case insertDomain value => exact Action.unmarking_insertMembers _ _ s sound
  case insertSubdomain value domain => exact Action.unmarking_insertSubdomain value domain s sound
  case insertAddress family value => exact Action.unmarking_insertMembers _ _ s sound
  case insertLink subdomain address => exact Action.unmarking_insertMembers _ _ s sound
  case insertEmail value => exact Action.unmarking_insertMembers _ _ s sound
  case update submission => exact Action.unmarking_update submission s sound
  case getRow kind key => exact (Action.looks_getRow? kind key).unmarking s sound
  case getId kind key => exact (Action.looks_getId kind key).unmarking s sound
  case findId kind key => exact (Action.looks_getId? kind key).unmarking s sound
  case list kind => exact (Action.looks_list kind).unmarking s sound
  case filter kind f => exact (Action.looks_filter kind f).unmarking s sound
  case scope kind f => exact marks_setScope sound .scope kind f false
  case noscope kind f => exact marks_setScope sound .noscope kind f true
  case delete kind f => exact marks_delete sound kind f

end Operation
end Footprint
