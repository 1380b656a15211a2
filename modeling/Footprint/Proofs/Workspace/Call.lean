import Footprint.Proofs.Workspace.Boundary

namespace Footprint

/-- What a model looks up itself. A statement that fails takes nothing back. -/
inductive Reading
  | row (kind : Kind) (key : Data)
  | idIfAny (kind : Kind) (key : Data)
  | idOf (kind : Kind) (key : Data)
  | list (kind : Kind)
  | filter (kind : Kind) (f : Search)
  | relations (kind : Kind) (key : Data)
  | summaries (kind : Kind)

inductive Reply
  | answer (answer : Option Answer)
  | relations (found : Option Action.Relations)
  | lines (lines : List String)

namespace Reading

def bareId? (kind : Kind) (key : Data) : Action (Option Int) := do
  let criteria ← Action.ofExcept (kind.criteria key)
  Action.bare (Statement.findId kind criteria)

def action : Reading → Action Reply
  | row kind key => do
    let criteria ← Action.ofExcept (kind.criteria key)
    return .answer (some (.row (← Action.bare (Statement.findRow kind criteria))))
  | idIfAny kind key => return .answer (some (.idIfAny (← bareId? kind key)))
  | idOf kind key => do
    match ← bareId? kind key with
    | some id => return .answer (some (.id id))
    | none => throw (.notFound kind)
  | list kind => return .answer (some (.rows (← Action.bare (Statement.listRows kind))))
  | filter kind f => return .answer (some (.rows (← Action.bare (Statement.filterRows kind f))))
  | relations kind key => return .relations (← Action.relations kind key)
  | summaries kind => return .lines (← Action.summaries kind)

theorem peeks_bare {α : Type} {body : Statement α} (reads : body.Reads) : Action.Peeks (Action.bare body) := by
  intro s
  obtain ⟨cache, same⟩ := reads s
  have sane : queryFailed (perform (Action.bare body) s).1 = false := by
    rw [Action.perform_bare]
    cases perform body s with
    | mk result t =>
      cases result with
      | ok a => rfl
      | error e => cases e <;> rfl
  rw [sane, Action.perform_bare_state]
  exact ⟨cache, same⟩

theorem peeks_bareId? (kind : Kind) (key : Data) : Action.Peeks (bareId? kind key) :=
  (Action.peeks_criteria kind key).bind fun _ => peeks_bare (Statement.reads_findId kind _)

theorem peeks (reading : Reading) : Action.Peeks reading.action := by
  cases reading with
  | row kind key =>
    apply (Action.peeks_criteria kind key).bind
    intro criteria
    exact (peeks_bare (Statement.reads_findRow kind criteria)).bind fun _ => .pure _
  | idIfAny kind key => exact (peeks_bareId? kind key).bind fun _ => .pure _
  | idOf kind key =>
    apply (peeks_bareId? kind key).bind
    intro found
    cases found with
    | some id => exact .pure _
    | none => exact .throw rfl
  | list kind => exact (peeks_bare (Statement.reads_listRows kind)).bind fun _ => .pure _
  | filter kind f => exact (peeks_bare (Statement.reads_filterRows kind f)).bind fun _ => .pure _
  | relations kind key =>
    refine Action.Peeks.bind ((Action.peeks_getRow? kind key).bind fun found => ?_) fun _ => .pure _
    cases found with
    | none => exact .pure _
    | some row => exact (peeks_bare Statement.reads_contents).bind fun _ => .pure _
  | summaries kind => exact ((Action.peeks_list kind).bind fun _ => .pure _).bind fun _ => .pure _

end Reading

namespace Session

variable {s t : Session}

inductive Call
  | event (event : Event) (own : event.isOwn = true)
  | reading (reading : Reading)
  | close

def Call.action : Call → Action Reply
  | event e _ => .answer <$> e.action
  | reading r => r.action
  | close => (fun _ => .answer none) <$> Desk.close

def call (s : Session) (call : Call) : Session := (perform call.action s).2

def calls (s : Session) (calls : List Call) : Session := calls.foldl call s

def replies (s : Session) : List Call → List (Except Fault Reply)
  | [] => []
  | call :: rest => (perform call.action s).1 :: (s.call call).replies rest

/-! What calls cannot tell apart -/

namespace Congruence

variable {R : Session → Session → Prop} (congruent : Congruence R)

include congruent

theorem respects_event {event : Event} (own : event.isOwn = true) : Respects R event.action := by
  cases event with
  | operation op => exact .map _ (congruent.respects_action op)
  | unsupported attempt value => exact .throw _
  | getById kind id => exact .map _ (congruent.respects_getById? kind id)
  | scopePending kind f unscoped => exact .map _ (congruent.respects_scopePending kind f unscoped)
  | deletePending kind f => exact .map _ (congruent.respects_deletePending kind f)
  | commit => exact .map _ (.modify congruent.commit)
  | rollback => exact .map _ (.modify congruent.rollback)
  | upgrade | downgrade | close | beside => cases own

theorem respects_list (kind : Kind) : Respects R (Statement.listRows kind) :=
  congruent.respects_contents.bind fun _ => congruent.respects_fetch _

theorem respects_bareId? (kind : Kind) (key : Data) : Respects R (Reading.bareId? kind key) :=
  (respects_ofExcept _).bind fun _ => respects_bare (congruent.respects_findId kind _)

theorem respects_reading (reading : Reading) : Respects R reading.action := by
  cases reading with
  | row kind key =>
    apply (respects_ofExcept _).bind
    intro criteria
    exact (respects_bare (congruent.respects_findRow kind criteria)).bind fun _ => .pure _
  | idIfAny kind key => exact (congruent.respects_bareId? kind key).bind fun _ => .pure _
  | idOf kind key =>
    apply (congruent.respects_bareId? kind key).bind
    intro found
    cases found with
    | some id => exact .pure _
    | none => exact .throw _
  | list kind => exact (respects_bare (congruent.respects_list kind)).bind fun _ => .pure _
  | filter kind f =>
    have filtered : Respects R (Statement.filterRows kind f) :=
      (congruent.respects_search _ f.toFilter _).bind fun _ => congruent.respects_fetch _
    exact (respects_bare filtered).bind fun _ => .pure _
  | relations kind key =>
    have looked : Respects R (Action.getRow? kind key) :=
      (respects_ofExcept _).bind fun _ => congruent.respects_guarded _ _ (congruent.respects_findRow _ _)
    refine Respects.bind (looked.bind fun found => ?_) fun _ => .pure _
    cases found with
    | none => exact .pure _
    | some row => exact (respects_bare congruent.respects_contents).bind fun _ => .pure _
  | summaries kind =>
    have listed : Respects R (Action.list kind) := congruent.respects_guarded _ _ (congruent.respects_list kind)
    exact (listed.bind fun _ => .pure _).bind fun _ => .pure _

theorem respects_call (closes : ∀ {s t : Session}, R s t → R s.close t.close) (call : Call) : Respects R call.action := by
  cases call with
  | event event own => exact .map _ (congruent.respects_event own)
  | reading reading => exact congruent.respects_reading reading
  | close => exact .map _ (.modify closes)

end Congruence

theorem replies_eq_of_respects {R : Session → Session → Prop} (respects : ∀ call : Call, Respects R call.action)
    (related : R s t) (calls : List Call) :
    t.replies calls = s.replies calls ∧ R (s.calls calls) (t.calls calls) := by
  induction calls generalizing s t with
  | nil => exact ⟨rfl, related⟩
  | cons first rest ih =>
    obtain ⟨same, related⟩ := respects first s t related
    obtain ⟨same', related⟩ := ih related
    refine ⟨?_, related⟩
    rw [replies, replies, same]
    exact congrArg _ same'

/-! What calls keep -/

theorem Congruence.ofSchema (Q : Bool → SchemaVersion → Bool → Prop) :
    Congruence fun s t => s = t ∧ s.enforced = true ∧ Q s.database.tables s.database.version s.isIntact where
  enforced := by
    rintro s _ ⟨rfl, enforced, -⟩
    exact ⟨enforced, enforced⟩
  contents := by
    rintro s _ ⟨rfl, -⟩
    rfl
  seen := by
    rintro s _ change ⟨rfl, kept⟩
    exact ⟨rfl, kept⟩
  write := by
    rintro s _ new - ⟨rfl, kept⟩
    exact ⟨rfl, kept⟩
  commit := by
    rintro s _ ⟨rfl, kept⟩
    exact ⟨rfl, kept⟩
  rollback := by
    rintro s _ ⟨rfl, kept⟩
    exact ⟨rfl, kept⟩

theorem schema_call (enforced : s.enforced = true) (call : Call) :
    (s.call call).enforced = true ∧ (s.call call).database.tables = s.database.tables ∧
      (s.call call).database.version = s.database.version ∧ (s.call call).isIntact = s.isIntact := by
  -- A session is related to itself as long as its schema is the one of `s`.
  let Q (tables : Bool) (version : SchemaVersion) (isIntact : Bool) : Prop :=
    tables = s.database.tables ∧ version = s.database.version ∧ isIntact = s.isIntact
  have closes {s t : Session}
      (same : s = t ∧ s.enforced = true ∧ Q s.database.tables s.database.version s.isIntact) :
      s.close = t.close ∧ s.close.enforced = true ∧
        Q s.close.database.tables s.close.database.version s.close.isIntact := by
    obtain ⟨rfl, kept⟩ := same
    exact ⟨rfl, kept⟩
  exact ((Congruence.ofSchema Q).respects_call closes call s s ⟨rfl, enforced, rfl, rfl, rfl⟩).2.2

theorem enforced_calls (enforced : s.enforced = true) (calls : List Call) : (s.calls calls).enforced = true := by
  induction calls generalizing s with
  | nil => exact enforced
  | cons first rest ih => exact ih (schema_call enforced first).1

theorem Sound.event (sound : s.Sound) {event : Event} (own : event.isOwn = true) :
    (perform event.action s).2.Sound := by
  cases event with
  | operation op =>
    rw [Event.action, perform_map_eq]
    exact (op.steps sound).sound
  | unsupported attempt value => exact sound
  | getById kind id =>
    rw [Event.action, perform_map_eq]
    exact sound.getById kind id
  | scopePending kind f unscoped =>
    rw [Event.action, perform_map_eq]
    exact sound.scopePending kind f unscoped
  | deletePending kind f =>
    rw [Event.action, perform_map_eq]
    exact sound.deletePending kind f
  | commit => exact ⟨sound.contents, sound.contents, sound.enforced⟩
  | rollback => exact sound.rollback
  | upgrade | downgrade | close | beside => cases own

theorem Sound.call (sound : s.Sound) (call : Call) : (s.call call).Sound := by
  cases call with
  | event e own =>
    rw [Session.call, Call.action, perform_map_eq]
    exact sound.event own
  | reading r => exact ((Reading.peeks r).handles s).sound sound
  | close => exact ⟨sound.committed, sound.committed, sound.enforced⟩

theorem Sound.calls (sound : s.Sound) (calls : List Call) : (s.calls calls).Sound := by
  induction calls generalizing s with
  | nil => exact sound
  | cons first rest ih => exact ih (sound.call first)

end Session
end Footprint
