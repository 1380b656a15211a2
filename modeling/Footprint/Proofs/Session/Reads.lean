import Footprint.Proofs.Session.Upsert

namespace Footprint

namespace Statement

variable {α β : Type}

def Reads (x : Statement α) : Prop := ∀ s, ∃ cache, (perform x s).2 = { s with seen := cache }

namespace Reads

theorem pure (a : α) : Reads (pure a) := fun s => ⟨s.seen, rfl⟩

theorem throw (e : StatementError) : Reads (throw e : Statement α) := fun s => ⟨s.seen, rfl⟩

theorem bind {x : Statement α} {f : α → Statement β} (first : Reads x) (next : ∀ a, Reads (f a)) :
    Reads (x >>= f) := by
  intro s
  obtain ⟨cache, same⟩ := first s
  rw [perform_bind]
  cases run : perform x s with
  | mk result t =>
    rw [run] at same
    cases result with
    | ok a =>
      change t = _ at same
      subst same
      exact next a _
    | error e => exact ⟨cache, same⟩

end Reads

theorem reads_contents : Reads contents := by
  intro s
  by_cases ready : s.Ready
  · exact ⟨s.seen, by rw [perform_contents ready]⟩
  · obtain ⟨e, -, failed⟩ := perform_contents_unready ready
    exact ⟨s.seen, by rw [failed]⟩

theorem reads_parameter (data : Data) : Reads (parameter data) := by
  unfold parameter
  split
  case h_3 n =>
    split
    · exact .pure _
    · exact .throw _
  all_goals first | exact .pure _ | exact .throw _

theorem reads_parameters (criteria : List Criterion) : Reads (parameters criteria) := by
  unfold parameters
  induction criteria with
  | nil => exact .pure []
  | cons criterion rest ih =>
    rw [List.mapM_cons]
    refine Reads.bind ((reads_parameter _).bind fun _ => .pure _) fun _ => ?_
    exact ih.bind fun _ => .pure _

theorem reads_select (kind : Kind) (criteria : List Criterion) : Reads (select kind criteria) :=
  reads_contents.bind fun _ => (reads_parameters criteria).bind fun _ => .pure _

theorem reads_atMostOne (rows : List Row) : Reads (atMostOne rows) := by
  unfold atMostOne
  split
  · exact .pure _
  · exact .pure _
  · exact .throw _

theorem reads_fetch (rows : List Row) : Reads (fetch rows) := fun s => ⟨s.seen.refresh rows, rfl⟩

theorem reads_findRow (kind : Kind) (criteria : List Criterion) : Reads (findRow kind criteria) :=
  (reads_select kind criteria).bind fun rows =>
    (reads_atMostOne rows).bind fun _ => (reads_fetch _).bind fun _ => .pure _

theorem reads_findId (kind : Kind) (criteria : List Criterion) : Reads (findId kind criteria) :=
  (reads_select kind criteria).bind fun rows => (reads_atMostOne rows).bind fun _ => .pure _

theorem reads_listRows (kind : Kind) : Reads (listRows kind) :=
  reads_contents.bind fun _ => reads_fetch _

theorem reads_search (query : Sql.Query) (f : Filter) (answer : String → Store → Except Sql.Defect α) :
    Reads (search query f answer) := by
  intro s
  obtain ⟨result, searched, -⟩ := search_ends s query f answer
  exact ⟨s.seen, by rw [searched]⟩

theorem reads_filterRows (kind : Kind) (f : Search) : Reads (filterRows kind f) :=
  (reads_search _ _ _).bind fun _ => reads_fetch _

end Statement

namespace Action

variable {α β : Type} {s : Session}

/-- The tables stay, though what was pending may be taken back. -/
def Looks (x : Action α) : Prop :=
  ∀ s : Session, ∃ tables, (tables = s.contents ∨ tables = s.database.store) ∧ s.Leaves tables (perform x s).2

theorem Looks.kept {x : Action α} (same : ∀ s, (perform x s).2 = s) : Looks x := fun s =>
  ⟨s.contents, .inl rfl, by rw [same]; exact .kept s.seen rfl⟩

theorem Looks.bind {x : Action α} {f : α → Action β} (first : Looks x) (next : ∀ a, Looks (f a)) : Looks (x >>= f) := by
  intro s
  obtain ⟨tables, which, left⟩ := first s
  rw [perform_bind]
  cases run : perform x s with
  | mk result t =>
    rw [run] at left
    cases result with
    | error fault => exact ⟨tables, which, left⟩
    | ok a =>
      obtain ⟨later, which', left'⟩ := next a t
      refine ⟨later, ?_, left.trans left'⟩
      cases left with
      | kept cache same => exact which'
      | undone cache same => exact .inr (which'.elim id id)
      | committed cache =>
        have same : later = tables := which'.elim id id
        exact same ▸ which

theorem looks_guarded (attempt : Attempt) (kind : Kind) {body : Statement α} (reads : body.Reads) :
    Looks (guarded attempt kind body) := by
  intro s
  obtain ⟨cache, same⟩ := reads s
  rw [perform_guarded]
  cases run : perform body s with
  | mk result t =>
    rw [run] at same
    change t = _ at same
    subst same
    cases result with
    | ok a => exact ⟨_, .inl rfl, .kept cache rfl⟩
    | error e =>
      cases e with
      | misfit m => exact ⟨_, .inl rfl, .kept cache rfl⟩
      | _ => exact ⟨_, .inr rfl, .undone {} rfl⟩

theorem looks_ofExcept (result : Except Fault α) : Looks (ofExcept result) := Looks.kept fun _ => rfl

theorem looks_getRow? (kind : Kind) (key : Data) : Looks (getRow? kind key) :=
  (looks_ofExcept _).bind fun _ => looks_guarded _ _ (Statement.reads_findRow _ _)

theorem looks_getId? (kind : Kind) (key : Data) : Looks (getId? kind key) :=
  (looks_ofExcept _).bind fun _ => looks_guarded _ _ (Statement.reads_findId _ _)

theorem looks_getId (kind : Kind) (key : Data) : Looks (getId kind key) := by
  refine (looks_getId? kind key).bind fun found => ?_
  cases found with
  | some id => exact .kept fun _ => rfl
  | none => exact .kept fun _ => rfl

theorem looks_list (kind : Kind) : Looks (list kind) := looks_guarded _ _ (Statement.reads_listRows kind)

theorem looks_filter (kind : Kind) (f : Search) : Looks (filter kind f) :=
  looks_guarded _ _ (Statement.reads_filterRows kind f)

/-! Updates -/

theorem perform_update_nil (r : Revision) (nothing : r.changes = []) (s : Session) :
    perform (update r) s = (.ok r.id, s) := by
  simp [update, nothing]

theorem perform_update (ready : s.Ready) {r : Revision} (something : r.changes ≠ []) : perform (update r) s =
    match r.misfit? with
    | none => (.ok r.id, s.put (s.contents.update r.kind r.id r.changes))
    | some m => (.error (.misfit m), s) := by
  have some : r.changes.isEmpty = false := by simpa using something
  simp only [update, some, Bool.false_eq_true, if_false]
  rw [perform_bind, Upsert.perform_write ready]
  cases r.misfit? <;> rfl

theorem perform_update_unready (unready : ¬ s.Ready) {r : Revision} (something : r.changes ≠ []) :
    perform (update r) s = (.error (.query .update r.kind), s.rollback) := by
  obtain ⟨e, other, failed⟩ := Statement.perform_contents_unready unready
  have some : r.changes.isEmpty = false := by simpa using something
  simp only [update, some, Bool.false_eq_true, if_false]
  exact perform_bind_error (guarded_error other (perform_bind_error (perform_bind_error failed _) _)) _

/-! Operations on many rows -/

inductive Changes (s : Session) (query : Sql.Query) (f : Search) (change : Store → (Row → Bool) → Store) :
    Except StatementError Nat → Session → Prop
  | changed {hits : Sql.Hits} (ready : s.Ready) (fit : query.misfit? f.script = none)
      (answered : query.hits f.engine f.text s.contents = .ok hits) :
      Changes s query f change (.ok (hits.count s.contents))
        { s with pending := some (change s.contents hits.affects) }
  | failed {e : StatementError} (other : ∀ m, e ≠ .misfit m)
      (why : s.isOpen = true → query.misfit? f.script = none ∧
        (s.Ready → ∃ defect, query.hits f.engine f.text s.contents = .error defect)) :
      Changes s query f change (.error e) s
  | misfit {m : Misfit} (isOpen : s.isOpen = true) (unfit : query.misfit? f.script = some m) :
      Changes s query f change (.error (.misfit m)) s

theorem changeMatching_ends (s : Session) (query : Sql.Query) (f : Search) (change : Store → (Row → Bool) → Store) :
    ∃ result t, perform (changeMatching query f change) s = (result, t) ∧ Changes s query f change result t := by
  obtain ⟨result, searched, ends⟩ := Statement.search_ends s query f.toFilter (query.hits f.engine)
  cases ends with
  | @found hits ready fit answered =>
    have run : perform (changeMatching query f change) s =
        (.ok (hits.count s.contents), { s with pending := some (change s.contents hits.affects) }) := by
      rw [changeMatching, Statement.matching, perform_bind_ok searched,
        perform_bind_ok (Statement.perform_contents ready)]
      rfl
    exact ⟨_, _, run, .changed ready fit answered⟩
  | failed other why => exact ⟨_, _, perform_bind_error searched _, .failed other why⟩
  | misfit isOpen unfit => exact ⟨_, _, perform_bind_error searched _, .misfit isOpen unfit⟩

inductive Alters (s : Session) (attempt : Attempt) (kind : Kind) (query : Sql.Query) (f : Search)
    (change : Store → (Row → Bool) → Store) : Except Fault Nat → Session → Prop
  | changed {hits : Sql.Hits} (ready : s.Ready) (fit : query.misfit? f.script = none)
      (answered : query.hits f.engine f.text s.contents = .ok hits) :
      Alters s attempt kind query f change (.ok (hits.count s.contents))
        { s.put (change s.contents hits.affects) with seen := {} }
  | refused (why : s.isOpen = true → query.misfit? f.script = none ∧
        (s.Ready → ∃ defect, query.hits f.engine f.text s.contents = .error defect)) :
      Alters s attempt kind query f change (.error (.query attempt kind)) s.rollback
  | misfit {m : Misfit} (isOpen : s.isOpen = true) (unfit : query.misfit? f.script = some m) :
      Alters s attempt kind query f change (.error (.misfit m)) s

theorem bulk_ends (s : Session) (attempt : Attempt) (kind : Kind) (query : Sql.Query) (f : Search)
    (change : Store → (Row → Bool) → Store) :
    ∃ result t, perform (bulk attempt kind (changeMatching query f change)) s = (result, t) ∧
      Alters s attempt kind query f change result t := by
  obtain ⟨result, t, run, ends⟩ := changeMatching_ends s query f change
  cases ends with
  | changed ready fit answered =>
    exact ⟨_, _, perform_bind_ok (guarded_ok (perform_bind_ok run _)) _, .changed ready fit answered⟩
  | failed other why =>
    exact ⟨_, _, perform_bind_error (guarded_error other (perform_bind_error run _)) _, .refused why⟩
  | misfit isOpen unfit =>
    exact ⟨_, _, perform_bind_error (guarded_misfit (perform_bind_error run _)) _, .misfit isOpen unfit⟩

section

variable {attempt : Attempt} {kind : Kind} {query : Sql.Query} {f : Search} {change : Store → (Row → Bool) → Store}

theorem perform_bulk (ready : s.Ready) (fit : query.misfit? f.script = none) {hits : Sql.Hits}
    (answered : query.hits f.engine f.text s.contents = .ok hits) :
    perform (bulk attempt kind (changeMatching query f change)) s =
      (.ok (hits.count s.contents), { s.put (change s.contents hits.affects) with seen := {} }) := by
  obtain ⟨result, t, run, ends⟩ := bulk_ends s attempt kind query f change
  rw [run]
  cases ends with
  | changed _ _ answered' =>
    cases answered.symm.trans answered'
    rfl
  | refused why =>
    obtain ⟨defect, refused⟩ := (why ready.isOpen).2 ready
    cases answered.symm.trans refused
  | misfit _ unfit => cases fit.symm.trans unfit

theorem perform_bulk_refused (fit : s.isOpen = true → query.misfit? f.script = none)
    (refused : s.Ready → ∃ defect, query.hits f.engine f.text s.contents = .error defect) :
    perform (bulk attempt kind (changeMatching query f change)) s = (.error (.query attempt kind), s.rollback) := by
  obtain ⟨result, t, run, ends⟩ := bulk_ends s attempt kind query f change
  rw [run]
  cases ends with
  | changed ready _ answered =>
    obtain ⟨defect, refused⟩ := refused ready
    cases answered.symm.trans refused
  | refused => rfl
  | misfit isOpen unfit => cases (fit isOpen).symm.trans unfit

end

end Action
end Footprint
