import Footprint.Proofs.Session.Operation

/-!
Operations cannot tell two sessions apart that see the same tables. A relation of such sessions that
each single change keeps is kept by every operation, and both sessions give the same answer.
-/

namespace Footprint

inductive Store.Writes (store : Store) : Store → Prop
  | insert {c : Candidate} {new : Store} : c.Accepted → c.fits = true → store.insert? c = some new →
    Writes store new
  | update (kind : Kind) (id : Int) {changes : Assignment} : changes.fits = true →
    Writes store (store.update kind id changes)
  | setScope (affected : Row → Bool) (unscoped : Bool) : Writes store (store.setScope affected unscoped)
  | delete (matched : Row → Bool) : Writes store (store.delete matched)

def Respects {ε α : Type} (R : Session → Session → Prop) (x : ExceptT ε (StateM Session) α) : Prop :=
  ∀ s t, R s t → (perform x s).1 = (perform x t).1 ∧ R (perform x s).2 (perform x t).2

/-- A relation of sessions that enforce references and see the same tables, kept by all that statements do to a
    session. -/
structure Session.Congruence (R : Session → Session → Prop) : Prop where
  enforced {s t : Session} : R s t → s.enforced = true ∧ t.enforced = true
  contents {s t : Session} : R s t → (perform Statement.contents s).1 = (perform Statement.contents t).1
  seen {s t : Session} (change : RowCache → RowCache) : R s t →
    R { s with seen := change s.seen } { t with seen := change t.seen }
  write {s t : Session} {new : Store} : s.contents.Writes new → R s t →
    R { s with pending := some new } { t with pending := some new }
  commit {s t : Session} : R s t → R s.commit t.commit
  rollback {s t : Session} : R s t → R s.rollback t.rollback

namespace Respects

variable {ε α β : Type} {R : Session → Session → Prop}

theorem pure (a : α) : Respects R (pure a : ExceptT ε (StateM Session) α) := fun _ _ related => ⟨rfl, related⟩

theorem throw (e : ε) : Respects R (throw e : ExceptT ε (StateM Session) α) := fun _ _ related => ⟨rfl, related⟩

theorem bind {x : ExceptT ε (StateM Session) α} {f : α → ExceptT ε (StateM Session) β} (first : Respects R x)
    (next : ∀ a, Respects R (f a)) : Respects R (x >>= f) := by
  intro s t related
  obtain ⟨same, related⟩ := first s t related
  rw [perform_bind, perform_bind]
  cases run : perform x s with
  | mk result s' =>
    cases run' : perform x t with
    | mk result' t' =>
      rw [run, run'] at same related
      cases same
      cases result with
      | ok a => exact next a s' t' related
      | error e => exact ⟨rfl, related⟩

theorem map {x : ExceptT ε (StateM Session) α} (f : α → β) (first : Respects R x) : Respects R (f <$> x) := by
  rw [map_eq_pure_bind]
  exact first.bind fun a => .pure (f a)

theorem modify {change : Session → Session} (keeps : ∀ {s t}, R s t → R (change s) (change t)) :
    Respects R (modify change : ExceptT ε (StateM Session) PUnit) := fun _ _ related => ⟨rfl, keeps related⟩

end Respects

theorem RowCache.cached_refresh (cache : RowCache) (read : List Row) :
    (cache.refresh read).cached read = (RowCache.mk read).cached read := by
  have latest (row : Row) (member : row ∈ read) :
      (cache.refresh read).find? row.kind row.id = (RowCache.mk read).find? row.kind row.id := by
    have found : (read.find? fun other => other.kind == row.kind && other.id == row.id).isSome = true := by
      rw [List.find?_isSome]
      exact ⟨row, member, by simp⟩
    obtain ⟨other, found⟩ := Option.isSome_iff_exists.mp found
    simp [RowCache.find?, RowCache.refresh, List.find?_append, found]
  unfold cached
  generalize h : cache.refresh read = a at latest
  generalize RowCache.mk read = b at latest
  clear h
  induction read with
  | nil => rfl
  | cons row rest ih =>
    rw [List.filterMap_cons, List.filterMap_cons, latest row (by simp), ih fun other member => latest other (by simp [member])]

theorem Statement.perform_contents_eq_ok {s t : Session} {store : Store}
    (viewed : perform contents s = (.ok store, t)) : store = s.contents ∧ t = s := by
  by_cases ready : s.Ready
  · rw [perform_contents ready] at viewed
    cases viewed
    exact ⟨rfl, rfl⟩
  · obtain ⟨e, -, failed⟩ := perform_contents_unready ready
    rw [failed] at viewed
    cases viewed

namespace Session.Congruence

variable {R : Session → Session → Prop}

/-! Statements -/

theorem respects_parameter (data : Data) : Respects R (Statement.parameter data) := by
  unfold Statement.parameter
  split
  case h_3 n =>
    split
    · exact .pure _
    · exact .throw _
  all_goals first | exact .pure _ | exact .throw _

theorem respects_atMostOne (rows : List Row) : Respects R (Statement.atMostOne rows) := by
  unfold Statement.atMostOne
  split
  · exact .pure _
  · exact .pure _
  · exact .throw _

variable (congruent : Congruence R)

include congruent

theorem respects_contents : Respects R Statement.contents := fun s t related => by
  rw [Statement.perform_contents_snd, Statement.perform_contents_snd]
  exact ⟨congruent.contents related, related⟩

theorem contents_bind {α : Type} {f : Store → Statement α} (next : ∀ s t, R s t →
      (perform (f s.contents) s).1 = (perform (f s.contents) t).1 ∧
        R (perform (f s.contents) s).2 (perform (f s.contents) t).2) :
    Respects R (Statement.contents >>= f) := by
  intro s t related
  have same := congruent.contents related
  rw [perform_bind, perform_bind]
  cases viewed : perform Statement.contents s with
  | mk result s' =>
    cases viewed' : perform Statement.contents t with
    | mk result' t' =>
      rw [viewed, viewed'] at same
      cases same
      cases result with
      | ok store =>
        obtain ⟨rfl, rfl⟩ := Statement.perform_contents_eq_ok viewed
        obtain ⟨-, rfl⟩ := Statement.perform_contents_eq_ok viewed'
        exact next s' t' related
      | error e =>
        -- The tables could not be seen, in both sessions for the same reason.
        have kept := Statement.perform_contents_snd s
        have kept' := Statement.perform_contents_snd t
        rw [viewed] at kept
        rw [viewed'] at kept'
        cases kept
        cases kept'
        exact ⟨rfl, related⟩

omit congruent in
theorem respects_parameters (criteria : List Criterion) : Respects R (Statement.parameters criteria) := by
  unfold Statement.parameters
  induction criteria with
  | nil => exact .pure []
  | cons criterion rest ih =>
    rw [List.mapM_cons]
    refine Respects.bind ((respects_parameter _).bind fun _ => .pure _) fun _ => ?_
    exact ih.bind fun _ => .pure _

theorem respects_select (kind : Kind) (criteria : List Criterion) : Respects R (Statement.select kind criteria) :=
  congruent.respects_contents.bind fun _ => (respects_parameters criteria).bind fun _ => .pure _

theorem respects_fetch (rows : List Row) : Respects R (Statement.fetch rows) := fun s t related =>
  ⟨congrArg Except.ok ((s.seen.cached_refresh rows).trans (t.seen.cached_refresh rows).symm),
    congruent.seen (·.refresh rows) related⟩

theorem respects_findRow (kind : Kind) (criteria : List Criterion) : Respects R (Statement.findRow kind criteria) :=
  (congruent.respects_select kind criteria).bind fun rows =>
    (respects_atMostOne rows).bind fun _ => (congruent.respects_fetch _).bind fun _ => .pure _

theorem respects_findId (kind : Kind) (criteria : List Criterion) : Respects R (Statement.findId kind criteria) :=
  (congruent.respects_select kind criteria).bind fun rows => (respects_atMostOne rows).bind fun _ => .pure _

theorem isOpen_eq {s t : Session} (related : R s t) : s.isOpen = t.isOpen := by
  have same := congruent.contents related
  rw [Bool.eq_iff_iff, ← Bool.not_eq_false, ← Bool.not_eq_false, ← Statement.perform_contents_closed, same,
    Statement.perform_contents_closed]

theorem respects_search {α : Type} (query : Sql.Query) (f : Filter) (answer : String → Store → Except Sql.Defect α) :
    Respects R (Statement.search query f answer) := by
  intro s t related
  rw [Statement.search, perform_bind_ok (perform_get s), perform_bind_ok (perform_get t), congruent.isOpen_eq related]
  cases t.isOpen with
  | false => exact ⟨rfl, related⟩
  | true =>
    refine Respects.bind ?_ (fun _ => congruent.respects_contents.bind fun store => ?_) s t related
    · cases query.misfit? f.script with
      | none => exact .pure _
      | some m => exact .throw _
    · cases answer f.text store with
      | ok found => exact .pure _
      | error defect => exact .throw _

theorem respects_insertRow {c : Candidate} (accepted : c.Accepted) : Respects R (Statement.insertRow c) := by
  unfold Statement.insertRow
  refine congruent.contents_bind fun s t related => ?_
  cases misfit : c.misfit? with
  | some m => exact ⟨rfl, related⟩
  | none =>
    obtain ⟨enforced, enforced'⟩ := congruent.enforced related
    simp only [perform_bind_ok (Statement.perform_require_none _), perform_bind_ok Statement.perform_schema,
      Session.insert?_schema enforced, Session.insert?_schema enforced']
    cases inserted : s.contents.insert? c with
    | some new =>
      have fits : c.fits = true := Option.isNone_iff_eq_none.mpr misfit
      exact ⟨rfl, congruent.write (.insert accepted fits inserted) related⟩
    | none => exact ⟨rfl, related⟩

theorem respects_updateRow (kind : Kind) (id : Int) (changes : Assignment) :
    Respects R (Statement.updateRow kind id changes) := by
  rw [Statement.updateRow_eq]
  refine congruent.contents_bind fun s t related => ?_
  cases misfit : Revision.misfit? ⟨kind, id, changes⟩ with
  | some m => exact ⟨rfl, related⟩
  | none => exact ⟨rfl, congruent.write (.update kind id (Revision.fits_changes (Revision.fits_iff.mpr misfit))) related⟩

theorem respects_changeMatching (query : Sql.Query) (f : Search) (change : Store → (Row → Bool) → Store)
    (writes : ∀ store isMatch, Store.Writes store (change store isMatch)) :
    Respects R (Action.changeMatching query f change) :=
  (congruent.respects_search query f.toFilter _).bind fun hits =>
    congruent.contents_bind fun _ _ related => ⟨rfl, congruent.write (writes _ hits.affects) related⟩

/-! Operations -/

section

variable {α : Type}

theorem respects_guarded (attempt : Attempt) (kind : Kind) {body : Statement α} (respects : Respects R body) :
    Respects R (Action.guarded attempt kind body) := by
  intro s t related
  obtain ⟨same, related⟩ := respects s t related
  rw [Action.perform_guarded, Action.perform_guarded]
  cases run : perform body s with
  | mk result s' =>
    cases run' : perform body t with
    | mk result' t' =>
      rw [run, run'] at same related
      cases same
      cases result with
      | ok a => exact ⟨rfl, related⟩
      | error e =>
        cases e with
        | misfit m => exact ⟨rfl, related⟩
        | _ => exact ⟨rfl, congruent.rollback related⟩

omit congruent in
theorem respects_bare {body : Statement α} (respects : Respects R body) : Respects R (Action.bare body) := by
  intro s t related
  obtain ⟨same, related⟩ := respects s t related
  rw [Action.perform_bare_state, Action.perform_bare_state]
  refine ⟨?_, related⟩
  rw [Action.perform_bare, Action.perform_bare]
  cases run : perform body s with
  | mk result s' =>
    cases run' : perform body t with
    | mk result' t' =>
      rw [run, run'] at same
      cases same
      cases result with
      | ok a => rfl
      | error e => cases e <;> rfl

omit congruent in
theorem respects_ofExcept (result : Except Fault α) : Respects R (Action.ofExcept result) := fun _ _ related =>
  ⟨rfl, related⟩

end

theorem respects_lookup (c : Candidate) : Respects R (Upsert.lookup c) :=
  congruent.respects_guarded _ _ (congruent.respects_findRow _ _)

theorem respects_lookupId (c : Candidate) : Respects R (Upsert.lookupId c) :=
  congruent.respects_guarded _ _ (congruent.respects_findId _ _)

theorem respects_store {c : Candidate} (accepted : c.Accepted) : Respects R (Upsert.store c) := by
  refine congruent.respects_guarded _ _ ((congruent.respects_insertRow accepted).bind fun stored => ?_)
  cases stored with
  | true => exact (Respects.modify congruent.commit).bind fun _ => .pure _
  | false => exact (Respects.modify congruent.rollback).bind fun _ => .pure _

theorem respects_write (kind : Kind) (id : Int) (changes : Assignment) :
    Respects R (Action.guarded .update kind do
      Statement.updateRow kind id changes
      Statement.commit) :=
  congruent.respects_guarded _ _
    ((congruent.respects_updateRow kind id changes).bind fun _ => .modify congruent.commit)

theorem respects_merge (c : Candidate) (row : Row) : Respects R (Upsert.merge c row) := by
  simp only [Upsert.merge]
  split
  · exact .pure _
  · exact (congruent.respects_write _ _ _).bind fun _ => .pure _

theorem respects_resolve (c : Candidate) : Respects R (Upsert.resolve c) := by
  refine (congruent.respects_lookupId c).bind fun found => ?_
  cases found with
  | some id => exact .pure _
  | none => exact .throw _

theorem respects_afterRejection (c : Candidate) : Respects R (Upsert.afterRejection c) := by
  refine (congruent.respects_lookupId c).bind fun found => ?_
  cases found with
  | none => exact (Respects.modify congruent.rollback).bind fun _ => .throw _
  | some id =>
    dsimp only
    split
    · exact (congruent.respects_resolve c).bind fun _ => .pure _
    · refine (congruent.respects_lookup c).bind fun found => ?_
      cases found with
      | some row => exact congruent.respects_merge c row
      | none => exact .throw _

theorem respects_storeOrMerge {c : Candidate} (accepted : c.Accepted) : Respects R (Upsert.storeOrMerge c) := by
  refine (congruent.respects_store accepted).bind fun stored => ?_
  cases stored with
  | true => exact (congruent.respects_resolve c).bind fun _ => .pure _
  | false => exact congruent.respects_afterRejection c

theorem respects_run {c : Candidate} (accepted : c.Accepted) : Respects R (Upsert.run c) := by
  unfold Upsert.run
  split
  · refine (congruent.respects_lookupId c).bind fun found => ?_
    cases found with
    | some id => exact .pure _
    | none => exact congruent.respects_storeOrMerge accepted
  · refine (congruent.respects_lookup c).bind fun found => ?_
    cases found with
    | some row => exact congruent.respects_merge c row
    | none => exact congruent.respects_storeOrMerge accepted

omit congruent in
theorem respects_offered (submission : Data) {insertion : Candidate → Action Outcome}
    (respects : ∀ c, c.Accepted → Respects R (insertion c)) : Respects R (Action.offered submission >>= insertion) := by
  unfold Action.offered
  cases read : Submission.ofData submission with
  | ok given => exact respects given.candidate (Submission.ofData_accepted read)
  | error issues => exact .throw _

theorem respects_insertMembers (kind : Kind) (members : Members) : Respects R (Action.insertMembers kind members) := by
  unfold Action.insertMembers Action.candidate
  cases read : Candidate.read kind members with
  | valid given => exact congruent.respects_run ⟨kind, members, given, read, rfl⟩
  | invalid issues => exact .throw _

theorem respects_getId? (kind : Kind) (key : Data) : Respects R (Action.getId? kind key) :=
  (respects_ofExcept _).bind fun _ => congruent.respects_guarded _ _ (congruent.respects_findId _ _)

theorem respects_getId (kind : Kind) (key : Data) : Respects R (Action.getId kind key) := by
  refine (congruent.respects_getId? kind key).bind fun found => ?_
  cases found with
  | some id => exact .pure _
  | none => exact .throw _

theorem respects_insertSubdomain (value domain : Data) : Respects R (Action.insertSubdomain value domain) := by
  refine (congruent.respects_getId? .domain domain).bind fun found => ?_
  cases found with
  | some id => exact (Respects.pure id).bind fun _ => congruent.respects_insertMembers _ _
  | none => exact (Respects.map _ (congruent.respects_insertMembers _ _)).bind fun _ => congruent.respects_insertMembers _ _

theorem respects_update (r : Revision) : Respects R (Action.update r) := by
  simp only [Action.update]
  split
  · exact .pure _
  · exact (congruent.respects_write _ _ _).bind fun _ => .pure _

theorem respects_bulk (attempt : Attempt) (kind : Kind) (query : Sql.Query) (f : Search)
    (change : Store → (Row → Bool) → Store) (writes : ∀ store isMatch, Store.Writes store (change store isMatch)) :
    Respects R (Action.bulk attempt kind (Action.changeMatching query f change)) := by
  refine Respects.bind (congruent.respects_guarded _ _ ?_) fun _ => ?_
  · exact (congruent.respects_changeMatching query f change writes).bind fun _ =>
      (Respects.modify congruent.commit).bind fun _ => .pure _
  · exact (Respects.modify (congruent.seen fun _ => {})).bind fun _ => .pure _

theorem respects_setScope (attempt : Attempt) (kind : Kind) (f : Search) (unscoped : Bool) :
    Respects R (do
      Action.requireScopable kind
      Action.bulk attempt kind (Statement.setScope kind f unscoped)) := by
  rw [Statement.setScope_eq]
  refine Respects.bind ?_ fun _ => congruent.respects_bulk attempt kind (.update kind unscoped) f
    (fun store isMatch => store.setScope isMatch unscoped) fun _ isMatch => .setScope isMatch unscoped
  simp only [Action.requireScopable]
  split
  · exact .throw _
  · exact .pure _

theorem respects_delete (kind : Kind) (f : Search) : Respects R (Action.delete kind f) := by
  intro s t related
  obtain ⟨enforced, enforced'⟩ := congruent.enforced related
  rw [Action.perform_delete_eq enforced, Action.perform_delete_eq enforced']
  exact congruent.respects_bulk .delete kind (.delete kind) f Store.delete (fun _ isMatch => .delete isMatch) s t related

/-! The same without a commit -/

theorem respects_getById? (kind : Kind) (id : Data) : Respects R (Action.getById? kind id) := by
  unfold Action.getById?
  split
  · exact respects_bare (congruent.respects_findRow kind _)
  · exact .throw _

theorem respects_scopePending (kind : Kind) (f : Search) (unscoped : Bool) :
    Respects R (Action.scopePending kind f unscoped) := by
  simp only [Action.scopePending, Statement.setScope_eq]
  split
  · exact .throw _
  · exact respects_bare (congruent.respects_changeMatching (.update kind unscoped) f
      (fun store isMatch => store.setScope isMatch unscoped) fun _ isMatch => .setScope isMatch unscoped)

theorem respects_deletePending (kind : Kind) (f : Search) : Respects R (Action.deletePending kind f) := by
  intro s t related
  obtain ⟨enforced, enforced'⟩ := congruent.enforced related
  rw [Action.perform_deletePending_eq enforced, Action.perform_deletePending_eq enforced']
  exact respects_bare (congruent.respects_changeMatching (.delete kind) f Store.delete fun _ isMatch =>
    .delete isMatch) s t related

theorem respects_action (op : Operation) : Respects R op.action := by
  cases op <;> refine Respects.map _ ?_
  case insert submission => exact respects_offered submission fun _ accepted => congruent.respects_run accepted
  case insertUnseen submission =>
    exact respects_offered submission fun _ accepted => congruent.respects_storeOrMerge accepted
  case insertDomain value => exact congruent.respects_insertMembers _ _
  case insertSubdomain value domain => exact congruent.respects_insertSubdomain value domain
  case insertAddress family value => exact congruent.respects_insertMembers _ _
  case insertLink subdomain address => exact congruent.respects_insertMembers _ _
  case insertEmail value => exact congruent.respects_insertMembers _ _
  case update submission =>
    refine Respects.bind ?_ congruent.respects_update
    unfold Action.revised
    split
    · exact .pure _
    · exact .throw _
  case getRow kind key =>
    exact (respects_ofExcept _).bind fun _ => congruent.respects_guarded _ _ (congruent.respects_findRow _ _)
  case getId kind key => exact congruent.respects_getId kind key
  case findId kind key => exact congruent.respects_getId? kind key
  case list kind =>
    exact congruent.respects_guarded _ _ (congruent.respects_contents.bind fun _ => congruent.respects_fetch _)
  case filter kind f =>
    exact congruent.respects_guarded _ _ ((congruent.respects_search _ f.toFilter _).bind fun _ =>
      congruent.respects_fetch _)
  case scope kind f => exact congruent.respects_setScope .scope kind f false
  case noscope kind f => exact congruent.respects_setScope .noscope kind f true
  case delete kind f => exact congruent.respects_delete kind f

end Session.Congruence
end Footprint
