import Footprint.Proofs.Session.Run
import Footprint.Proofs.Store.Schema
import Footprint.Validation.Revision

namespace Footprint

namespace Database

theorem schema_matches (d : Database) : Schema.migrated.Matches d.schema := by
  unfold schema
  split
  · intro kind
    exact ⟨.refl _, .refl _⟩
  · exact Schema.migrated_matches_declared

@[simp] theorem insert?_schema (d : Database) (store : Store) (c : Candidate) :
    d.schema.insert? store c = store.insert? c := by
  rw [← d.schema_matches.insert?, Schema.insert?_migrated]

@[simp] theorem update?_schema (d : Database) (store : Store) (kind : Kind) (id : Int) (changes : Assignment) :
    d.schema.update? store kind id changes = some (store.update kind id changes) := by
  rw [← d.schema_matches.update?, Schema.update?_migrated]

@[simp] theorem setScope?_schema (d : Database) (store : Store) (affected : Row → Bool) (unscoped : Bool) :
    d.schema.setScope? store affected unscoped = some (store.setScope affected unscoped) := by
  rw [← d.schema_matches.setScope?, Schema.setScope?_migrated]

@[simp] theorem delete?_schema (d : Database) (store : Store) (matched : Row → Bool) :
    d.schema.delete? store matched = some (store.delete matched) := by
  rw [← d.schema_matches.delete?, Schema.delete?_migrated]

end Database

namespace Session

variable {s : Session}

theorem schema_of_enforced (enforced : s.enforced = true) : s.schema = s.database.schema := if_pos enforced

theorem insert?_schema (enforced : s.enforced = true) (store : Store) (c : Candidate) :
    s.schema.insert? store c = store.insert? c := by
  rw [schema_of_enforced enforced, Database.insert?_schema]

theorem delete?_schema (enforced : s.enforced = true) (store : Store) (matched : Row → Bool) :
    s.schema.delete? store matched = some (store.delete matched) := by
  rw [schema_of_enforced enforced, Database.delete?_schema]

theorem modify?_schema {store tables : Store} {written : List Column} {affected : Row → Bool} {change : Row → Row}
    (done : s.database.schema.modify? store written affected change = some tables) :
    s.schema.modify? store written affected change = some tables := by
  unfold schema
  split
  · exact done
  · exact Schema.modify?_loose done

@[simp] theorem update?_schema (s : Session) (store : Store) (kind : Kind) (id : Int) (changes : Assignment) :
    s.schema.update? store kind id changes = some (store.update kind id changes) :=
  modify?_schema (s.database.update?_schema store kind id changes)

@[simp] theorem setScope?_schema (s : Session) (store : Store) (affected : Row → Bool) (unscoped : Bool) :
    s.schema.setScope? store affected unscoped = some (store.setScope affected unscoped) :=
  modify?_schema (s.database.setScope?_schema store affected unscoped)

end Session

def Action.changeMatching (query : Sql.Query) (f : Search) (change : Store → (Row → Bool) → Store) : Statement Nat := do
  let hits ← Statement.matching query f
  let store ← Statement.contents
  Statement.replace (change store hits.affects)
  return hits.count store

namespace Statement

theorem schema_bind {α : Type} {f : Schema → Statement α} {next : Statement α}
    (same : ∀ s : Session, f s.schema = next) : schema >>= f = next := by
  funext s
  exact congrFun (same s) s

theorem perform_schema {s : Session} : perform schema s = (.ok s.schema, s) := rfl

@[simp] theorem perform_require_none (s : Session) : perform (require none) s = (.ok (), s) := rfl

@[simp] theorem perform_require_some (m : Misfit) (s : Session) :
    perform (require (some m)) s = (.error (.misfit m), s) := rfl

theorem perform_insertRow_misfit {s : Session} {c : Candidate} {m : Misfit} (ready : s.Ready)
    (misfit : c.misfit? = some m) : perform (insertRow c) s = (.error (.misfit m), s) := by
  rw [insertRow, perform_bind_ok (perform_contents ready), misfit, perform_bind_error (perform_require_some m s)]

theorem perform_insertRow {s : Session} {c : Candidate} (ready : s.Ready) (enforced : s.enforced = true)
    (fits : c.fits = true) : perform (insertRow c) s = match s.contents.insert? c with
      | some store => (.ok true, { s with pending := some store })
      | none => (.ok false, s) := by
  rw [insertRow, perform_bind_ok (perform_contents ready), Option.isNone_iff_eq_none.mp fits,
    perform_bind_ok (perform_require_none s), perform_bind_ok perform_schema, Session.insert?_schema enforced]
  cases s.contents.insert? c <;> rfl

theorem perform_insertRow_unready {s : Session} (unready : ¬ s.Ready) (c : Candidate) :
    ∃ e, (∀ m, e ≠ .misfit m) ∧ perform (insertRow c) s = (.error e, s) := by
  obtain ⟨e, other, failed⟩ := perform_contents_unready unready
  exact ⟨e, other, perform_bind_error failed _⟩

theorem updateRow_eq (kind : Kind) (id : Int) (changes : Assignment) : updateRow kind id changes = (do
    let store ← contents
    require (Revision.misfit? ⟨kind, id, changes⟩)
    replace (store.update kind id changes)) := by
  unfold updateRow
  congr 1
  funext store
  refine congrArg (require (Revision.misfit? ⟨kind, id, changes⟩) >>= ·) (funext fun _ => ?_)
  apply schema_bind
  intro s
  rw [s.update?_schema]
  rfl

/-! Searches -/

section

variable {α : Type} {s : Session} {query : Sql.Query} {f : Filter} (answer : String → Store → Except Sql.Defect α)

theorem perform_search (ready : s.Ready) (fit : query.misfit? f.script = none) :
    perform (search query f answer) s = match answer f.text s.contents with
      | .ok found => (.ok found, s)
      | .error defect => (.error (.defect defect), s) := by
  rw [search, perform_bind_ok (perform_get s), ready.isOpen, fit]
  simp only [Bool.not_true, Bool.false_eq_true, if_false]
  rw [perform_bind_ok (perform_require_none s), perform_bind_ok (perform_contents ready)]
  cases answer f.text s.contents <;> rfl

theorem perform_search_misfit (isOpen : s.isOpen = true) {m : Misfit} (unfit : query.misfit? f.script = some m) :
    perform (search query f answer) s = (.error (.misfit m), s) := by
  rw [search, perform_bind_ok (perform_get s), isOpen, unfit]
  exact perform_bind_error (perform_require_some m s) _

theorem perform_search_unready (unready : ¬ s.Ready) (fit : s.isOpen = true → query.misfit? f.script = none) :
    ∃ e, (∀ m, e ≠ .misfit m) ∧ perform (search query f answer) s = (.error e, s) := by
  cases isOpen : s.isOpen with
  | false =>
    refine ⟨.closed, nofun, ?_⟩
    rw [search, perform_bind_ok (perform_get s), isOpen]
    rfl
  | true =>
    obtain ⟨e, other, failed⟩ := perform_contents_unready unready
    refine ⟨e, other, ?_⟩
    rw [search, perform_bind_ok (perform_get s), isOpen, fit isOpen]
    simp only [Bool.not_true, Bool.false_eq_true, if_false]
    rw [perform_bind_ok (perform_require_none s)]
    exact perform_bind_error failed _

variable (s query f)

inductive Searches : Except StatementError α → Prop
  | found {found : α} (ready : s.Ready) (fit : query.misfit? f.script = none)
      (answered : answer f.text s.contents = .ok found) : Searches (.ok found)
  | failed {e : StatementError} (other : ∀ m, e ≠ .misfit m)
      (why : s.isOpen = true → query.misfit? f.script = none ∧
        (s.Ready → ∃ defect, answer f.text s.contents = .error defect)) : Searches (.error e)
  | misfit {m : Misfit} (isOpen : s.isOpen = true) (unfit : query.misfit? f.script = some m) :
      Searches (.error (.misfit m))

theorem search_ends : ∃ result, perform (search query f answer) s = (result, s) ∧ Searches s query f answer result := by
  cases isOpen : s.isOpen with
  | false =>
    have unready : ¬ s.Ready := fun ready => Bool.noConfusion (isOpen.symm.trans ready.isOpen)
    have closed (opened : s.isOpen = true) : False := Bool.noConfusion (isOpen.symm.trans opened)
    obtain ⟨e, other, run⟩ := perform_search_unready answer unready fun opened => (closed opened).elim
    exact ⟨_, run, .failed other fun opened => (closed opened).elim⟩
  | true =>
    cases fit : query.misfit? f.script with
    | some m => exact ⟨_, perform_search_misfit answer isOpen fit, .misfit isOpen fit⟩
    | none =>
      by_cases ready : s.Ready
      · have run := perform_search answer ready fit
        cases answered : answer f.text s.contents with
        | ok found =>
          rw [answered] at run
          exact ⟨_, run, .found ready fit answered⟩
        | error defect =>
          rw [answered] at run
          exact ⟨_, run, .failed nofun fun _ => ⟨fit, fun _ => ⟨defect, answered⟩⟩⟩
      · obtain ⟨e, other, run⟩ := perform_search_unready answer ready fun _ => fit
        exact ⟨_, run, .failed other fun _ => ⟨fit, fun ready' => absurd ready' ready⟩⟩

end

theorem setScope_eq (kind : Kind) (f : Search) (unscoped : Bool) : setScope kind f unscoped =
    Action.changeMatching (.update kind unscoped) f fun store affected => store.setScope affected unscoped := by
  unfold setScope Action.changeMatching
  congr 1
  funext hits
  congr 1
  funext store
  apply schema_bind
  intro s
  rw [s.setScope?_schema]
  rfl

theorem perform_deleteRows {s : Session} (enforced : s.enforced = true) (kind : Kind) (f : Search) :
    perform (deleteRows kind f) s = perform (Action.changeMatching (.delete kind) f Store.delete) s := by
  unfold deleteRows Action.changeMatching
  refine perform_bind_congr fun hits t matched => perform_bind_congr fun store u found => ?_
  -- Neither reading the filter nor reading the tables changes the session.
  obtain rfl : u = s := by
    obtain ⟨result, searched, -⟩ := search_ends s (.delete kind) f.toFilter (Sql.Query.hits (.delete kind) f.engine)
    have second := perform_contents_snd t
    rw [found] at second
    exact second.trans (congrArg Prod.snd (matched.symm.trans searched))
  rw [perform_bind_ok perform_schema, Session.delete?_schema enforced]
  rfl

end Statement

theorem Action.perform_delete_eq {s : Session} (enforced : s.enforced = true) (kind : Kind) (f : Search) :
    perform (delete kind f) s = perform (bulk .delete kind (changeMatching (.delete kind) f Store.delete)) s := by
  simp only [delete, bulk, perform_bind, perform_guarded, Statement.perform_deleteRows enforced]

theorem Action.setScope_eq {kind : Kind} (scopable : kind.scopable = true) (attempt : Attempt) (f : Search)
    (unscoped : Bool) :
    (do requireScopable kind; bulk attempt kind (Statement.setScope kind f unscoped)) =
      bulk attempt kind (changeMatching (.update kind unscoped) f fun store affected =>
        store.setScope affected unscoped) := by
  have allowed : requireScopable kind = pure () := by simp [requireScopable, scopable]
  rw [allowed, pure_bind, Statement.setScope_eq]

theorem Action.perform_setScope_refused {kind : Kind} (unsuited : kind.scopable = false) (attempt : Attempt)
    (f : Search) (unscoped : Bool) (s : Session) :
    perform (do requireScopable kind; bulk attempt kind (Statement.setScope kind f unscoped)) s =
      (.error (.notScopable kind), s) := by
  have refused : perform (requireScopable kind) s = (.error (.notScopable kind), s) := by
    simp [requireScopable, unsuited]
  exact perform_bind_error refused _

theorem Action.perform_deletePending_eq {s : Session} (enforced : s.enforced = true) (kind : Kind) (f : Search) :
    perform (deletePending kind f) s = perform (bare (changeMatching (.delete kind) f Store.delete)) s := by
  rw [deletePending, perform_bare, perform_bare, Statement.perform_deleteRows enforced]

end Footprint
