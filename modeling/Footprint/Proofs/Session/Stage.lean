import Footprint.Proofs.Session.Upsert
import Footprint.Proofs.Store.Step
import Mathlib.Logic.Function.Iterate

namespace Footprint.Upsert

inductive Stage
  | looking
  | storing
  | checking
  | rereading
  | merging (seen : Row)
  | resolving
  | ended (result : Except Fault Outcome)

namespace Stage

def statement (c : Candidate) : Stage → Action Stage
  | looking => do
    if c.kind = .link then
      match ← lookupId c with
      | some id => return ended (.ok (false, id))
      | none => return storing
    else
      match ← lookup c with
      | some row => return merging row
      | none => return storing
  | storing => do return if ← store c then resolving else checking
  | checking => do
    match ← lookupId c with
    | some _ => return rereading
    | none => fail c
  | rereading => do
    if c.kind = .link then return ended (.ok (false, ← resolve c))
    else
      match ← lookup c with
      | some row => return merging row
      | none => throw (.vanished c.kind)
  | merging seen => do return ended (.ok (← merge c seen))
  | resolving => do return ended (.ok (true, ← resolve c))
  | ended result => return ended result

def rest (c : Candidate) : Stage → Action Outcome
  | looking => run c
  | storing => storeOrMerge c
  | checking => afterRejection c
  | rereading => do
    if c.kind = .link then return (false, ← resolve c)
    else
      match ← lookup c with
      | some row => merge c row
      | none => throw (.vanished c.kind)
  | merging seen => merge c seen
  | resolving => do return (true, ← resolve c)
  | ended result => .ofExcept result

theorem statement_rest (c : Candidate) (stage : Stage) : (stage.statement c >>= rest c) = stage.rest c := by
  cases stage with
  | looking =>
    simp only [statement, rest, run]
    split
    · rw [bind_assoc]
      refine bind_congr fun found => ?_
      cases found <;> rfl
    · rw [bind_assoc]
      refine bind_congr fun found => ?_
      cases found <;> rfl
  | storing =>
    simp only [statement, rest, storeOrMerge, bind_assoc, pure_bind]
    refine bind_congr fun stored => ?_
    cases stored <;> rfl
  | checking =>
    simp only [statement, rest, afterRejection, bind_assoc]
    refine bind_congr fun found => ?_
    cases found <;> rfl
  | rereading =>
    simp only [statement, rest]
    split
    · rw [bind_assoc]
      rfl
    · rw [bind_assoc]
      refine bind_congr fun found => ?_
      cases found <;> rfl
  | merging seen =>
    simp only [statement, rest, bind_assoc, pure_bind]
    exact bind_pure _
  | resolving =>
    simp only [statement, rest, bind_assoc, pure_bind]
    rfl
  | ended result => rfl

def advance (c : Candidate) (stage : Stage) (s : Session) : Stage × Session :=
  match perform (stage.statement c) s with
  | (.ok next, t) => (next, t)
  | (.error fault, t) => (ended (.error fault), t)

def remaining : Stage → Nat
  | looking => 5
  | storing => 4
  | checking => 3
  | rereading => 2
  | merging _ | resolving => 1
  | ended _ => 0

theorem advance_rest (c : Candidate) (stage : Stage) (s : Session) :
    perform (stage.rest c) s = perform ((stage.advance c s).1.rest c) (stage.advance c s).2 := by
  rw [← statement_rest, perform_bind, advance]
  cases perform (stage.statement c) s with
  | mk result t => cases result <;> rfl

theorem remaining_statement {c : Candidate} {stage next : Stage} {s t : Session}
    (led : perform (stage.statement c) s = (.ok next, t)) : next.remaining ≤ stage.remaining - 1 := by
  cases stage with
  | looking =>
    simp only [statement] at led
    split at led
    all_goals
      obtain ⟨found, u, -, led⟩ := perform_bind_eq_ok led
      cases found <;> cases led <;> simp [remaining]
  | storing =>
    obtain ⟨stored, u, -, led⟩ := perform_bind_eq_ok led
    cases stored <;> cases led <;> simp [remaining]
  | checking =>
    obtain ⟨found, u, -, led⟩ := perform_bind_eq_ok led
    cases found <;> cases led
    simp [remaining]
  | rereading =>
    simp only [statement] at led
    split at led
    all_goals
      obtain ⟨found, u, -, led⟩ := perform_bind_eq_ok led
    · cases led
      simp [remaining]
    · cases found <;> cases led
      simp [remaining]
  | merging seen =>
    obtain ⟨outcome, u, -, led⟩ := perform_bind_eq_ok led
    cases led
    simp [remaining]
  | resolving =>
    obtain ⟨id, u, -, led⟩ := perform_bind_eq_ok led
    cases led
    simp [remaining]
  | ended result =>
    cases led
    simp [remaining]

theorem remaining_advance (c : Candidate) (stage : Stage) (s : Session) :
    (stage.advance c s).1.remaining ≤ stage.remaining - 1 := by
  rw [advance]
  cases led : perform (stage.statement c) s with
  | mk result t =>
    cases result with
    | ok next => exact remaining_statement led
    | error fault => exact Nat.zero_le _

theorem eq_rereading {stage : Stage} (left : stage.remaining = 2) : stage = rereading := by
  cases stage <;> simp [remaining] at left
  rfl

theorem eq_ended {stage : Stage} (finished : stage.remaining = 0) : ∃ result, stage = ended result := by
  cases stage with
  | ended result => exact ⟨result, rfl⟩
  | _ => cases finished

end Stage

theorem advance_alone (c : Candidate) (stage : Stage) (s : Session) {turns : Nat} (enough : stage.remaining ≤ turns) :
    (fun now : Stage × Session => now.1.advance c now.2)^[turns] (stage, s) =
      (.ended (perform (stage.rest c) s).1, (perform (stage.rest c) s).2) := by
  induction turns generalizing stage s with
  | zero =>
    obtain ⟨result, rfl⟩ := Stage.eq_ended (Nat.le_zero.mp enough)
    rfl
  | succ turns ih =>
    have less := Stage.remaining_advance c stage s
    rw [Function.iterate_succ_apply, Stage.advance_rest]
    exact ih _ _ (Nat.le_trans less (Nat.sub_le_iff_le_add.mpr enough))

/-! What one statement does -/

namespace Stage

def known (c : Candidate) (row : Row) : Stage :=
  if c.kind = .link then ended (.ok (false, row.id)) else merging row

def lost (c : Candidate) : Fault := if c.kind = .link then .notFound c.kind else .vanished c.kind

def Keyed (c : Candidate) : Stage → Prop
  | looking | ended _ => True
  | _ => c.key.fits = true

/-- The database does not take what comes next. -/
def Misfits (c : Candidate) (m : Misfit) : Stage → Prop
  | looking => c.key.misfit? = some m
  | storing => c.misfit? = some m
  | merging seen => c.changes seen ≠ [] ∧ (c.revision seen).misfit? = some m
  | _ => False

end Stage

open Stage in
inductive Moves (c : Candidate) (store : Store) : Stage → Stage → Store → Prop
  | unaskable {m : Misfit} : c.key.misfit? = some m → Moves c store looking (ended (.error (.misfit m))) store
  | found {row : Row} : c.key.fits = true → store.lookup? c.kind c.key = some row →
    Moves c store looking (known c row) store
  | unknown : c.key.fits = true → store.lookup? c.kind c.key = none → Moves c store looking storing store
  | unstorable {m : Misfit} : c.misfit? = some m → Moves c store storing (ended (.error (.misfit m))) store
  | stored {new : Store} : c.fits = true → store.insert? c = some new → Moves c store storing resolving new
  | rejected : c.fits = true → store.insert? c = none → Moves c store storing checking store
  | taken {row : Row} : store.lookup? c.kind c.key = some row → Moves c store checking rereading store
  | refused : store.lookup? c.kind c.key = none →
    Moves c store checking (ended (.error (.query .insert c.kind))) store
  | reread {row : Row} : store.lookup? c.kind c.key = some row → Moves c store rereading (known c row) store
  | gone : store.lookup? c.kind c.key = none → Moves c store rereading (ended (.error (lost c))) store
  | same {seen : Row} : c.changes seen = [] → Moves c store (merging seen) (ended (.ok (false, seen.id))) store
  | merged {seen : Row} : c.changes seen ≠ [] → (c.revision seen).fits = true →
    Moves c store (merging seen) (ended (.ok (true, seen.id))) (store.update c.kind seen.id (c.changes seen))
  | unwritable {seen : Row} {m : Misfit} : c.changes seen ≠ [] → (c.revision seen).misfit? = some m →
    Moves c store (merging seen) (ended (.error (.misfit m))) store
  | resolved {row : Row} : store.lookup? c.kind c.key = some row →
    Moves c store resolving (ended (.ok (true, row.id))) store
  | unresolved : store.lookup? c.kind c.key = none →
    Moves c store resolving (ended (.error (.notFound c.kind))) store
  | idle (result : Except Fault Outcome) : Moves c store (ended result) (ended result) store

namespace Moves

variable {c : Candidate} {store tables : Store} {stage next : Stage}

theorem wellFormed (formed : store.WellFormed) (proper : c.Proper) (moves : Moves c store stage next tables) :
    tables.WellFormed := by
  cases moves with
  | stored fits inserted => exact formed.insert proper (.of_fits fits) inserted
  | merged differ fits => exact formed.update (proper.filter _) (.of_fits (Revision.fits_changes fits)) _
  | _ => exact formed

theorem keyed (moves : Moves c store stage next tables) (keyed : stage.Keyed c) : next.Keyed c := by
  cases moves with
  | @found row fits found | @reread row found =>
    unfold Stage.known
    split
    · trivial
    · assumption
  | unknown fits absent => exact fits
  | stored fits inserted | rejected fits rejected | taken found => exact keyed
  | idle result => exact keyed
  | _ => trivial

theorem grows (moves : Moves c store stage next tables) : store.Grows tables := by
  cases moves with
  | stored fits inserted =>
    obtain ⟨-, -, rfl⟩ := Store.insert?_eq_some_iff.mp inserted
    simp [Store.Grows, Store.identities]
  | merged differ fits => exact .of_modify fun _ => rfl
  | _ => exact .refl store

end Moves

namespace Stage

variable {c : Candidate} {s : Session}

theorem advance_ok {stage next : Stage} {t : Session} (led : perform (stage.statement c) s = (.ok next, t)) :
    stage.advance c s = (next, t) := by
  rw [advance, led]

theorem advance_error {stage : Stage} {fault : Fault} {t : Session}
    (failed : perform (stage.statement c) s = (.error fault, t)) : stage.advance c s = (ended (.error fault), t) := by
  rw [advance, failed]

theorem perform_resolve (ready : s.Ready) (formed : s.contents.WellFormed) (fits : c.key.fits = true) :
    perform (resolve c) s = match s.contents.lookup? c.kind c.key with
      | some row => (.ok row.id, s)
      | none => (.error (.notFound c.kind), s) := by
  rw [resolve, perform_bind_ok (perform_lookupId ready formed fits)]
  cases s.contents.lookup? c.kind c.key <;> rfl

theorem advance_looking (ready : s.Ready) (formed : s.contents.WellFormed) (fits : c.key.fits = true) :
    ∃ cache, looking.advance c s =
      (((s.contents.lookup? c.kind c.key).map (known c)).getD storing, { s with seen := cache }) := by
  by_cases link : c.kind = .link
  · refine ⟨s.seen, advance_ok ?_⟩
    rw [statement, if_pos link, perform_bind_ok (perform_lookupId ready formed fits)]
    cases s.contents.lookup? c.kind c.key <;> simp [known, link]
  · obtain ⟨cache, looked⟩ := perform_lookup ready formed fits
    refine ⟨cache, advance_ok ?_⟩
    rw [statement, if_neg link, perform_bind_ok looked]
    cases s.contents.lookup? c.kind c.key <;> simp [known, link]

theorem advance_looking_misfit (ready : s.Ready) {m : Misfit} (misfit : c.key.misfit? = some m) :
    looking.advance c s = (ended (.error (.misfit m)), s) := by
  refine advance_error ?_
  by_cases link : c.kind = .link
  · rw [statement, if_pos link, perform_bind_error (perform_lookupId_misfit ready misfit)]
  · rw [statement, if_neg link, perform_bind_error (perform_lookup_misfit ready misfit)]

theorem advance_rereading (ready : s.Ready) (formed : s.contents.WellFormed) (fits : c.key.fits = true) :
    ∃ cache, rereading.advance c s =
      (((s.contents.lookup? c.kind c.key).map (known c)).getD (ended (.error (lost c))), { s with seen := cache }) := by
  by_cases link : c.kind = .link
  · refine ⟨s.seen, ?_⟩
    have resolved := perform_resolve ready formed fits
    rw [advance, statement, if_pos link, perform_bind, resolved]
    cases s.contents.lookup? c.kind c.key <;> simp [known, lost, link]
  · obtain ⟨cache, looked⟩ := perform_lookup ready formed fits
    refine ⟨cache, ?_⟩
    rw [advance, statement, if_neg link, perform_bind_ok looked]
    cases s.contents.lookup? c.kind c.key <;> simp [known, lost, link]

theorem storing_moves (ready : s.Ready) (enforced : s.enforced = true) (settled : s.pending = none) :
    ∃ tables, Moves c s.contents storing (storing.advance c s).1 tables ∧ s.Leaves tables (storing.advance c s).2 := by
  cases misfit : c.misfit? with
  | some m =>
    rw [advance_error (perform_bind_error (perform_store_misfit ready misfit) _)]
    exact ⟨s.contents, .unstorable misfit, .kept s.seen rfl⟩
  | none =>
    have whole : c.fits = true := Option.isNone_iff_eq_none.mpr misfit
    have stored := perform_store ready enforced whole
    cases inserted : s.contents.insert? c with
    | some new =>
      rw [inserted] at stored
      rw [advance_ok (perform_bind_ok stored _)]
      exact ⟨new, .stored whole inserted, .committed s.seen⟩
    | none =>
      rw [inserted] at stored
      rw [advance_ok (perform_bind_ok stored _)]
      -- The rejection rolls back, which changes nothing as nothing is pending.
      refine ⟨s.contents, .rejected whole inserted, .undone {} ?_⟩
      simp [Session.contents, settled]

theorem merging_moves (ready : s.Ready) (seen : Row) :
    ∃ tables, Moves c s.contents (merging seen) ((merging seen).advance c s).1 tables ∧
      s.Leaves tables ((merging seen).advance c s).2 := by
  by_cases same : c.changes seen = []
  · rw [advance_ok (perform_bind_ok (perform_merge_same seen same) _)]
    exact ⟨s.contents, .same same, .kept s.seen rfl⟩
  · have merged := perform_merge ready same
    cases misfit : (c.revision seen).misfit? with
    | none =>
      rw [misfit] at merged
      rw [advance_ok (perform_bind_ok merged _)]
      exact ⟨_, .merged same (Revision.fits_iff.mpr misfit), .committed s.seen⟩
    | some m =>
      rw [misfit] at merged
      rw [advance_error (perform_bind_error merged _)]
      exact ⟨s.contents, .unwritable same misfit, .kept s.seen rfl⟩

theorem advance_moves (ready : s.Ready) (enforced : s.enforced = true) (settled : s.pending = none)
    (formed : s.contents.WellFormed) {stage : Stage} (keyed : stage.Keyed c) :
    ∃ tables, Moves c s.contents stage (stage.advance c s).1 tables ∧ s.Leaves tables (stage.advance c s).2 := by
  cases stage with
  | looking =>
    cases misfit : c.key.misfit? with
    | some m =>
      rw [advance_looking_misfit ready misfit]
      exact ⟨s.contents, .unaskable misfit, .kept s.seen rfl⟩
    | none =>
      have fits := Key.fits_iff.mpr misfit
      obtain ⟨cache, advanced⟩ := advance_looking ready formed fits
      rw [advanced]
      refine ⟨s.contents, ?_, .kept cache rfl⟩
      cases found : s.contents.lookup? c.kind c.key with
      | some row => exact .found fits found
      | none => exact .unknown fits found
  | storing => exact storing_moves ready enforced settled
  | checking =>
    have looked := perform_lookupId (c := c) ready formed keyed
    cases found : s.contents.lookup? c.kind c.key with
    | some row =>
      rw [found] at looked
      rw [advance_ok (perform_bind_ok looked _)]
      exact ⟨s.contents, .taken found, .kept s.seen rfl⟩
    | none =>
      rw [found] at looked
      rw [advance_error (perform_bind_ok looked _)]
      refine ⟨s.contents, .refused found, .undone {} ?_⟩
      simp [Session.contents, settled]
  | rereading =>
    obtain ⟨cache, advanced⟩ := advance_rereading ready formed keyed
    rw [advanced]
    refine ⟨s.contents, ?_, .kept cache rfl⟩
    cases found : s.contents.lookup? c.kind c.key with
    | some row => exact .reread found
    | none => exact .gone found
  | merging seen => exact merging_moves ready seen
  | resolving =>
    have resolve := perform_resolve (c := c) ready formed keyed
    cases found : s.contents.lookup? c.kind c.key with
    | some row =>
      rw [found] at resolve
      rw [advance_ok (perform_bind_ok resolve _)]
      exact ⟨s.contents, .resolved found, .kept s.seen rfl⟩
    | none =>
      rw [found] at resolve
      rw [advance_error (perform_bind_error resolve _)]
      exact ⟨s.contents, .unresolved found, .kept s.seen rfl⟩
  | ended result => exact ⟨s.contents, .idle result, .kept s.seen rfl⟩

end Stage

end Footprint.Upsert
