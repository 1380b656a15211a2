import Footprint.Proofs.Entity.Overlap
import Footprint.Proofs.Race.Basic
import Footprint.Proofs.Workspace.Sized
import Mathlib.Data.Fin.VecNotation
import Mathlib.Data.List.Infix

namespace Footprint

namespace Candidate

variable {c : Candidate} {seen : Row}

def landing (c : Candidate) (id : Int) : Assignment :=
  if c.supplied.fits && Word.holds id then c.supplied else []

theorem landing_proper (proper : c.Proper) (id : Int) : (c.landing id).Proper c.kind := by
  unfold landing
  split
  · exact proper
  · exact ⟨List.nil_sublist _, nofun⟩

theorem landing_fits (c : Candidate) (id : Int) : (c.landing id).fits = true := by
  unfold landing
  split
  next fits => exact (Bool.and_eq_true_iff.mp fits).1
  next => rfl

theorem landing_eq_supplied {id : Int} {a : Attribute} {cell : Cell} (given : (c.landing id).get? a = some cell) :
    c.landing id = c.supplied := by
  unfold landing at given ⊢
  split
  next => rfl
  next oversized =>
    rw [if_neg oversized] at given
    cases given

theorem write_landing (formed : seen.WellFormed) (sized : seen.Sized) (proper : c.Proper) (row : Row) :
    row.write ((c.landing seen.id).differing seen) =
      if (c.revision seen).fits then row.write (c.changes seen) else row := by
  have same : (c.changes seen).fits = c.supplied.fits := congrArg Option.isNone (misfit?_changes proper formed sized)
  rw [Revision.fits_eq, revision, same, landing]
  split
  · rfl
  · exact Row.write_nil row

end Candidate

def Database.after (database : Database) (c : Candidate) : Database :=
  (perform (Upsert.run c) { database, enforced := true }).2.database

namespace Upsert

open Stage

variable {c : Candidate} {store tables : Store} {stage next : Stage} {row now later : Row}

inductive Turn (supplied : Assignment) (now : Row) : Stage → Stage → Row → Prop
  | look : Turn supplied now looking (merging now) now
  | write (seen : Row) (result : Except Fault Outcome) :
    Turn supplied now (merging seen) (ended result) (now.write (supplied.differing seen))
  | rest (result : Except Fault Outcome) : Turn supplied now (ended result) (ended result) now

inductive Stage.Direct (kind : Kind) (id : Int) : Stage → Prop
  | looking : Direct kind id looking
  | merging {seen : Row} : seen.WellFormed → seen.Sized → seen.kind = kind → seen.id = id →
    Direct kind id (merging seen)
  | ended (result : Except Fault Outcome) : Direct kind id (ended result)

theorem Moves.turn (moves : Moves c store stage next tables) (proper : c.Proper)
    (fits : c.key.fits = true) (merges : c.kind ≠ .link) (found : store.lookup? c.kind c.key = some now)
    (direct : stage.Direct c.kind now.id) :
    ∃ later, tables.lookup? c.kind c.key = some later ∧ Turn (c.landing now.id) now stage next later := by
  cases direct with
  | looking =>
    cases moves with
    | unaskable misfit => simp [Key.fits_iff.mp fits] at misfit
    | found fits found' =>
      cases found.symm.trans found'
      rw [known, if_neg merges]
      exact ⟨now, found, .look⟩
    | unknown fits absent => simp [found] at absent
  | @merging seen formed' sized kind id =>
    have written := Candidate.write_landing formed' sized proper now
    have turn (result : Except Fault Outcome) : Turn (c.landing now.id) now (merging seen) (ended result) _ :=
      .write seen result
    cases moves with
    | same same =>
      rw [← id, written, same, Row.write_nil, ite_self] at turn
      exact ⟨now, found, id ▸ turn _⟩
    | merged differ fits =>
      rw [← id, written, if_pos fits] at turn
      rw [id] at turn ⊢
      exact ⟨_, Store.lookup?_update found, turn _⟩
    | unwritable differ misfit =>
      rw [← id, written, if_neg (by simp [Revision.fits_iff, misfit])] at turn
      exact ⟨now, found, id ▸ turn _⟩
  | ended result =>
    cases moves with
    | idle => exact ⟨now, found, .rest result⟩

/-! Two clients -/

def Stage.Before (row : Row) (stage : Stage) : Prop := stage = looking ∨ stage = merging row

inductive Course (row : Row) (first second : Assignment) (met : Prop) : Stage → Stage → Row → Prop
  | before {one other : Stage} : one.Before row → other.Before row → Course row first second met one other row
  | between {result : Except Fault Outcome} {other : Stage} : other.Before (row.write first) →
    Course row first second met (ended result) other (row.write first)
  | overtaken {result : Except Fault Outcome} : met →
    Course row first second met (ended result) (merging row) (row.write first)
  | inOrder {result result' : Except Fault Outcome} :
    Course row first second met (ended result) (ended result') ((row.write first).write second)
  | overlapped {result result' : Except Fault Outcome} : met →
    Course row first second met (ended result) (ended result') ((row.write first).write (second.differing row))

namespace Course

variable {first second : Assignment} {met met' : Prop} {one other : Stage}

theorem turn_first (course : Course row first second met one other now) (formed : row.WellFormed)
    (proper : first.Proper row.kind) (meets : one = merging row → other = merging row → met') (kept : met → met')
    (turn : Turn first now one next later) : Course row first second met' next other later := by
  cases course with
  | before before before' =>
    rcases before with rfl | rfl
    · cases turn
      exact .before (.inr rfl) before'
    · cases turn
      have written : row.write (first.differing row) = row.write first := formed.write_differing proper
      rw [written]
      rcases before' with rfl | rfl
      · exact .between (.inl rfl)
      · exact .overtaken (meets rfl rfl)
  | between before' =>
    cases turn
    exact .between before'
  | overtaken met =>
    cases turn
    exact .overtaken (kept met)
  | inOrder =>
    cases turn
    exact .inOrder
  | overlapped met =>
    cases turn
    exact .overlapped (kept met)

theorem turn_second (course : Course row first second met one other now) (formed : row.WellFormed)
    (firstProper : first.Proper row.kind) (proper : second.Proper row.kind)
    (meets : one = merging row → other = merging row → met') (kept : met → met')
    (turn : Turn second now other next later) :
    Course row first second met' one next later ∨ Course row second first met' next one later := by
  cases course with
  | before before before' =>
    -- The second client may be the first to write.
    have course : Course row second first met other one row := .before before' before
    exact .inr (course.turn_first formed proper (fun seen seen' => meets seen' seen) kept turn)
  | between before =>
    left
    rcases before with rfl | rfl
    · cases turn
      exact .between (.inr rfl)
    · cases turn
      have written : (row.write first).write (second.differing (row.write first)) = (row.write first).write second :=
        (formed.write firstProper).write_differing proper
      rw [written]
      exact .inOrder
  | overtaken met =>
    cases turn
    exact .inl (.overlapped (kept met))
  | inOrder =>
    cases turn
    exact .inl .inOrder
  | overlapped met =>
    cases turn
    exact .inl (.overlapped (kept met))

theorem direct (course : Course row first second met one other now) (formed : row.WellFormed) (sized : row.Sized)
    (proper : first.Proper row.kind) (fits : first.fits = true) :
    now.id = row.id ∧ one.Direct row.kind row.id ∧ other.Direct row.kind row.id := by
  have seen {stage : Stage} (before : stage.Before row) : stage.Direct row.kind row.id := by
    rcases before with rfl | rfl
    · exact .looking
    · exact .merging formed sized rfl rfl
  have seen' {stage : Stage} (before : stage.Before (row.write first)) : stage.Direct row.kind row.id := by
    rcases before with rfl | rfl
    · exact .looking
    · exact .merging (formed.write proper) (sized.write fits) rfl rfl
  cases course with
  | before before before' => exact ⟨rfl, seen before, seen before'⟩
  | between before => exact ⟨rfl, .ended _, seen' before⟩
  | overtaken met => exact ⟨rfl, .ended _, seen (.inr rfl)⟩
  | inOrder | overlapped => exact ⟨rfl, .ended _, .ended _⟩

end Course

def Stage.turnsLeft : Stage → Nat
  | looking => 2
  | merging _ => 1
  | _ => 0

theorem Stage.Direct.ended_of_turnsLeft {kind : Kind} {id : Int} (direct : stage.Direct kind id)
    (left : stage.turnsLeft = 0) : ∃ result, stage = Stage.ended result := by
  cases direct with
  | ended result => exact ⟨result, rfl⟩
  | _ => cases left

theorem Turn.turnsLeft {supplied : Assignment} (turn : Turn supplied now stage next later) :
    next.turnsLeft = stage.turnsLeft - 1 := by
  cases turn <;> rfl

theorem Course.ended {first second : Assignment} {met : Prop} {one other : Stage}
    (course : Course row first second met one other now) (left : one.turnsLeft = 0) (left' : other.turnsLeft = 0) :
    now = (row.write first).write second ∨ met ∧ now = (row.write first).write (second.differing row) := by
  cases course with
  | before before before' => rcases before with rfl | rfl <;> cases left
  | between before => rcases before with rfl | rfl <;> cases left'
  | overtaken met => cases left'
  | inOrder => exact .inl rfl
  | overlapped met => exact .inr ⟨met, rfl⟩

end Upsert

open Upsert

theorem Database.after_lands {database : Database} {c : Candidate} {row : Row} (tables : database.tables = true)
    (formed : database.store.WellFormed) (proper : c.Proper) (kind : c.kind = row.kind) (key : c.key = row.key)
    (merges : row.kind ≠ .link) (member : row ∈ database.store.rows) (sized : row.Sized) :
    (database.after c).tables = true ∧ (database.after c).store.WellFormed ∧
      row.write (c.landing row.id) ∈ (database.after c).store.rows := by
  have ready : Session.Ready { database, enforced := true } := ⟨rfl, rfl, tables⟩
  have merges' : c.kind ≠ .link := kind ▸ merges
  have formed' := formed.rows row member
  have found := formed.lookup? member
  rw [← kind, ← key] at found
  have written := Candidate.write_landing formed' sized proper row
  have all : row.write ((c.landing row.id).differing row) = row.write (c.landing row.id) :=
    formed'.write_differing (kind ▸ Candidate.landing_proper proper row.id)
  have plain := formed.plain row member
  obtain ⟨cache, run⟩ := run_known ready formed (key ▸ plain.fits_key merges) merges' found
  rw [all] at written
  rw [Database.after, run, written]
  by_cases same : c.changes row = []
  · rw [perform_merge_same row same, same, Row.write_nil, ite_self]
    exact ⟨tables, formed, member⟩
  · rw [perform_merge (ready.seen cache) same]
    cases misfit : (c.revision row).misfit? with
    | none =>
      have fits := Revision.fits_iff.mpr misfit
      rw [if_pos fits]
      exact ⟨tables, formed.update (proper.filter _) (.of_fits (Revision.fits_changes fits)) _,
        (Store.mem_of_lookup? (Store.lookup?_update found)).1⟩
    | some m =>
      rw [if_neg (by simp [Revision.fits_iff, misfit])]
      exact ⟨tables, formed, member⟩

theorem Database.lookup?_after_after {database : Database} {first second : Candidate} {row : Row}
    (tables : database.tables = true) (formed : database.store.WellFormed) (proper : first.Proper)
    (proper' : second.Proper) (same : first.kind = row.kind ∧ first.key = row.key)
    (same' : second.kind = row.kind ∧ second.key = row.key) (merges : row.kind ≠ .link)
    (member : row ∈ database.store.rows) (sized : row.Sized) :
    ((database.after first).after second).store.lookup? row.kind row.key =
      some ((row.write (first.landing row.id)).write (second.landing row.id)) := by
  obtain ⟨tables', formed', member'⟩ := after_lands tables formed proper same.1 same.2 merges member sized
  have kind : second.kind = (row.write (first.landing row.id)).kind := same'.1
  have sized' := sized.write (Candidate.landing_fits first row.id)
  obtain ⟨-, formed'', member''⟩ := after_lands tables' formed' proper' kind same'.2 merges member' sized'
  exact formed''.lookup? member''

namespace Race

variable {race : Race 2} {row : Row} {met met' : Prop}

/-- Two clients on their way to merge into a row, which nobody else writes. -/
structure Merging (race : Race 2) (row : Row) (met : Prop) : Prop where
  valid : race.Valid
  offered : ∀ i, (race.candidate i).kind = row.kind ∧ (race.candidate i).key = row.key
  merges : row.kind ≠ .link
  formed : row.WellFormed
  plain : row.Plain
  sized : row.Sized
  course : ∃ now i j, i ≠ j ∧ race.store.lookup? row.kind row.key = some now ∧
    Course row ((race.candidate i).landing row.id) ((race.candidate j).landing row.id) met (race.stage i) (race.stage j) now

namespace Merging

theorem landing_proper (merging : race.Merging row met) (i : Fin 2) :
    ((race.candidate i).landing row.id).Proper row.kind :=
  (merging.offered i).1 ▸ Candidate.landing_proper (merging.valid.proper i) row.id

theorem insertion (merging : race.Merging row met) (meets : (∀ i, race.stage i = .merging row) → met')
    (kept : met → met') (k : Fin 2) : (race.move (.insertion k)).Merging row met' ∧
      ((race.move (.insertion k)).stage k).turnsLeft = (race.stage k).turnsLeft - 1 := by
  obtain ⟨moves, valid⟩ := merging.valid.insertion k
  obtain ⟨now, i, j, differ, found, course⟩ := merging.course
  obtain ⟨id, direct, direct'⟩ := course.direct merging.formed merging.sized (merging.landing_proper i)
    (Candidate.landing_fits _ _)
  have only : ∀ i j : Fin 2, i ≠ j → ∀ k, k = i ∨ k = j := by decide
  have meets' (one : race.stage i = .merging row) (other : race.stage j = .merging row) : met' :=
    meets fun k => by rcases only i j differ k with rfl | rfl <;> assumption
  have turn (direct : (race.stage k).Direct row.kind row.id) : ∃ later,
      (race.move (.insertion k)).store.lookup? row.kind row.key = some later ∧
      Turn ((race.candidate k).landing row.id) now (race.stage k) ((race.move (.insertion k)).stage k) later := by
    obtain ⟨kind, key⟩ := merging.offered k
    have fits := key ▸ merging.plain.fits_key merging.merges
    rw [← kind, ← key] at found ⊢
    rw [← id] at direct ⊢
    exact moves.turn (merging.valid.proper k) fits (kind ▸ merging.merges) found (kind ▸ direct)
  have next (later : Row) (found' : (race.move (.insertion k)).store.lookup? row.kind row.key = some later)
      (course' : ∃ i j, i ≠ j ∧ Course row ((race.candidate i).landing row.id) ((race.candidate j).landing row.id) met'
        ((race.move (.insertion k)).stage i) ((race.move (.insertion k)).stage j) later) :
      (race.move (.insertion k)).Merging row met' := by
    obtain ⟨i, j, differ, course'⟩ := course'
    exact ⟨valid, by simpa using merging.offered, merging.merges, merging.formed, merging.plain, merging.sized,
      later, i, j, differ, found', by simpa using course'⟩
  -- Which client comes first in the course is only settled when one of them writes, so it may change here.
  rcases only i j differ k with rfl | rfl
  · obtain ⟨later, found', turn⟩ := turn direct
    refine ⟨next later found' ⟨k, j, differ, ?_⟩, turn.turnsLeft⟩
    rw [stage_insertion_of_ne race (Ne.symm differ)]
    exact course.turn_first merging.formed (merging.landing_proper k) meets' kept turn
  · obtain ⟨later, found', turn⟩ := turn direct'
    refine ⟨next later found' ?_, turn.turnsLeft⟩
    rcases course.turn_second merging.formed (merging.landing_proper i) (merging.landing_proper k) meets' kept turn with
      course' | course'
    · exact ⟨i, k, differ, by rwa [stage_insertion_of_ne race differ]⟩
    · exact ⟨k, i, differ.symm, by rwa [stage_insertion_of_ne race differ]⟩

/-- Both clients have seen the row before one of them writes. -/
def Meets (race : Race 2) (row : Row) (turns : List (Fin 2)) : Prop :=
  ∃ early, early <+: turns ∧ ∀ i, (race.run (early.map .insertion)).stage i = .merging row

theorem run (begun : ∀ met, race.Merging row met) (turns : List (Fin 2)) :
    (race.run (turns.map .insertion)).Merging row (Meets race row turns) ∧
    ∀ k, ((race.run (turns.map .insertion)).stage k).turnsLeft = (race.stage k).turnsLeft - turns.count k := by
  -- What counts as met depends on the turns so far, hence the induction from the last turn.
  induction turns using List.reverseRecOn with
  | nil => exact ⟨begun _, fun k => rfl⟩
  | append_singleton turns i ih =>
    obtain ⟨merging, left⟩ := ih
    have meets (seen : ∀ k, (race.run (turns.map .insertion)).stage k = .merging row) :
        Meets race row (turns ++ [i]) := ⟨turns, List.prefix_append _ _, seen⟩
    have kept (met : Meets race row turns) : Meets race row (turns ++ [i]) := by
      obtain ⟨early, within, seen⟩ := met
      exact ⟨early, within.trans (List.prefix_append _ _), seen⟩
    obtain ⟨merging', taken⟩ := merging.insertion meets kept i
    rw [List.map_append, run_append]
    refine ⟨merging', fun k => ?_⟩
    by_cases mine : k = i
    · subst mine
      refine taken.trans ?_
      rw [left, List.count_append, List.count_singleton_self]
      omega
    · refine (congrArg Stage.turnsLeft (stage_insertion_of_ne _ mine)).trans ?_
      rw [left, List.count_append, List.count_singleton, if_neg (by simpa using Ne.symm mine), Nat.add_zero]

end Merging

variable {s : Session} {offered : Fin 2 → Candidate}

theorem merging_start (reached : s.Reachable) (tables : s.database.tables = true)
    (accepted : ∀ i, ∃ data given, Submission.ofData data = .ok given ∧ given.candidate = offered i)
    (member : row ∈ s.database.store.rows) (merges : row.kind ≠ .link)
    (same : ∀ i, (offered i).kind = row.kind ∧ (offered i).key = row.key) (seen : Fin 2 → RowCache) (met : Prop) :
    (start s.database offered seen).Merging row met where
  valid := valid_start reached tables accepted seen
  offered := same
  merges := merges
  formed := reached.sound.committed.rows row member
  plain := reached.sound.committed.plain row member
  sized := reached.sized.committed row member
  course := ⟨row, 0, 1, by decide, reached.sound.committed.lookup? member, .before (.inl rfl) (.inl rfl)⟩

theorem order_of_ended (formed : row.WellFormed) {first second : Candidate} {last : Row}
    (proper : (first.landing row.id).Proper row.kind) (proper' : (second.landing row.id).Proper row.kind)
    (ended : last = (row.write (first.landing row.id)).write (second.landing row.id) ∨
      met ∧ last = (row.write (first.landing row.id)).write ((second.landing row.id).differing row)) :
    let one := (row.write (first.landing row.id)).write (second.landing row.id)
    let other := (row.write (second.landing row.id)).write (first.landing row.id)
    last.identity = row.identity ∧ last.unscoped = row.unscoped ∧
    (∀ a : Attribute, last.cell (.field a) = one.cell (.field a) ∨ last.cell (.field a) = other.cell (.field a)) ∧
    (last = one ∨ last = other ∨ met ∧ last = (row.write (first.changes row)).write (second.changes row) ∧
      row.Torn first.supplied second.supplied) := by
  intro one other
  rcases ended with rfl | ⟨met, rfl⟩
  · exact ⟨rfl, rfl, fun a => .inl rfl, .inl rfl⟩
  · refine ⟨rfl, rfl, formed.cell_overlap proper' _, ?_⟩
    -- A row that is torn got values from both, so that both candidates landed as a whole.
    by_cases torn : row.Torn (first.landing row.id) (second.landing row.id)
    · obtain ⟨a, cell, cell', given, given', -⟩ := torn.kept
      have all := Candidate.landing_eq_supplied given
      have all' := Candidate.landing_eq_supplied given'
      rw [all] at torn proper
      rw [all'] at torn
      have written : row.write (first.changes row) = row.write first.supplied := formed.write_differing proper
      rw [all, all', written]
      exact .inr (.inr ⟨met, rfl, torn⟩)
    · exact (formed.overlap_eq proper' proper torn).imp_right .inl

/-- Two clients insert what has the key of one stored row with attributes, and nobody else writes. Both end after
    two turns, and the row keeps its identity and scope. Each of its columns is the one that the insertions
    come to in one of the two orders, and so is the row as a whole, unless both clients see it before one of
    them writes and then the later one leaves a column to the earlier one that it would have kept, and
    overwrites another. -/
theorem merges_come_to_an_order (reached : s.Reachable) (tables : s.database.tables = true)
    (accepted : ∀ i, ∃ data given, Submission.ofData data = .ok given ∧ given.candidate = offered i)
    (member : row ∈ s.database.store.rows) (attributes : row.kind.attributes ≠ [])
    (same : ∀ i, (offered i).kind = row.kind ∧ (offered i).key = row.key) (seen : Fin 2 → RowCache)
    {turns : List (Fin 2)} (enough : ∀ i, 2 ≤ turns.count i) :
    let before := start s.database offered seen
    let after := before.run (turns.map .insertion)
    let inOrder := fun i j => ((s.database.after (offered i)).after (offered j)).store.lookup? row.kind row.key
    (∀ i, ∃ result, after.stage i = .ended result) ∧
    ∃ last one other, after.store.lookup? row.kind row.key = some last ∧
      inOrder 0 1 = some one ∧ inOrder 1 0 = some other ∧
      last.identity = row.identity ∧ last.unscoped = row.unscoped ∧
      (∀ a : Attribute, last.cell (.field a) = one.cell (.field a) ∨ last.cell (.field a) = other.cell (.field a)) ∧
      (last = one ∨ last = other ∨ Merging.Meets before row turns ∧ ∃ i j, i ≠ j ∧
        last = (row.write ((offered i).changes row)).write ((offered j).changes row) ∧
        row.Torn (offered i).supplied (offered j).supplied) := by
  intro before after inOrder
  have merges : row.kind ≠ .link := fun link => attributes (by rw [link]; rfl)
  have formed := reached.sound.committed.rows row member
  have sized := reached.sized.committed row member
  have begun := merging_start reached tables accepted member merges same seen
  have proper (i : Fin 2) : (offered i).Proper := (begun True).valid.proper i
  have landingProper (i : Fin 2) : ((offered i).landing row.id).Proper row.kind := (begun True).landing_proper i
  have serial (i j : Fin 2) : inOrder i j =
      some ((row.write ((offered i).landing row.id)).write ((offered j).landing row.id)) :=
    Database.lookup?_after_after tables reached.sound.committed (proper i) (proper j) (same i) (same j) merges member sized
  obtain ⟨merging, left⟩ := Merging.run begun turns
  obtain ⟨last, i, j, differ, found, course⟩ := merging.course
  have finished (k : Fin 2) : (after.stage k).turnsLeft = 0 := by
    have taken : (after.stage k).turnsLeft = 2 - turns.count k := left k
    have enough := enough k
    omega
  have candidates : after.candidate = offered := candidate_run before _
  have ended := course.ended (finished i) (finished j)
  rw [candidates] at ended
  obtain ⟨identity, unscoped, cells, whole⟩ := order_of_ended formed (landingProper i) (landingProper j) ended
  have orders : ∀ i j : Fin 2, i ≠ j → i = 0 ∧ j = 1 ∨ i = 1 ∧ j = 0 := by decide
  obtain ⟨-, direct, direct'⟩ := course.direct formed sized (merging.landing_proper i) (Candidate.landing_fits _ _)
  have done := direct.ended_of_turnsLeft (finished i)
  have done' := direct'.ended_of_turnsLeft (finished j)
  rcases orders i j differ with ⟨rfl, rfl⟩ | ⟨rfl, rfl⟩
  · exact ⟨Fin.forall_fin_two.mpr ⟨done, done'⟩, last, _, _, found, serial 0 1, serial 1 0, identity, unscoped, cells,
      whole.imp_right (.imp_right fun ⟨met, overlapped, torn⟩ => ⟨met, 0, 1, differ, overlapped, torn⟩)⟩
  · refine ⟨Fin.forall_fin_two.mpr ⟨done', done⟩, last, _, _, found, serial 0 1, serial 1 0, identity,
      unscoped, fun a => (cells a).symm, ?_⟩
    rcases whole with one | other | ⟨met, overlapped, torn⟩
    · exact .inr (.inl one)
    · exact .inl other
    · exact .inr (.inr ⟨met, 1, 0, differ, overlapped, torn⟩)

/-- Clients that supply different columns do not get in each other's way, even if both look before they write. -/
theorem merges_come_to_an_order_of_apart :
    let s := Session.inMemory.run [.insert (sighting [("country", .text "Australia"), ("city", .text "Sydney")])]
    let offered : Fin 2 → Candidate := ![⟨.address .v4 "1.1.1.1", [(.country, .text "New Zealand")]⟩,
      ⟨.address .v4 "1.1.1.1", [(.city, .text "Brisbane")]⟩]
    let after := (start s.database offered fun _ => {}).run ([0, 1, 0, 1].map .insertion)
    let inOrder := fun i j => ((s.database.after (offered i)).after (offered j)).store.lookup? .address (.value "1.1.1.1")
    after.store.lookup? .address (.value "1.1.1.1") = inOrder 0 1 ∨
      after.store.lookup? .address (.value "1.1.1.1") = inOrder 1 0 := by
  intro s offered after inOrder
  let row : Row := ⟨1, .address .v4 "1.1.1.1", [(.continent, .null), (.continentCode, .null),
    (.country, .text "Australia"), (.countryCode, .null), (.city, .text "Sydney"), (.longitude, .null),
    (.latitude, .null), (.asn, .null), (.asOrg, .null)], false⟩
  have first : Submission.ofData (sighting [("country", .text "New Zealand")]) = .ok ⟨offered 0, true⟩ :=
    eq_ok_of_toOption (by decide +kernel)
  have second : Submission.ofData (sighting [("city", .text "Brisbane")]) = .ok ⟨offered 1, true⟩ :=
    eq_ok_of_toOption (by decide +kernel)
  have accepted : ∀ i, ∃ data given, Submission.ofData data = .ok given ∧ given.candidate = offered i :=
    Fin.forall_fin_two.mpr ⟨⟨_, _, first, rfl⟩, ⟨_, _, second, rfl⟩⟩
  have reached : s.Reachable := .operation _ (.fresh .memory)
  have tables : s.database.tables = true := by decide +kernel
  have member : row ∈ s.database.store.rows := by decide +kernel
  have apart (a : Attribute) : ∀ i j : Fin 2, i ≠ j →
      (offered i).supplied.get? a = none ∨ (offered j).supplied.get? a = none := by
    cases a <;> decide
  have enough : ∀ i : Fin 2, 2 ≤ [0, 1, 0, 1].count i := by decide
  obtain ⟨-, last, one, other, found, order, order', -, -, -, whole⟩ :=
    merges_come_to_an_order reached tables accepted member (by decide) (by decide) (fun _ => {}) enough
  rcases whole with rfl | rfl | ⟨-, i, j, differ, -, torn⟩
  · exact .inl (found.trans order.symm)
  · exact .inr (found.trans order'.symm)
  · obtain ⟨a, cell, cell', given, given', -⟩ := torn.kept
    rcases apart a i j differ with absent | absent
    · simp [absent] at given
    · simp [absent] at given'

/-- Clients that look at the row before either writes can tear it: the one keeps the country that the other
    changes, and the other keeps the city. -/
theorem merges_can_tear_a_row :
    let s := Session.inMemory.run [.insert (sighting [("country", .text "Australia"), ("city", .text "Sydney")])]
    let offered : Fin 2 → Candidate := ![
      ⟨.address .v4 "1.1.1.1", [(.country, .text "Australia"), (.city, .text "Brisbane")]⟩,
      ⟨.address .v4 "1.1.1.1", [(.country, .text "New Zealand"), (.city, .text "Sydney")]⟩]
    let after := (start s.database offered fun _ => {}).run ([0, 1, 0, 1].map .insertion)
    let inOrder := fun i j => ((s.database.after (offered i)).after (offered j)).store
    let places := fun tables : Store => tables.rows.map fun row => (row.cell (.field .city), row.cell (.field .country))
    Submission.ofData (sighting [("country", .text "Australia"), ("city", .text "Brisbane")]) = .ok ⟨offered 0, true⟩ ∧
    Submission.ofData (sighting [("country", .text "New Zealand"), ("city", .text "Sydney")]) = .ok ⟨offered 1, true⟩ ∧
    s.database.store.rows.map Row.identity = [(1, (offered 0).subject)] ∧
    (after.stage 0).remaining = 0 ∧ (after.stage 1).remaining = 0 ∧
    places after.store = [(.text "Brisbane", .text "New Zealand")] ∧
    places (inOrder 0 1) = [(.text "Sydney", .text "New Zealand")] ∧
    places (inOrder 1 0) = [(.text "Brisbane", .text "Australia")] ∧
    after.store ≠ inOrder 0 1 ∧ after.store ≠ inOrder 1 0 := by
  intro s offered after inOrder places
  exact ⟨eq_ok_of_toOption (by decide +kernel), eq_ok_of_toOption (by decide +kernel), by decide +kernel,
    by decide +kernel, by decide +kernel, by decide +kernel, by decide +kernel, by decide +kernel,
    by decide +kernel, by decide +kernel⟩

end Race
end Footprint
