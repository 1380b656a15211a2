import Footprint.Proofs.Race.Basic
import Footprint.Proofs.Workspace.Sized
import Mathlib.Algebra.BigOperators.Group.Finset.Basic
import Mathlib.Data.Fin.VecNotation
import Mathlib.Data.Fintype.BigOperators

namespace Footprint

namespace Store

variable {store : Store} {kind : Kind} {key : Key}

theorem lookup?_of_rejected {c : Candidate} (rejected : store.insert? c = none)
    (parents : store.parentsStored c.subject = true) : ∃ row, store.lookup? c.kind c.key = some row := by
  cases found : store.lookup? c.kind c.key with
  | some row => exact ⟨row, rfl⟩
  | none =>
    rw [insert?_of_absent found parents] at rejected
    cases rejected

def count (store : Store) (kind : Kind) (key : Key) : Nat :=
  store.rows.countP fun row => row.kind == kind && row.key == key

theorem count_modify {affected : Row → Bool} {change : Row → Row} (keeps : ∀ row, (change row).identity = row.identity) :
    (store.modify affected change).count kind key = store.count kind key := by
  simp only [count, modify, List.countP_map]
  refine List.countP_congr fun row _ => ?_
  have identity : Row.identity (if affected row then change row else row) = row.identity := identity_change keeps row
  simp only [Function.comp_apply, (Row.kind_and_id_of_identity identity).1, Row.key_of_identity identity]

theorem WellFormed.count_eq (formed : store.WellFormed) (kind : Kind) (key : Key) :
    store.count kind key = (store.lookup? kind key).toList.length := by
  rw [← formed.filter_key, count, List.countP_eq_length_filter, table, List.filter_filter]
  refine congrArg List.length (List.filter_congr fun row _ => ?_)
  rw [Bool.and_comm]

end Store

namespace Upsert

variable {c : Candidate} {store tables : Store} {stage next : Stage}

namespace Stage

def Backed (c : Candidate) (store : Store) : Stage → Prop
  | looking | storing => True
  | checking | rereading | resolving => ∃ row, store.lookup? c.kind c.key = some row
  | merging seen => ∃ row, store.lookup? c.kind c.key = some row ∧ row.id = seen.id
  | ended (.ok (_, id)) => ∃ row, store.lookup? c.kind c.key = some row ∧ row.id = id
  | ended (.error fault) => c.fits = false ∧ ∃ m, fault = .misfit m

def slots : Stage → Nat
  | looking | storing => 1
  | _ => 0

def stores : Stage → Stage → Bool
  | storing, resolving => true
  | _, _ => false

theorem Backed.grows (backed : stage.Backed c store) (grows : store.Grows tables) (formed : tables.WellFormed) :
    stage.Backed c tables := by
  cases stage with
  | looking | storing => trivial
  | checking | rereading | resolving =>
    obtain ⟨row, found⟩ := backed
    obtain ⟨row', found', -⟩ := grows.lookup? formed found
    exact ⟨row', found'⟩
  | merging seen =>
    obtain ⟨row, found, id⟩ := backed
    obtain ⟨row', found', id'⟩ := grows.lookup? formed found
    exact ⟨row', found', id'.trans id⟩
  | ended result =>
    cases result with
    | ok outcome =>
      obtain ⟨row, found, id⟩ := backed
      obtain ⟨row', found', id'⟩ := grows.lookup? formed found
      exact ⟨row', found', id'.trans id⟩
    | error fault => exact backed

theorem backed_known {row : Row} (found : store.lookup? c.kind c.key = some row) : (known c row).Backed c store := by
  unfold known
  split <;> exact ⟨row, found, rfl⟩

theorem slots_known (row : Row) : (known c row).slots = 0 := by
  unfold known
  split <;> rfl

end Stage

namespace Moves

theorem backed (moves : Moves c store stage next tables) (parents : store.parentsStored c.subject = true)
    (ids : store.IdsFit) (backed : stage.Backed c store) : next.Backed c tables := by
  cases moves with
  | unaskable misfit => exact ⟨Candidate.unfit_of_key misfit, _, rfl⟩
  | found asked found => exact Stage.backed_known found
  | unknown => trivial
  | unstorable misfit => exact ⟨by simp [Candidate.fits, misfit], _, rfl⟩
  | stored fits inserted => exact ⟨_, Store.lookup?_insert inserted⟩
  | rejected fits rejected => exact Store.lookup?_of_rejected rejected parents
  | taken found => exact ⟨_, found⟩
  | refused absent =>
    obtain ⟨row, found⟩ := backed
    simp [absent] at found
  | reread found => exact Stage.backed_known found
  | gone absent =>
    obtain ⟨row, found⟩ := backed
    simp [absent] at found
  | same same => exact backed
  | merged differ whole =>
    obtain ⟨row, found, id⟩ := backed
    rw [← id]
    exact ⟨_, Store.lookup?_update found, rfl⟩
  | unwritable differ misfit =>
    obtain ⟨row, found, id⟩ := backed
    exact ⟨Candidate.unfit_of_revision (id ▸ ids row (Store.mem_of_lookup? found).1) misfit, _, rfl⟩
  | resolved found => exact ⟨_, found, rfl⟩
  | unresolved absent =>
    obtain ⟨row, found⟩ := backed
    simp [absent] at found
  | idle result => exact backed

theorem sized (moves : Moves c store stage next tables) (sized : store.Sized) : tables.Sized := by
  cases moves with
  | stored fits inserted => exact sized.insert fits inserted
  | merged differ fits => exact sized.writes (.update _ _ (Revision.fits_changes fits))
  | _ => exact sized

theorem nextId_le (moves : Moves c store stage next tables) (kind : Kind) :
    tables.nextId kind + next.slots ≤ store.nextId kind + stage.slots := by
  cases moves with
  | stored fits inserted =>
    -- The only statement that takes an id also gives up the row that it might make.
    change tables.nextId kind + 0 ≤ store.nextId kind + 1
    rw [Int.add_zero]
    exact Store.nextId_insert_le inserted kind
  | merged differ fits => exact Int.add_le_add_right (Store.nextId_modify_le (Row.identity_write _) kind) 0
  | found | reread =>
    rw [Stage.slots_known]
    simp
  | _ => simp [Stage.slots]

theorem count (moves : Moves c store stage next tables) (kind : Kind) (key : Key) : tables.count kind key =
    store.count kind key + if stage.stores next && (c.kind == kind && c.key == key) then 1 else 0 := by
  cases moves with
  | stored fits inserted =>
    obtain ⟨-, -, rfl⟩ := Store.insert?_eq_some_iff.mp inserted
    simp only [Store.count, List.countP_append, List.countP_singleton]
    rfl
  | merged differ fits => exact Store.count_modify fun _ => rfl
  | _ => rfl

end Moves
end Upsert

namespace Race

variable {n : Nat} {race : Race n}

def slots (race : Race n) : Nat := ∑ i, (race.stage i).slots

/-- The clients whose insertions made a row, in the order in which they did. -/
def storers (race : Race n) : List (Fin n) → List (Fin n)
  | [] => []
  | i :: rest =>
    let next := race.move (.insertion i)
    if (race.stage i).stores (next.stage i) then i :: next.storers rest else next.storers rest

theorem slots_insertion (race : Race n) (i : Fin n) :
    (race.move (.insertion i)).slots + (race.stage i).slots = race.slots + ((race.move (.insertion i)).stage i).slots := by
  have others : ∑ j ∈ Finset.univ.erase i, ((race.move (.insertion i)).stage j).slots =
      ∑ j ∈ Finset.univ.erase i, (race.stage j).slots :=
    Finset.sum_congr rfl fun j member => by rw [stage_insertion_of_ne race (Finset.ne_of_mem_erase member)]
  have before := Finset.add_sum_erase Finset.univ (fun j => (race.stage j).slots) (Finset.mem_univ i)
  have after := Finset.add_sum_erase Finset.univ (fun j => ((race.move (.insertion i)).stage j).slots) (Finset.mem_univ i)
  simp only [slots, ← before, ← after, others]
  omega

structure Safe (race : Race n) : Prop where
  valid : race.Valid
  sized : race.store.Sized
  parents : ∀ i, race.store.parentsStored (race.candidate i).subject = true
  /-- There are ids for all rows that may still be made. -/
  room : ∀ kind, race.store.nextId kind + race.slots ≤ Word.bound
  backed : ∀ i, (race.stage i).Backed (race.candidate i) race.store

namespace Safe

theorem ids (safe : race.Safe) : race.store.IdsFit :=
  safe.sized.idsFit fun kind => by
    have room := safe.room kind
    omega

theorem insertion (safe : race.Safe) (i : Fin n) : (race.move (.insertion i)).Safe := by
  obtain ⟨moves, valid⟩ := safe.valid.insertion i
  refine ⟨valid, moves.sized safe.sized, fun j => ?_, fun kind => ?_, fun j => ?_⟩
  · rw [candidate_move]
    exact moves.grows.parentsStored (safe.parents j)
  · -- The id that was taken belongs to a row that may no longer be made.
    have taken := moves.nextId_le kind
    have balance := slots_insertion race i
    have room := safe.room kind
    omega
  · rw [candidate_move]
    by_cases mine : j = i
    · subst mine
      exact moves.backed (safe.parents j) safe.ids (safe.backed j)
    · rw [stage_insertion_of_ne race mine]
      exact (safe.backed j).grows moves.grows valid.formed

theorem run (safe : race.Safe) (turns : List (Fin n)) : (race.run (turns.map .insertion)).Safe := by
  induction turns generalizing race with
  | nil => exact safe
  | cons i rest ih => exact ih (safe.insertion i)

theorem unfit_of_failed (safe : race.Safe) {i : Fin n} {fault : Fault}
    (failed : race.stage i = .ended (.error fault)) : (race.candidate i).fits = false ∧ ∃ m, fault = .misfit m := by
  have backed := safe.backed i
  rwa [failed] at backed

theorem stored (safe : race.Safe) {i : Fin n} {outcome : Outcome} (done : race.stage i = .ended (.ok outcome)) :
    ∃ row, race.store.lookup? (race.candidate i).kind (race.candidate i).key = some row ∧ row.id = outcome.2 := by
  have backed := safe.backed i
  rwa [done] at backed

end Safe

theorem count_run (valid : race.Valid) (turns : List (Fin n)) (kind : Kind) (key : Key) :
    (race.run (turns.map .insertion)).store.count kind key = race.store.count kind key +
      (race.storers turns).countP fun i => (race.candidate i).kind == kind && (race.candidate i).key == key := by
  induction turns generalizing race with
  | nil => rfl
  | cons i rest ih =>
    obtain ⟨moves, valid'⟩ := valid.insertion i
    have later := ih valid'
    rw [candidate_move] at later
    refine later.trans ?_
    rw [moves.count, storers]
    cases (race.stage i).stores ((race.move (.insertion i)).stage i) with
    | false => simp
    | true =>
      simp only [if_true, Bool.true_and, List.countP_cons]
      omega

variable {s : Session} {offered : Fin n → Candidate}

theorem safe_start (reached : s.Reachable) (tables : s.database.tables = true)
    (accepted : ∀ i, ∃ data given, Submission.ofData data = .ok given ∧ given.candidate = offered i)
    (parents : ∀ i, s.database.store.parentsStored (offered i).subject = true)
    (room : ∀ kind, s.database.store.nextId kind + n ≤ Word.bound) (seen : Fin n → RowCache) :
    (start s.database offered seen).Safe where
  valid := valid_start reached tables accepted seen
  sized := reached.sized.committed
  parents := parents
  room kind := by
    have slots : (start s.database offered seen).slots = n := by simp [Race.slots, start, stage, Upsert.Stage.slots]
    rw [slots]
    exact room kind
  backed _ := trivial

/-- Any number of clients insert at the same time what has its parents there, while no row is removed and there are ids
    enough. None of them fails but for a value of its own that a database does not take, and five turns are enough
    for each. Those that offer the same key come to the same id, which is that of the only row with the key, and if
    the row was not there before, exactly one of them has made it. -/
theorem insertions_come_to_one_row (reached : s.Reachable) (tables : s.database.tables = true)
    (accepted : ∀ i, ∃ data given, Submission.ofData data = .ok given ∧ given.candidate = offered i)
    (parents : ∀ i, s.database.store.parentsStored (offered i).subject = true)
    (room : ∀ kind, s.database.store.nextId kind + n ≤ Word.bound) (seen : Fin n → RowCache) (turns : List (Fin n)) :
    let before := start s.database offered seen
    let after := before.run (turns.map .insertion)
    let sameKey := fun i j => (offered j).kind == (offered i).kind && (offered j).key == (offered i).key
    (∀ i fault, after.stage i = .ended (.error fault) → (offered i).fits = false ∧ ∃ m, fault = .misfit m) ∧
    (∀ i, (offered i).fits = true → 5 ≤ turns.count i → ∃ changed row, after.stage i = .ended (.ok (changed, row.id)) ∧
      (after.store.table (offered i).kind).filter (·.key == (offered i).key) = [row]) ∧
    (∀ i j, sameKey i j = true → ∀ outcome outcome', after.stage i = .ended (.ok outcome) →
      after.stage j = .ended (.ok outcome') → outcome.2 = outcome'.2) ∧
    ∀ i, (offered i).fits = true → 5 ≤ turns.count i → (before.storers turns).countP (sameKey i) =
      if (s.database.store.lookup? (offered i).kind (offered i).key).isSome then 0 else 1 := by
  intro before after sameKey
  have start := safe_start reached tables accepted parents room seen
  have safe : after.Safe := start.run turns
  have candidates : after.candidate = offered := candidate_run before _
  have stored (i : Fin n) (outcome : Outcome) (done : after.stage i = .ended (.ok outcome)) :
      ∃ row, after.store.lookup? (offered i).kind (offered i).key = some row ∧ row.id = outcome.2 :=
    candidates ▸ safe.stored done
  have unfit (i : Fin n) (fault : Fault) (failed : after.stage i = .ended (.error fault)) :
      (offered i).fits = false ∧ ∃ m, fault = .misfit m := candidates ▸ safe.unfit_of_failed failed
  have finished (i : Fin n) (fits : (offered i).fits = true) (enough : 5 ≤ turns.count i) :
      ∃ outcome, after.stage i = .ended (.ok outcome) := by
    obtain ⟨result, ended⟩ := ended_of_turns ((Move.countP_isTurnOf turns i).symm ▸ enough)
    cases result with
    | ok outcome => exact ⟨outcome, ended⟩
    | error fault => cases fits.symm.trans (unfit i fault ended).1
  refine ⟨unfit, fun i fits enough => ?_, fun i j same outcome outcome' done done' => ?_, fun i fits enough => ?_⟩
  · obtain ⟨⟨changed, id⟩, done⟩ := finished i fits enough
    obtain ⟨row, found, rfl⟩ := stored i _ done
    refine ⟨changed, row, done, ?_⟩
    rw [safe.valid.formed.filter_key, found]
    rfl
  · obtain ⟨row, found, id⟩ := stored i _ done
    obtain ⟨row', found', id'⟩ := stored j _ done'
    simp only [sameKey, Bool.and_eq_true, beq_iff_eq] at same
    rw [same.1, same.2, found] at found'
    cases found'
    exact id.symm.trans id'
  · obtain ⟨outcome, done⟩ := finished i fits enough
    obtain ⟨row, found, -⟩ := stored i _ done
    have count := count_run start.valid turns (offered i).kind (offered i).key
    rw [safe.valid.formed.count_eq, start.valid.formed.count_eq, found] at count
    cases known : s.database.store.lookup? (offered i).kind (offered i).key <;>
      simp_all [sameKey, before, Race.start, store, candidate]

/-- Of two clients that both see no row with their key, one makes it and the other merges into it. -/
theorem insertions_come_to_one_row_of_two :
    let offered : Fin 2 → Candidate :=
      ![⟨.address .v4 "1.1.1.1", [(.city, .text "Sydney")]⟩, ⟨.address .v4 "1.1.1.1", [(.country, .text "Australia")]⟩]
    let before := start Session.inMemory.database offered fun _ => {}
    let turns : List (Fin 2) := [0, 1, 0, 1, 0, 1, 1, 1, 0, 0]
    let after := before.run (turns.map .insertion)
    Submission.ofData (sighting [("city", .text "Sydney")]) = .ok ⟨offered 0, true⟩ ∧
    Submission.ofData (sighting [("country", .text "Australia")]) = .ok ⟨offered 1, true⟩ ∧
    (∀ i fault, after.stage i ≠ .ended (.error fault)) ∧
    (∃ row, (after.store.table .address).filter (·.key == .value "1.1.1.1") = [row]) ∧
    (after.store.rows.map fun row => (row.cell (.field .city), row.cell (.field .country))) =
      [(.text "Sydney", .text "Australia")] ∧
    (before.storers turns).length = 1 := by
  intro offered before turns after
  have first : Submission.ofData (sighting [("city", .text "Sydney")]) = .ok ⟨offered 0, true⟩ :=
    eq_ok_of_toOption (by decide +kernel)
  have second : Submission.ofData (sighting [("country", .text "Australia")]) = .ok ⟨offered 1, true⟩ :=
    eq_ok_of_toOption (by decide +kernel)
  have accepted : ∀ i, ∃ data given, Submission.ofData data = .ok given ∧ given.candidate = offered i :=
    Fin.forall_fin_two.mpr ⟨⟨_, _, first, rfl⟩, ⟨_, _, second, rfl⟩⟩
  have fits : ∀ i, (offered i).fits = true := by decide +kernel
  obtain ⟨failures, finished, -, made⟩ := insertions_come_to_one_row (.fresh .memory) rfl accepted
    (by decide +kernel) (fun kind => by cases kind <;> decide +kernel) (fun _ => {}) turns
  obtain ⟨changed, row, -, only⟩ := finished 0 (fits 0) (by decide)
  have one := made 0 (fits 0) (by decide)
  have both : (fun j => (offered j).kind == (offered 0).kind && (offered j).key == (offered 0).key) = fun _ => true := by
    decide +kernel
  simp only [both, List.countP_true] at one
  have unfailing (i : Fin 2) (fault : Fault) : after.stage i ≠ .ended (.error fault) := fun failed =>
    absurd ((failures i fault failed).1.symm.trans (fits i)) Bool.false_ne_true
  exact ⟨first, second, unfailing, ⟨row, only⟩, by decide +kernel, one⟩

end Race
end Footprint
