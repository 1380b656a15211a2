import Footprint.Proofs.Race.Basic
import Footprint.Proofs.Workspace.Sized
import Mathlib.Data.Fin.VecNotation

namespace Footprint

namespace Upsert

variable {c : Candidate} {store tables : Store} {stage next : Stage}

namespace Stage

/-- The id of a row to merge into can be written, and a failure is a fault of the storage layer's own or
    that of a row which is gone, if the tables can hold the candidate. -/
def Guarded (c : Candidate) : Stage → Prop
  | merging seen => Word.holds seen.id = true
  | ended (.error fault) => fault.isOwn = true ∨ fault = .vanished c.kind ∨ c.fits = false ∧ ∃ m, fault = .misfit m
  | _ => True

theorem guarded_known {row : Row} (holds : Word.holds row.id = true) : (known c row).Guarded c := by
  unfold known
  split
  · trivial
  · exact holds

theorem guarded_lost (c : Candidate) : Guarded c (ended (.error (lost c))) := by
  unfold lost
  split
  · exact .inl rfl
  · exact .inr (.inl rfl)

theorem known_ne_error (row : Row) (fault : Fault) : known c row ≠ ended (.error fault) := by
  unfold known
  split <;> simp

theorem lost_ne_misfit (c : Candidate) (m : Misfit) : lost c ≠ .misfit m := by
  unfold lost
  split <;> simp

end Stage

namespace Moves

theorem guarded (moves : Moves c store stage next tables) (ids : store.IdsFit) (guarded : stage.Guarded c) :
    next.Guarded c := by
  cases moves with
  | unaskable misfit => exact .inr (.inr ⟨Candidate.unfit_of_key misfit, _, rfl⟩)
  | found asked found => exact Stage.guarded_known (ids _ (Store.mem_of_lookup? found).1)
  | reread found => exact Stage.guarded_known (ids _ (Store.mem_of_lookup? found).1)
  | unstorable misfit => exact .inr (.inr ⟨by simp [Candidate.fits, misfit], _, rfl⟩)
  | refused absent | unresolved absent => exact .inl rfl
  | gone absent => exact Stage.guarded_lost c
  | unwritable differ misfit => exact .inr (.inr ⟨Candidate.unfit_of_revision guarded misfit, _, rfl⟩)
  | idle result => exact guarded
  | _ => trivial

theorem vanishes (moves : Moves c store stage next tables) :
    next = .ended (.error (.vanished c.kind)) ↔ stage = .ended (.error (.vanished c.kind)) ∨
      stage = .rereading ∧ c.kind ≠ .link ∧ store.lookup? c.kind c.key = none := by
  cases moves with
  | found asked found => simp [Stage.known_ne_error]
  | reread found => simp [Stage.known_ne_error, found]
  | gone absent =>
    by_cases link : c.kind = .link <;> simp [Stage.lost, link, absent]
  | _ => simp

theorem misfits (moves : Moves c store stage next tables) (m : Misfit) :
    next = .ended (.error (.misfit m)) ↔ stage = .ended (.error (.misfit m)) ∨ stage.Misfits c m := by
  cases moves with
  | unaskable misfit => simp [Stage.Misfits, misfit]
  | found asked found => simp [Stage.known_ne_error, Stage.Misfits, Key.fits_iff.mp asked]
  | unknown asked absent => simp [Stage.Misfits, Key.fits_iff.mp asked]
  | unstorable misfit => simp [Stage.Misfits, misfit]
  | stored fits inserted | rejected fits rejected => simp [Stage.Misfits, Option.isNone_iff_eq_none.mp fits]
  | reread found => simp [Stage.known_ne_error, Stage.Misfits]
  | gone absent => simp [Stage.lost_ne_misfit, Stage.Misfits]
  | same same => simp [Stage.Misfits, same]
  | merged differ fits => simp [Stage.Misfits, Revision.fits_iff.mp fits]
  | unwritable differ misfit => simp [Stage.Misfits, differ, misfit]
  | _ => simp [Stage.Misfits]

end Moves
end Upsert

namespace Race

variable {n : Nat} {race : Race n} {i : Fin n}

def idsFit (race : Race n) : List (Move n) → Bool
  | [] => race.store.rows.all fun row => Word.holds row.id
  | move :: rest => (race.store.rows.all fun row => Word.holds row.id) && (race.move move).idsFit rest

theorem ids_of_idsFit {moves : List (Move n)} (ids : race.idsFit moves = true) : race.store.IdsFit := by
  cases moves with
  | nil => exact List.all_eq_true.mp ids
  | cons move rest => exact List.all_eq_true.mp (Bool.and_eq_true_iff.mp ids).1

theorem guarded_move (valid : race.Valid) (ids : race.store.IdsFit)
    (guarded : (race.stage i).Guarded (race.candidate i)) (move : Move n) :
    ((race.move move).stage i).Guarded (race.candidate i) := by
  cases move with
  | operation j op => rwa [stage_operation]
  | insertion j =>
    by_cases mine : i = j
    · subst mine
      exact (valid.insertion i).1.guarded ids guarded
    · rwa [stage_insertion_of_ne race mine]

theorem guarded_run (valid : race.Valid) {moves : List (Move n)} (ids : race.idsFit moves = true)
    (guarded : (race.stage i).Guarded (race.candidate i)) :
    ((race.run moves).stage i).Guarded (race.candidate i) := by
  induction moves generalizing race with
  | nil => exact guarded
  | cons move rest ih =>
    have guarded' := guarded_move valid (ids_of_idsFit ids) guarded move
    rw [← candidate_move race move] at guarded' ⊢
    exact ih (valid.move move) (Bool.and_eq_true_iff.mp ids).2 guarded'

theorem ends_run {c : Candidate} {last : Upsert.Stage} (Hits : Race n → Prop)
    (step : ∀ race : Race n, race.Valid → race.candidate i = c →
      ((race.move (.insertion i)).stage i = last ↔ race.stage i = last ∨ Hits race))
    (valid : race.Valid) (same : race.candidate i = c) (moves : List (Move n)) :
    (race.run moves).stage i = last ↔ race.stage i = last ∨
      ∃ early later, moves = early ++ .insertion i :: later ∧ Hits (race.run early) := by
  induction moves generalizing race with
  | nil => simp [run]
  | cons move rest ih =>
    have moved : (race.move move).stage i = last ↔ race.stage i = last ∨ move = .insertion i ∧ Hits race := by
      cases move with
      | operation j op => simp
      | insertion j =>
        by_cases mine : i = j
        · subst mine
          simpa using step race valid same
        · simp [stage_insertion_of_ne race mine, Ne.symm mine]
    refine (ih (valid.move move) ((congrFun (candidate_move race move) i).trans same)).trans ?_
    rw [moved, or_assoc]
    -- The point that was hit is the first move or lies behind it.
    refine or_congr_right ⟨?_, ?_⟩
    · rintro (⟨rfl, hits⟩ | ⟨early, later, rfl, hits⟩)
      · exact ⟨[], rest, rfl, hits⟩
      · exact ⟨move :: early, later, rfl, hits⟩
    · rintro ⟨early, later, split, hits⟩
      cases early with
      | nil =>
        cases split
        exact .inl ⟨rfl, hits⟩
      | cons first early =>
        cases split
        exact .inr ⟨early, later, rfl, hits⟩

/-- The client is about to read the row that it found again, and the row is gone. -/
def Misses (race : Race n) (i : Fin n) : Prop :=
  race.stage i = .rereading ∧ (race.candidate i).kind ≠ .link ∧
    race.store.lookup? (race.candidate i).kind (race.candidate i).key = none

/-- An insertion ends after five turns, whatever other clients do in between as long as ids have 64 bits. It fails
    with a fault of the storage layer's own, or because the row that took its key was removed between the lookup
    of its id and the lookup of its columns, or because it comes to pass a value that a database does not take.
    None of its values is one if the tables can hold the candidate. -/
theorem insertion_beside_others {s : Session} (reached : s.Reachable) (tables : s.database.tables = true)
    {offered : Fin n → Candidate}
    (accepted : ∀ i, ∃ data given, Submission.ofData data = .ok given ∧ given.candidate = offered i)
    (seen : Fin n → RowCache) {moves : List (Move n)} (ids : (start s.database offered seen).idsFit moves = true)
    (i : Fin n) :
    let before := start s.database offered seen
    let after := before.run moves
    (5 ≤ moves.countP (·.isTurnOf i) → ∃ result, after.stage i = .ended result) ∧
    (∀ fault, after.stage i = .ended (.error fault) → fault.isOwn = true ∨ fault = .vanished (offered i).kind ∨
      (offered i).fits = false ∧ ∃ m, fault = .misfit m) ∧
    (after.stage i = .ended (.error (.vanished (offered i).kind)) ↔
      ∃ early later, moves = early ++ .insertion i :: later ∧ (before.run early).Misses i) ∧
    ∀ m, after.stage i = .ended (.error (.misfit m)) ↔
      ∃ early later, moves = early ++ .insertion i :: later ∧ ((before.run early).stage i).Misfits (offered i) m := by
  intro before after
  have valid : before.Valid := valid_start reached tables accepted seen
  have looking (fault : Fault) : before.stage i ≠ .ended (.error fault) := by simp [before, start, stage]
  refine ⟨ended_of_turns, fun fault failed => ?_, ?_, fun m => ?_⟩
  · have guarded : (after.stage i).Guarded (offered i) := guarded_run valid ids trivial
    rwa [failed] at guarded
  · refine (ends_run (·.Misses i) (fun race valid same => ?_) valid rfl moves).trans (or_iff_right (looking _))
    have vanishes := (valid.insertion i).1.vanishes
    rw [same] at vanishes
    rw [Misses, same]
    exact vanishes
  · refine (ends_run (fun race => (race.stage i).Misfits (offered i) m) (fun race valid same => ?_) valid rfl
      moves).trans (or_iff_right (looking _))
    have misfits := (valid.insertion i).1.misfits m
    rwa [same] at misfits

/-- A domain that another client inserts before the rejection and removes before the row is read. -/
theorem insertion_beside_others_of_removed_domain :
    let domain : Candidate := ⟨.domain "example.com", []⟩
    let offered : Fin 2 → Candidate := fun _ => domain
    let before := start Session.inMemory.database offered fun _ => {}
    let early : List (Move 2) := [.insertion 0, .operation 1 (.insertDomain (.text "example.com")), .insertion 0,
      .insertion 0, .operation 1 (.delete .domain (.ofText "value = 'example.com'"))]
    let after := before.run (early ++ [.insertion 0])
    Submission.ofData (.object [("kind", .text "domain"), ("value", .text "example.com")]) = .ok ⟨domain, true⟩ ∧
    after.stage 0 = .ended (.error (.vanished .domain)) ∧ (Fault.vanished .domain).isOwn = false := by
  intro domain offered before early after
  have read : Submission.ofData (.object [("kind", .text "domain"), ("value", .text "example.com")]) =
      .ok ⟨domain, true⟩ := eq_ok_of_toOption (by decide +kernel)
  have accepted : ∀ i, ∃ data given, Submission.ofData data = .ok given ∧ given.candidate = offered i :=
    fun _ => ⟨_, _, read, rfl⟩
  have ids : before.idsFit (early ++ [.insertion 0]) = true := by decide +kernel
  obtain ⟨-, -, vanishes, -⟩ := insertion_beside_others (.fresh .memory) rfl accepted (fun _ => {}) ids 0
  have left : ((before.run early).stage 0).remaining = 2 := by decide +kernel
  have merges : ((before.run early).candidate 0).kind ≠ .link := by
    rw [candidate_run]
    decide
  have misses : (before.run early).Misses 0 := ⟨Upsert.Stage.eq_rereading left, merges, by decide +kernel⟩
  exact ⟨read, vanishes.mpr ⟨early, [], rfl, misses⟩, rfl⟩

end Race
end Footprint
