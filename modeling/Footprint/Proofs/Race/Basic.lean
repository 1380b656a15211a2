import Footprint.Proofs.Session.Congruence
import Footprint.Proofs.Session.Stage
import Footprint.Proofs.Workspace.Reachable
import Mathlib.Logic.Function.Basic

/-!
Clients that insert into one database at the same time. Each statement of an insertion is a move of its
own, after which any client may be next; between them a client may also carry out other operations.
-/

namespace Footprint

structure Client where
  candidate : Candidate
  session : Session
  stage : Upsert.Stage := .looking

structure Race (n : Nat) where
  database : Database
  clients : Fin n → Client

namespace Race

inductive Move (n : Nat)
  | insertion (client : Fin n)
  | operation (client : Fin n) (op : Operation)

variable {n : Nat}

def session (race : Race n) (i : Fin n) : Session := { (race.clients i).session with database := race.database }

def put (race : Race n) (i : Fin n) (client : Client) : Race n :=
  ⟨client.session.database, Function.update race.clients i client⟩

def move (race : Race n) : Move n → Race n
  | .insertion i =>
    let (stage, session) := (race.clients i).stage.advance (race.clients i).candidate (race.session i)
    race.put i { race.clients i with session, stage }
  | .operation i op => race.put i { race.clients i with session := (race.session i).step op }

def run (race : Race n) (moves : List (Move n)) : Race n := moves.foldl move race

/-- All clients are about to insert what they offer. They may have read rows before. -/
def start (database : Database) (offered : Fin n → Candidate) (seen : Fin n → RowCache) : Race n :=
  ⟨database, fun i => { candidate := offered i, session := { database, seen := seen i, enforced := true } }⟩

def store (race : Race n) : Store := race.database.store

def stage (race : Race n) (i : Fin n) : Upsert.Stage := (race.clients i).stage

def candidate (race : Race n) (i : Fin n) : Candidate := (race.clients i).candidate

variable {race : Race n} {i j : Fin n}

theorem run_append (race : Race n) (moves later : List (Move n)) :
    race.run (moves ++ later) = (race.run moves).run later := by
  simp [run]

section

variable (race : Race n) (i : Fin n) (client : Client)

@[simp] theorem put_clients_self : (race.put i client).clients i = client := by simp [put]

@[simp] theorem put_clients_of_ne (other : j ≠ i) : (race.put i client).clients j = race.clients j := by
  simp [put, other]

@[simp] theorem put_session_self : (race.put i client).session i = client.session := by
  simp [session, put]

@[simp] theorem put_session_of_ne (other : j ≠ i) :
    (race.put i client).session j = { race.session j with database := client.session.database } := by
  simp [session, put, other]

end

theorem stage_insertion_self (race : Race n) (i : Fin n) :
    (race.move (.insertion i)).stage i = ((race.stage i).advance (race.candidate i) (race.session i)).1 :=
  congrArg Client.stage (put_clients_self race i _)

theorem stage_insertion_of_ne (race : Race n) (other : j ≠ i) : (race.move (.insertion i)).stage j = race.stage j :=
  congrArg Client.stage (put_clients_of_ne race i _ other)

@[simp] theorem stage_operation (race : Race n) (i : Fin n) (op : Operation) :
    (race.move (.operation i op)).stage = race.stage := by
  funext j
  by_cases same : j = i
  · subst same
    simp [stage, move]
  · simp [stage, move, same]

@[simp] theorem candidate_move (race : Race n) (move : Move n) : (race.move move).candidate = race.candidate := by
  funext j
  cases move with
  | insertion i | operation i op =>
    by_cases same : j = i
    · subst same
      simp [candidate, Race.move]
    · simp [candidate, Race.move, same]

@[simp] theorem candidate_run (race : Race n) (moves : List (Move n)) : (race.run moves).candidate = race.candidate := by
  induction moves generalizing race with
  | nil => rfl
  | cons move rest ih => exact (ih _).trans (candidate_move race move)

structure Valid (race : Race n) : Prop where
  formed : race.store.WellFormed
  ready : ∀ i, (race.session i).Ready
  enforced : ∀ i, (race.session i).enforced = true
  settled : ∀ i, (race.session i).pending = none
  proper : ∀ i, (race.candidate i).Proper
  keyed : ∀ i, (race.stage i).Keyed (race.candidate i)

namespace Valid

theorem contents (valid : race.Valid) (i : Fin n) : (race.session i).contents = race.store :=
  Session.contents_of_settled (valid.settled i)

theorem sound (valid : race.Valid) (i : Fin n) : (race.session i).Sound :=
  .of_settled (valid.settled i) (valid.enforced i) valid.formed

theorem put (valid : race.Valid) (i : Fin n) {client : Client} (same : client.candidate = race.candidate i)
    (keyed : client.stage.Keyed client.candidate) (ready : client.session.Ready)
    (settled : client.session.pending = none) (sound : client.session.Sound) :
    (race.put i client).Valid := by
  have candidates : (race.put i client).candidate = race.candidate := by
    funext j
    by_cases mine : j = i
    · subst mine
      simpa [candidate] using same
    · simp [candidate, mine]
  -- The others see another database now, which has tables if the one of this client has.
  refine ⟨sound.committed, fun j => ?_, fun j => ?_, fun j => ?_, fun j => ?_, fun j => ?_⟩
  · by_cases mine : j = i
    · subst mine
      simpa using ready
    · rw [put_session_of_ne _ _ _ mine]
      exact ⟨(valid.ready j).isOpen, (valid.ready j).isIntact, ready.tables⟩
  · by_cases mine : j = i
    · subst mine
      simpa using sound.enforced
    · rw [put_session_of_ne _ _ _ mine]
      exact valid.enforced j
  · by_cases mine : j = i
    · subst mine
      simpa using settled
    · rw [put_session_of_ne _ _ _ mine]
      exact valid.settled j
  · rw [candidates]
    exact valid.proper j
  · by_cases mine : j = i
    · subst mine
      simpa [stage, candidate] using keyed
    · rw [candidates, stage, put_clients_of_ne _ _ _ mine]
      exact valid.keyed j

end Valid

theorem ready_congruence : Session.Congruence fun s t => s = t ∧ s.enforced = true ∧ s.Ready where
  enforced := by
    rintro s _ ⟨rfl, enforced, -⟩
    exact ⟨enforced, enforced⟩
  contents := by
    rintro s _ ⟨rfl, -⟩
    rfl
  seen := by
    rintro s _ change ⟨rfl, enforced, ready⟩
    exact ⟨rfl, enforced, ready.seen _⟩
  write := by
    rintro s _ new - ⟨rfl, enforced, ready⟩
    exact ⟨rfl, enforced, ready.isOpen, ready.isIntact, ready.tables⟩
  commit := by
    rintro s _ ⟨rfl, enforced, ready⟩
    exact ⟨rfl, enforced, ready.isOpen, ready.isIntact, ready.tables⟩
  rollback := by
    rintro s _ ⟨rfl, enforced, ready⟩
    exact ⟨rfl, enforced, ready.rollback⟩

namespace Valid

theorem insertion (valid : race.Valid) (i : Fin n) :
    Upsert.Moves (race.candidate i) race.store (race.stage i) ((race.move (.insertion i)).stage i)
      (race.move (.insertion i)).store ∧ (race.move (.insertion i)).Valid := by
  have contents := valid.contents i
  obtain ⟨tables, moves, left⟩ := Upsert.Stage.advance_moves (valid.ready i) (valid.enforced i) (valid.settled i)
    (contents ▸ valid.formed) (valid.keyed i)
  rw [contents] at moves
  have settled := left.settled (valid.settled i)
  have store : (race.move (.insertion i)).store = tables :=
    (Session.contents_of_settled settled).symm.trans left.contents_eq
  have sound := left.sound (valid.sound i) (moves.wellFormed valid.formed (valid.proper i))
  rw [stage_insertion_self, store]
  exact ⟨moves, valid.put i rfl (moves.keyed (valid.keyed i)) (left.ready.mpr (valid.ready i)) settled sound⟩

theorem move (valid : race.Valid) (move : Move n) : (race.move move).Valid := by
  cases move with
  | insertion i => exact (valid.insertion i).2
  | operation i op =>
    have steps := op.steps (valid.sound i)
    have ready := (ready_congruence.respects_action op _ _ ⟨rfl, valid.enforced i, valid.ready i⟩).2.2.2
    exact valid.put i rfl (valid.keyed i) ready (steps.settled (valid.settled i)) steps.sound

end Valid

/-- A client that has turn after turn to itself carries out its insertion. -/
theorem run_alone (race : Race n) (i : Fin n) {turns : Nat} (enough : (race.stage i).remaining ≤ turns) :
    let inserted := perform ((race.stage i).rest (race.candidate i)) (race.session i)
    let after := race.run (List.replicate turns (.insertion i))
    after.stage i = .ended inserted.1 ∧ after.session i = inserted.2 := by
  -- A run of one client's turns is an iteration over its stage and session; the other clients only wait.
  have turn (race : Race n) (turns : Nat) :
      ((race.run (List.replicate turns (.insertion i))).stage i,
        (race.run (List.replicate turns (.insertion i))).session i) =
        (fun now : Upsert.Stage × Session => now.1.advance (race.candidate i) now.2)^[turns]
          (race.stage i, race.session i) := by
    induction turns generalizing race with
    | zero => rfl
    | succ turns ih =>
      have next := ih (race.move (.insertion i))
      have session : (race.move (.insertion i)).session i = _ := put_session_self race i _
      rw [candidate_move, stage_insertion_self, session] at next
      exact next
  have alone := (turn race turns).trans (Upsert.advance_alone (race.candidate i) (race.stage i) (race.session i) enough)
  exact ⟨congrArg Prod.fst alone, congrArg Prod.snd alone⟩

def Move.isTurnOf (i : Fin n) : Move n → Bool
  | .insertion j => j = i
  | .operation .. => false

theorem Move.countP_isTurnOf (turns : List (Fin n)) (i : Fin n) :
    (turns.map Move.insertion).countP (·.isTurnOf i) = turns.count i := by
  rw [List.countP_map, List.count]
  exact List.countP_congr fun j _ => by simp [isTurnOf]

theorem remaining_run (race : Race n) (moves : List (Move n)) (i : Fin n) :
    ((race.run moves).stage i).remaining ≤ (race.stage i).remaining - moves.countP (·.isTurnOf i) := by
  induction moves generalizing race with
  | nil => exact Nat.le_refl _
  | cons move rest ih =>
    have later := ih (race.move move)
    have step : ((race.move move).stage i).remaining ≤ (race.stage i).remaining - if move.isTurnOf i then 1 else 0 := by
      cases move with
      | insertion j =>
        by_cases mine : j = i
        · subst mine
          have step := Upsert.Stage.remaining_advance (race.candidate j) (race.stage j) (race.session j)
          rw [← stage_insertion_self] at step
          simpa [Move.isTurnOf] using step
        · rw [stage_insertion_of_ne race (Ne.symm mine)]
          simp [Move.isTurnOf, mine]
      | operation j op => simp [Move.isTurnOf]
    rw [List.countP_cons]
    change ((race.move move).run rest |>.stage i).remaining ≤ _
    omega

/-- After five turns an insertion has ended, whatever the others did in between. -/
theorem ended_of_turns {database : Database} {offered : Fin n → Candidate} {seen : Fin n → RowCache}
    {moves : List (Move n)} {i : Fin n} (enough : 5 ≤ moves.countP (·.isTurnOf i)) :
    ∃ result, ((start database offered seen).run moves).stage i = .ended result := by
  refine Upsert.Stage.eq_ended ?_
  have left := remaining_run (start database offered seen) moves i
  change _ ≤ 5 - _ at left
  omega

theorem valid_start {s : Session} (reached : s.Reachable) (tables : s.database.tables = true)
    {offered : Fin n → Candidate}
    (accepted : ∀ i, ∃ data given, Submission.ofData data = .ok given ∧ given.candidate = offered i)
    (seen : Fin n → RowCache) : (start s.database offered seen).Valid where
  formed := reached.sound.committed
  ready _ := ⟨rfl, rfl, tables⟩
  enforced _ := rfl
  settled _ := rfl
  proper i := by
    obtain ⟨data, given, read, same⟩ := accepted i
    have proper := Submission.ofData_proper read
    rwa [same] at proper
  keyed _ := trivial

def sighting (attributes : Members) : Data :=
  .object ([("kind", .text "ipaddr"), ("family", .text "v4"), ("value", .text "1.1.1.1")] ++ attributes)

end Race
end Footprint
