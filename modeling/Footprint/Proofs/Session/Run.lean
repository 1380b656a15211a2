import Footprint.Session.Operation

namespace Footprint

section

variable {ε σ α β : Type}

def perform (x : ExceptT ε (StateM σ) α) (s : σ) : Except ε α × σ := x.run.run s

@[simp] theorem perform_pure (a : α) (s : σ) : perform (pure a : ExceptT ε (StateM σ) α) s = (.ok a, s) := rfl

@[simp] theorem perform_throw (e : ε) (s : σ) :
    perform (throw e : ExceptT ε (StateM σ) α) s = (.error e, s) := rfl

@[simp] theorem perform_get (s : σ) : perform (get : ExceptT ε (StateM σ) σ) s = (.ok s, s) := rfl

@[simp] theorem perform_modify (f : σ → σ) (s : σ) :
    perform (modify f : ExceptT ε (StateM σ) PUnit) s = (.ok ⟨⟩, f s) := rfl

theorem perform_bind (x : ExceptT ε (StateM σ) α) (f : α → ExceptT ε (StateM σ) β) (s : σ) :
    perform (x >>= f) s = match perform x s with
      | (.ok a, t) => perform (f a) t
      | (.error e, t) => (.error e, t) := by
  simp only [perform, ExceptT.run_bind, StateT.run_bind]
  cases x.run.run s with
  | mk result t => cases result <;> rfl

theorem perform_bind_ok {x : ExceptT ε (StateM σ) α} {s t : σ} {a : α} (first : perform x s = (.ok a, t))
    (f : α → ExceptT ε (StateM σ) β) : perform (x >>= f) s = perform (f a) t := by
  rw [perform_bind, first]

theorem perform_bind_error {x : ExceptT ε (StateM σ) α} {s t : σ} {e : ε}
    (first : perform x s = (.error e, t)) (f : α → ExceptT ε (StateM σ) β) :
    perform (x >>= f) s = (.error e, t) := by
  rw [perform_bind, first]

theorem perform_bind_congr {x : ExceptT ε (StateM σ) α} {f g : α → ExceptT ε (StateM σ) β} {s : σ}
    (same : ∀ a t, perform x s = (.ok a, t) → perform (f a) t = perform (g a) t) :
    perform (x >>= f) s = perform (x >>= g) s := by
  rw [perform_bind, perform_bind]
  cases first : perform x s with
  | mk result t =>
    cases result with
    | ok a => exact same a t first
    | error e => rfl

theorem perform_bind_eq_ok {x : ExceptT ε (StateM σ) α} {f : α → ExceptT ε (StateM σ) β} {s t : σ} {b : β}
    (done : perform (x >>= f) s = (.ok b, t)) : ∃ a u, perform x s = (.ok a, u) ∧ perform (f a) u = (.ok b, t) := by
  rw [perform_bind] at done
  cases first : perform x s with
  | mk result u =>
    rw [first] at done
    cases result with
    | ok a => exact ⟨a, u, rfl, done⟩
    | error e => cases done

theorem perform_map (f : α → β) (x : ExceptT ε (StateM σ) α) (s : σ) :
    perform (f <$> x) s = match perform x s with
      | (.ok a, t) => (.ok (f a), t)
      | (.error e, t) => (.error e, t) := by
  rw [map_eq_pure_bind, perform_bind]
  rfl

theorem perform_map_eq (f : α → β) (x : ExceptT ε (StateM σ) α) (s : σ) :
    perform (f <$> x) s = ((perform x s).1.map f, (perform x s).2) := by
  rw [perform_map]
  cases perform x s with
  | mk result t => cases result <;> rfl

@[simp] theorem isOk_map (make : α → β) (result : Except ε α) : (result.map make).isOk = result.isOk := by
  cases result <;> rfl

end

namespace Session

structure Ready (s : Session) : Prop where
  isOpen : s.isOpen = true
  isIntact : s.isIntact = true
  tables : s.database.tables = true

def put (s : Session) (store : Store) : Session :=
  { s with database := { s.database with store }, pending := none }

namespace Ready

variable {s : Session}

theorem put (ready : s.Ready) (store : Store) : (s.put store).Ready :=
  ⟨ready.isOpen, ready.isIntact, ready.tables⟩

theorem rollback (ready : s.Ready) : s.rollback.Ready := ⟨ready.isOpen, ready.isIntact, ready.tables⟩

theorem seen (ready : s.Ready) (cache : RowCache) : Session.Ready { s with seen := cache } :=
  ⟨ready.isOpen, ready.isIntact, ready.tables⟩

end Ready

@[simp] theorem put_contents (s : Session) (store : Store) : (s.put store).contents = store := rfl

end Session

namespace Statement

theorem perform_contents {s : Session} (ready : s.Ready) : perform contents s = (.ok s.contents, s) := by
  simp [contents, requireOpen, perform_bind, ready.isOpen, ready.isIntact, ready.tables]

theorem perform_contents_unready {s : Session} (unready : ¬ s.Ready) :
    ∃ e, (∀ m, e ≠ .misfit m) ∧ perform contents s = (.error e, s) := by
  by_cases isOpen : s.isOpen = true
  · by_cases isIntact : s.isIntact = true
    · have tables : s.database.tables ≠ true := fun tables => unready ⟨isOpen, isIntact, tables⟩
      exact ⟨.noTable, by simp, by simp [contents, requireOpen, perform_bind, isOpen, isIntact, tables]⟩
    · exact ⟨.noDatabase, by simp, by simp [contents, requireOpen, perform_bind, isOpen, isIntact]⟩
  · exact ⟨.closed, by simp, by simp [contents, requireOpen, perform_bind, isOpen]⟩

theorem perform_contents_snd (s : Session) : (perform contents s).2 = s := by
  by_cases ready : s.Ready
  · rw [perform_contents ready]
  · obtain ⟨e, -, failed⟩ := perform_contents_unready ready
    rw [failed]

theorem perform_contents_fst (s : Session) : (perform contents s).1 =
    if s.isOpen = false then .error .closed
    else if s.isIntact = false then .error .noDatabase
    else if s.database.tables then .ok s.contents else .error .noTable := by
  cases isOpen : s.isOpen with
  | false => simp [contents, requireOpen, perform_bind, isOpen]
  | true =>
    cases isIntact : s.isIntact with
    | false => simp [contents, requireOpen, perform_bind, isOpen, isIntact]
    | true => cases tables : s.database.tables <;> simp [contents, requireOpen, perform_bind, isOpen, isIntact, tables]

theorem perform_contents_closed (s : Session) : (perform contents s).1 = .error .closed ↔ s.isOpen = false := by
  rw [perform_contents_fst]
  cases s.isOpen <;> cases s.isIntact <;> cases s.database.tables <;> simp

end Statement

namespace Action

variable {α β : Type} {attempt : Attempt} {kind : Kind} {s t : Session}

theorem perform_guarded (attempt : Attempt) (kind : Kind) (body : Statement α) (s : Session) :
    perform (guarded attempt kind body) s = match perform body s with
      | (.ok a, s) => (.ok a, s)
      | (.error (.misfit m), s) => (.error (.misfit m), s)
      | (.error _, s) => (.error (.query attempt kind), s.rollback) := rfl

theorem guarded_ok {body : Statement α} {a : α} (run : perform body s = (.ok a, t)) :
    perform (guarded attempt kind body) s = (.ok a, t) := by
  rw [perform_guarded, run]

theorem guarded_eq_ok {body : Statement α} {a : α} (run : perform (guarded attempt kind body) s = (.ok a, t)) :
    perform body s = (.ok a, t) := by
  rw [perform_guarded] at run
  cases done : perform body s with
  | mk result u =>
    rw [done] at run
    cases result with
    | ok b =>
      cases run
      rfl
    | error e => cases e <;> cases run

theorem guarded_misfit {body : Statement α} {m : Misfit} (run : perform body s = (.error (.misfit m), t)) :
    perform (guarded attempt kind body) s = (.error (.misfit m), t) := by
  rw [perform_guarded, run]

theorem guarded_error {body : Statement α} {e : StatementError} (other : ∀ m, e ≠ .misfit m)
    (run : perform body s = (.error e, t)) :
    perform (guarded attempt kind body) s = (.error (.query attempt kind), t.rollback) := by
  rw [perform_guarded, run]
  cases e <;> first
    | rfl
    | exact absurd rfl (other _)

theorem perform_bare (body : Statement α) (s : Session) :
    perform (bare body) s = match perform body s with
      | (.ok a, s) => (.ok a, s)
      | (.error (.misfit m), s) => (.error (.misfit m), s)
      | (.error e, s) => (.error (.statement e), s) := rfl

theorem perform_bare_state (body : Statement α) (s : Session) :
    (perform (bare body) s).2 = (perform body s).2 := by
  rw [perform_bare]
  cases perform body s with
  | mk result t =>
    cases result with
    | ok a => rfl
    | error e => cases e <;> rfl

end Action
end Footprint
