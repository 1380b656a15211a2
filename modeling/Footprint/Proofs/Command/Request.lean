import Footprint.Command.Run
import Footprint.Proofs.Workspace.Boundary

namespace Footprint

/-! Insertions without attributes -/

namespace Upsert.Inserts

variable {s t : Session} {c : Candidate}

theorem database_of_bare {outcome : Outcome} (inserts : Inserts s c (.ok outcome) t) (bare : c.supplied = []) :
    t.database = s.database ∨ ∃ new, s.contents.insert? c = some new ∧ outcome.2 = s.contents.nextId c.kind ∧
      t.database = { s.database with store := new } := by
  have nothing (row : Row) : c.changes row = [] := by simp [Candidate.changes, bare]
  cases inserts with
  | found ready keyFits found merges =>
    cases merges with
    | same same => exact .inl rfl
    | written differ fits => exact absurd (nothing _) differ
  | absent ready keyFits absent stores =>
    cases stores with
    | stored fits inserted => exact .inr ⟨_, inserted, rfl, rfl⟩
    | overtaken fits rejected known merges =>
      cases merges with
      | same same => exact .inl rfl
      | written differ fits => exact absurd (nothing _) differ

end Upsert.Inserts

namespace Action

variable {α β : Type} {s : Session}

def Spares (x : Action α) : Prop :=
  ∀ s : Session, s.Sound → (perform x s).1.isOk = false → (perform x s).2.database = s.database

theorem Spares.of_handles {x : Action α} {commits : Session → Bool}
    (handles : ∀ s : Session, s.Sound → s.Handles (commits s) (queryFailed (perform x s).1) (perform x s).2)
    (careful : ∀ s, (perform x s).1.isOk = false → commits s = false) : Spares x := by
  intro s sound failed
  have handles := handles s sound
  rw [careful s failed] at handles
  exact handles.database_eq

theorem Peeks.spares {x : Action α} (peeks : Peeks x) : Spares x := fun s _ _ => (peeks.handles s).database_eq

theorem Peeks.bind_spares {x : Action α} {f : α → Action β} (peeks : Peeks x) (next : ∀ a, Spares (f a)) :
    Spares (x >>= f) := by
  intro s sound failed
  have looks := peeks.handles s
  rw [perform_bind] at failed ⊢
  cases run : perform x s with
  | mk result t =>
    rw [run] at looks failed
    cases result with
    | error fault => exact looks.database_eq
    | ok a => exact (next a t (looks.sound sound) failed).trans looks.database_eq

theorem spares_insertMembers (kind : Kind) (members : Members) : Spares (insertMembers kind members) := by
  refine .of_handles (fun s sound => reports_insertMembers sound kind members) fun s failed => ?_
  cases result : (perform (insertMembers kind members) s).1 with
  | ok outcome =>
    rw [result] at failed
    cases failed
  | error fault => rfl

theorem spares_scope (kind : Kind) (f : Search) : Spares (scope kind f) :=
  .of_handles (fun _ _ => handles_setScope .scope kind f false) fun _ failed => failed

theorem spares_noscope (kind : Kind) (f : Search) : Spares (noscope kind f) :=
  .of_handles (fun _ _ => handles_setScope .noscope kind f true) fun _ failed => failed

theorem spares_delete (kind : Kind) (f : Search) : Spares (delete kind f) :=
  .of_handles (fun _ sound => handles_delete sound kind f) fun _ failed => failed

end Action

namespace Request

open Command (valueOf withFilter)

variable {α : Type} {s : Session}

theorem spares_withFilter {parsed : Except Filter.Refusal Filter} {next : Filter → Action α}
    (spares : ∀ f, (next f).Spares) : (withFilter parsed next).Spares := by
  cases parsed with
  | ok f => exact spares f
  | error refusal => exact fun s _ _ => rfl

def isDone : Except Fault Command.Answer → Bool
  | .ok (.ok _) => true
  | _ => false

def Refuses (value : Option AnyText) : Prop :=
  ∀ text, value = some text → ∃ issue, Candidate.valueIssue? text = some issue

/-- The domain is new and is stored, and its subdomain is refused. -/
inductive DomainStays (before : Store) : Request → Store → Prop
  | intro {value : Option AnyText} {domain : String} {after : Store} :
    before.insert? ⟨.domain domain, []⟩ = some after →
      Refuses value ∨ Word.holds (before.nextId .domain) = false →
        DomainStays before (.add .subdomain value (some domain)) after

/-- What a request may leave of the database: all of it, or all of it with a new domain. -/
def Leaves (s : Session) (request : Request) (t : Session) : Prop :=
  t.database = s.database ∨
    ∃ store, t.database = { s.database with store } ∧ DomainStays s.contents request store

theorem isOk_of_isDone {lines : α → List String} {result : Except Fault α}
    (failed : isDone (result.map fun a => Except.ok (lines a)) = false) : result.isOk = false := by
  cases result with
  | ok a => cases failed
  | error fault => rfl

theorem leaves_of_spares {x : Action α} {lines : α → List String} (spares : x.Spares) (sound : s.Sound)
    (request : Request) (failed : isDone (perform ((fun a => Except.ok (lines a)) <$> x) s).1 = false) :
    Leaves s request (perform ((fun a => (Except.ok (lines a) : Command.Answer)) <$> x) s).2 := by
  rw [perform_map_eq] at failed ⊢
  exact .inl (spares s sound (isOk_of_isDone failed))

/-- The insertion of a subdomain under a stored domain fails only for its value, or if the domain's id is oversized. -/
theorem refusal_of_backed {t : Session} (ready : t.Ready) (sound : t.Sound) {id : Int}
    (held : t.contents.holds .domain id = true) {value : Option AnyText}
    (failed : (perform (Action.insertMembers .subdomain [("domain_id", .int id), ("value", valueOf value)]) t).1.isOk =
      false) : Refuses value ∨ Word.holds id = false := by
  rw [or_iff_not_imp_right, Bool.not_eq_false]
  rintro word text rfl
  cases text with
  | ragged text => exact ⟨_, rfl⟩
  | plain text =>
    by_cases empty : text = ""
    · exact ⟨_, if_pos empty⟩
    obtain ⟨row, u, done, -⟩ := Action.perform_insertMembers_subdomain ready sound held word empty
    rw [valueOf, Data.ofText, done] at failed
    cases failed

theorem database_of_insertDomain (sound : s.Sound) {domain : AnyText} {outcome : Outcome} {t : Session}
    (inserted : perform (Action.insertDomain (.ofText domain)) s = (.ok outcome, t)) :
    t.database = s.database ∨ ∃ (name : String) (store : Store), domain = name ∧
      s.contents.insert? ⟨.domain name, []⟩ = some store ∧
      outcome.2 = s.contents.nextId .domain ∧ t.database = { s.database with store } := by
  cases read : Candidate.read .domain [("value", .ofText domain)] with
  | invalid issues =>
    rw [Action.insertDomain, Action.perform_insertMembers_invalid read] at inserted
    cases inserted
  | valid given =>
    have inserts := Upsert.run_inserts sound (Candidate.read_proper read)
    have run : perform (Upsert.run given.candidate) s = (.ok outcome, t) :=
      (Action.perform_insertMembers read s).symm.trans inserted
    obtain ⟨value, accepted, rfl⟩ := Candidate.read_domain.mp read
    cases domain with
    | ragged text => cases accepted
    | plain text =>
      obtain ⟨-, rfl⟩ := Rule.nonemptyText_text.mp accepted
      rw [run] at inserts
      obtain same | ⟨store, added⟩ := inserts.database_of_bare rfl
      · exact .inl same
      · exact .inr ⟨text, store, rfl, added⟩

theorem leaves_afterDomain (sound : s.Sound) {value : Option AnyText} {domain : AnyText}
    (failed : (perform (do
      let id ← Prod.snd <$> Action.insertDomain (.ofText domain)
      Action.insertMembers .subdomain [("domain_id", .int id), ("value", valueOf value)]) s).1.isOk = false) :
    Leaves s (.add .subdomain value (some domain)) (perform (do
      let id ← Prod.snd <$> Action.insertDomain (.ofText domain)
      Action.insertMembers .subdomain [("domain_id", .int id), ("value", valueOf value)]) s).2 := by
  cases inserted : perform (Action.insertDomain (.ofText domain)) s with
  | mk result t =>
    have first : perform (Prod.snd <$> Action.insertDomain (.ofText domain)) s = (result.map Prod.snd, t) := by
      rw [perform_map_eq, inserted]
    cases result with
    | error fault =>
      have spared := Action.spares_insertMembers .domain [("value", .ofText domain)] s sound
      rw [show perform (Action.insertMembers .domain _) s = (.error fault, t) from inserted] at spared
      rw [perform_bind_error first]
      exact .inl (spared rfl)
    | ok outcome =>
      -- The domain is committed by now, whatever becomes of the subdomain.
      obtain ⟨ready, sound', held⟩ := Action.holds_insertMembers sound inserted
      rw [perform_bind_ok first] at failed ⊢
      have spared := Action.spares_insertMembers .subdomain _ t sound' failed
      rcases database_of_insertDomain sound inserted with same | ⟨name, store, rfl, added, id, written⟩
      · exact .inl (spared.trans same)
      · refine .inr ⟨store, spared.trans written, .intro added ?_⟩
        rw [← id]
        exact refusal_of_backed ready sound' held failed

theorem Leaves.of_alike {t u : Session} {request : Request} (alike : s.Alike t) (leaves : Leaves t request u) :
    Leaves s request u := by
  obtain ⟨cache, rfl⟩ := alike
  exact leaves

theorem leaves_insertSubdomain (sound : s.Sound) (settled : s.pending = none) {value : Option AnyText}
    {domain : AnyText} (failed : (perform (Action.insertSubdomain (valueOf value) (.ofText domain)) s).1.isOk = false) :
    Leaves s (.add .subdomain value (some domain))
      (perform (Action.insertSubdomain (valueOf value) (.ofText domain)) s).2 := by
  have looks := (Action.peeks_getId? .domain (.ofText domain)).handles s
  cases looked : perform (Action.getId? .domain (.ofText domain)) s with
  | mk result t =>
    rw [looked] at looks
    cases result with
    | error fault =>
      have run : perform (Action.insertSubdomain (valueOf value) (.ofText domain)) s = (.error fault, t) :=
        perform_bind_error looked _
      rw [run]
      exact .inl looks.database_eq
    | ok found =>
      have run : perform (Action.insertSubdomain (valueOf value) (.ofText domain)) s = _ := perform_bind_ok looked _
      have sound' := looks.sound sound
      rw [run] at failed ⊢
      refine .of_alike (looks.alike_of_settled settled) ?_
      cases found with
      | some id => exact .inl (Action.spares_insertMembers _ _ t sound' failed)
      | none => exact leaves_afterDomain sound' failed

theorem leaves_add (sound : s.Sound) (settled : s.pending = none) (kind : Kind) (value parent : Option AnyText)
    (failed : isDone (perform (Command.add kind (valueOf value) parent) s).1 = false) :
    Leaves s (.add kind value parent) (perform (Command.add kind (valueOf value) parent) s).2 := by
  cases kind with
  | domain => exact leaves_of_spares (Action.spares_insertMembers _ _) sound _ failed
  | email | link => exact leaves_of_spares (Action.spares_insertMembers _ _) sound _ failed
  | address =>
    simp only [Command.add] at failed ⊢
    split at failed
    · exact leaves_of_spares (Action.spares_insertMembers _ _) sound _ failed
    · exact .inl rfl
  | url =>
    cases parent with
    | none => exact .inl rfl
    | some subdomain =>
      let insertion (id : Int) := Action.insertMembers .url [("subdomain_id", .int id), ("value", valueOf value)]
      have spares : (Action.getId .subdomain (.ofText subdomain) >>= insertion).Spares :=
        (Action.peeks_getId .subdomain (.ofText subdomain)).bind_spares fun id => Action.spares_insertMembers _ _
      have whole : Command.add .url (valueOf value) (some subdomain) =
          (fun outcome => Except.ok (Command.added .url outcome)) <$>
            (Action.getId .subdomain (.ofText subdomain) >>= insertion) := by
        rw [map_bind]
        rfl
      rw [whole] at failed ⊢
      exact leaves_of_spares spares sound _ failed
  | subdomain =>
    cases parent with
    | none => exact .inl rfl
    | some domain =>
      have whole : Command.add .subdomain (valueOf value) (some domain) =
          (fun outcome => Except.ok (Command.added .subdomain outcome)) <$>
            Action.insertSubdomain (valueOf value) (.ofText domain) := rfl
      rw [whole, perform_map_eq] at failed ⊢
      exact leaves_insertSubdomain sound settled (isOk_of_isDone failed)

theorem leaves_of_failed (sound : s.Sound) (settled : s.pending = none) (engine : Sql.Engine) (request : Request)
    (failed : isDone (perform (Command.perform engine request) s).1 = false) :
    Leaves s request (perform (Command.perform engine request) s).2 := by
  cases request with
  | add kind value parent => exact leaves_add sound settled kind value parent failed
  | list kind words =>
    have spares (f : Filter) : (Action.filter kind ⟨f, engine⟩).Spares := (Action.peeks_filter kind _).spares
    simp only [Command.perform, bind_pure_comp] at failed ⊢
    exact leaves_of_spares (spares_withFilter spares) sound _ failed
  | scope kind words =>
    simp only [Command.perform, bind_pure_comp] at failed ⊢
    exact leaves_of_spares (spares_withFilter fun _ => Action.spares_scope kind _) sound _ failed
  | noscope kind words =>
    simp only [Command.perform, bind_pure_comp] at failed ⊢
    exact leaves_of_spares (spares_withFilter fun _ => Action.spares_noscope kind _) sound _ failed
  | delete kind words =>
    simp only [Command.perform, bind_pure_comp] at failed ⊢
    exact leaves_of_spares (spares_withFilter fun _ => Action.spares_delete kind _) sound _ failed

end Request
end Footprint
