import Footprint.Proofs.Session.Reads
import Footprint.Proofs.Store.Step

namespace Footprint

inductive Operation
  | insert (submission : Data)
  | insertUnseen (submission : Data)
  | insertDomain (value : Data)
  | insertSubdomain (value domain : Data)
  | insertAddress (family value : Data)
  | insertLink (subdomain address : Data)
  | insertEmail (value : Data)
  | update (submission : Data)
  | getRow (kind : Kind) (key : Data)
  | getId (kind : Kind) (key : Data)
  | findId (kind : Kind) (key : Data)
  | list (kind : Kind)
  | filter (kind : Kind) (f : Search)
  | scope (kind : Kind) (f : Search)
  | noscope (kind : Kind) (f : Search)
  | delete (kind : Kind) (f : Search)

inductive Answer
  | outcome (outcome : Outcome)
  | id (id : Int)
  | idIfAny (id : Option Int)
  | row (row : Option Row)
  | rows (rows : List Row)
  | count (n : Nat)
  deriving DecidableEq, Repr

namespace Action

def unionTitle (titles : List String) : String := "tagged-union[" ++ ",".intercalate titles ++ "]"

def offered (submission : Data) : Action Candidate :=
  match Submission.ofData submission with
  | .ok s => return s.candidate
  | .error issues => throw (.invalid (unionTitle (Kind.all.map Candidate.title)) issues)

def revised (submission : Data) : Action Revision :=
  match Revision.ofData submission with
  | .ok r => return r
  | .error issues => throw (.invalid (unionTitle (Kind.revisable.map Revision.title)) issues)

end Action

namespace Operation

def action : Operation → Action Answer
  | insert submission => .outcome <$> (Action.offered submission >>= Action.insert)
  | insertUnseen submission => .outcome <$> (Action.offered submission >>= Action.insertUnseen)
  | insertDomain value => .outcome <$> Action.insertDomain value
  | insertSubdomain value domain => .outcome <$> Action.insertSubdomain value domain
  | insertAddress family value => .outcome <$> Action.insertAddress family value
  | insertLink subdomain address => .outcome <$> Action.insertLink subdomain address
  | insertEmail value => .outcome <$> Action.insertEmail value
  | update submission => .id <$> (Action.revised submission >>= Action.update)
  | getRow kind key => .row <$> Action.getRow? kind key
  | getId kind key => .id <$> Action.getId kind key
  | findId kind key => .idIfAny <$> Action.getId? kind key
  | list kind => .rows <$> Action.list kind
  | filter kind f => .rows <$> Action.filter kind f
  | scope kind f => .count <$> Action.scope kind f
  | noscope kind f => .count <$> Action.noscope kind f
  | delete kind f => .count <$> Action.delete kind f

/-- What a successful operation supplies for which columns. The shorter ways to insert supply no
    attribute. -/
def supply : Operation → Except Fault Answer → Supply
  | insert submission, .ok (.outcome (_, id)) | insertUnseen submission, .ok (.outcome (_, id)) =>
    match Submission.ofData submission with
    | .ok s => .only s.candidate.kind id s.candidate.supplied
    | .error _ => .nothing
  | update submission, .ok (.id id) =>
    match Revision.ofData submission with
    | .ok r => .only r.kind id r.changes
    | .error _ => .nothing
  | _, _ => .nothing

end Operation

namespace Session

structure Steps (supply : Supply) (s t : Session) : Prop where
  sound : t.Sound
  settled : s.pending = none → t.pending = none
  step : s.pending = none → Store.Step supply s.contents t.contents

variable {s t : Session}

theorem contents_of_settled (settled : s.pending = none) : s.contents = s.database.store := by
  simp [contents, settled]

theorem Sound.which (sound : s.Sound) {tables : Store} (which : tables = s.contents ∨ tables = s.database.store) :
    tables.WellFormed := by
  rcases which with rfl | rfl
  · exact sound.contents
  · exact sound.committed

theorem which_of_settled (settled : s.pending = none) {tables : Store}
    (which : tables = s.contents ∨ tables = s.database.store) : tables = s.contents :=
  which.elim id fun same => same.trans (contents_of_settled settled).symm

theorem Leaves.steps {tables : Store} {supply : Supply} (left : s.Leaves tables t) (sound : s.Sound)
    (formed : tables.WellFormed) (step : s.pending = none → Store.Step supply s.contents tables) :
    s.Steps supply t :=
  ⟨left.sound sound formed, left.settled, fun settled => left.contents_eq ▸ step settled⟩

theorem Leaves.stays {tables : Store} (left : s.Leaves tables t) (sound : s.Sound)
    (which : tables = s.contents ∨ tables = s.database.store) : s.Steps .nothing t := by
  refine left.steps sound (sound.which which) fun settled => ?_
  rw [which_of_settled settled which]
  exact .refl sound.contents

theorem Sound.stays (sound : s.Sound) : s.Steps .nothing s :=
  Leaves.stays (.kept s.seen rfl) sound (.inl rfl)

theorem Sound.takesBack (sound : s.Sound) : s.Steps .nothing s.rollback :=
  Leaves.stays (.undone {} rfl) sound (.inr rfl)

end Session

def Candidate.supply (c : Candidate) : Except Fault Outcome → Supply
  | .ok (_, id) => .only c.kind id c.supplied
  | .error _ => .nothing

def Revision.supply (r : Revision) : Except Fault Int → Supply
  | .ok id => .only r.kind id r.changes
  | .error _ => .nothing

namespace Upsert.Ends

variable {s t : Session} {c : Candidate} {result : Except Fault Outcome}

theorem steps (sound : s.Sound) (proper : c.Proper) (ends : Ends s c result t) : s.Steps (c.supply result) t := by
  cases ends with
  | failed which left => exact left.stays sound which
  | done which inserted left =>
    have formed := sound.which which
    refine left.steps sound (inserted.wellFormed formed proper) fun settled => ?_
    rw [← Session.which_of_settled settled which]
    exact inserted.step formed

theorem grows (settled : s.pending = none) (ends : Ends s c result t) : s.contents.Grows t.contents := by
  cases ends with
  | failed which left =>
    rw [left.contents_eq, Session.which_of_settled settled which]
    exact .refl s.contents
  | done which inserted left =>
    rw [left.contents_eq, ← Session.which_of_settled settled which]
    exact inserted.grows

end Upsert.Ends

namespace Action

variable {α β : Type}

structure Adds (x : Action α) : Prop where
  steps : ∀ s : Session, s.Sound → s.Steps .nothing (perform x s).2
  grows : ∀ s : Session, s.Sound → s.pending = none → s.contents.Grows (perform x s).2.contents

theorem Looks.adds {x : Action α} (looks : x.Looks) : Adds x where
  steps s sound := by
    obtain ⟨tables, which, left⟩ := looks s
    exact left.stays sound which
  grows s sound settled := by
    obtain ⟨tables, which, left⟩ := looks s
    rw [left.contents_eq, Session.which_of_settled settled which]
    exact .refl s.contents

theorem Adds.bind {x : Action α} {f : α → Action β} (first : Adds x) (next : ∀ a, Adds (f a)) : Adds (x >>= f) := by
  have both (s : Session) (sound : s.Sound) : s.Steps .nothing (perform (x >>= f) s).2 ∧
      (s.pending = none → s.contents.Grows (perform (x >>= f) s).2.contents) := by
    have steps := first.steps s sound
    have grows := first.grows s sound
    rw [perform_bind]
    cases run : perform x s with
    | mk result t =>
      rw [run] at steps grows
      cases result with
      | error fault => exact ⟨steps, grows⟩
      | ok a =>
        have steps' := (next a).steps t steps.sound
        have grows' := (next a).grows t steps.sound
        refine ⟨⟨steps'.sound, fun settled => steps'.settled (steps.settled settled), fun settled => ?_⟩,
          fun settled => (grows settled).trans (grows' (steps.settled settled))⟩
        exact .trans (grows settled) steps.sound.contents (grows' (steps.settled settled)) (steps.step settled)
          (steps'.step (steps.settled settled))
  exact ⟨fun s sound => (both s sound).1, fun s sound => (both s sound).2⟩

theorem insertMembers_valid {kind : Kind} {members : Members} {given : Submission}
    (read : Candidate.read kind members = .valid given) : insertMembers kind members = insert given.candidate := by
  rw [insertMembers, candidate, read]
  rfl

theorem insertMembers_invalid {kind : Kind} {members : Members} {issues : List Issue}
    (read : Candidate.read kind members = .invalid issues) :
    insertMembers kind members = throw (.invalid (Candidate.title kind) issues) := by
  rw [insertMembers, candidate, read]
  rfl

theorem adds_insertMembers {kind : Kind} {members : Members}
    (unnamed : ∀ a ∈ kind.attributes, members.lookup a.name = none) : Adds (insertMembers kind members) := by
  cases read : Candidate.read kind members with
  | invalid issues =>
    rw [insertMembers_invalid read]
    exact (Looks.kept fun _ => rfl).adds
  | valid submission =>
    have proper := Candidate.read_proper read
    have supplied := (Candidate.read_valid read).2
    rw [Members.assignment_unnamed unnamed, Checked.valid.injEq] at supplied
    have nothing (result : Except Fault Outcome) : submission.candidate.supply result = .nothing := by
      cases result with
      | error fault => rfl
      | ok outcome => rw [Candidate.supply, ← supplied, Supply.only_nil]
    rw [insertMembers_valid read]
    refine ⟨fun s sound => ?_, fun s sound settled => (Upsert.run_ends sound proper).grows settled⟩
    have steps := (Upsert.run_ends sound proper).steps sound proper
    rwa [nothing] at steps

theorem adds_insertDomain (value : Data) : Adds (insertDomain value) :=
  adds_insertMembers nofun

theorem adds_insertEmail (value : Data) : Adds (insertEmail value) :=
  adds_insertMembers fun a named => by
    simp only [Kind.attributes, List.mem_singleton] at named
    subst named
    rfl

theorem adds_insertLink (subdomain address : Data) : Adds (insertLink subdomain address) :=
  adds_insertMembers nofun

theorem adds_insertAddress (family value : Data) : Adds (insertAddress family value) :=
  adds_insertMembers fun a named => by
    simp only [Kind.attributes, List.mem_cons, List.not_mem_nil, or_false] at named
    rcases named with rfl | rfl | rfl | rfl | rfl | rfl | rfl | rfl | rfl <;> rfl

theorem adds_insertSubdomain (value domain : Data) : Adds (insertSubdomain value domain) := by
  have insertion (id : Int) : Adds (insertMembers .subdomain [("domain_id", .int id), ("value", value)]) :=
    adds_insertMembers fun a named => by
      simp only [Kind.attributes, List.mem_singleton] at named
      subst named
      rfl
  refine (looks_getId? .domain domain).adds.bind fun found => ?_
  cases found with
  | some id => exact (Looks.kept fun _ => rfl).adds.bind fun id => insertion id
  | none =>
    simp only [map_eq_pure_bind]
    exact ((adds_insertDomain domain).bind fun _ => (Looks.kept fun _ => rfl).adds).bind fun id => insertion id

end Action

namespace Operation

variable {s : Session}

theorem steps_update (sound : s.Sound) {r : Revision} (proper : r.changes.Proper r.kind) :
    s.Steps (r.supply (perform (Action.update r) s).1) (perform (Action.update r) s).2 := by
  by_cases nothing : r.changes = []
  · rw [Action.perform_update_nil r nothing]
    simp only [Revision.supply, nothing, Supply.only_nil]
    exact sound.stays
  · by_cases ready : s.Ready
    · rw [Action.perform_update ready nothing]
      cases misfit : r.misfit? with
      | none =>
        have left : s.Leaves (s.contents.update r.kind r.id r.changes)
            (s.put (s.contents.update r.kind r.id r.changes)) := .committed s.seen
        have plain : r.changes.Plain := .of_fits (Revision.fits_changes (Revision.fits_iff.mpr misfit))
        exact left.steps sound (sound.contents.update proper plain r.id) fun _ => .update sound.contents _ _ _
      | some m => exact sound.stays
    · rw [Action.perform_update_unready ready nothing]
      exact sound.takesBack

theorem steps_revise (sound : s.Sound) (submission : Data) :
    s.Steps (match Revision.ofData submission with
      | .ok r => r.supply (perform (Action.revised submission >>= Action.update) s).1
      | .error _ => .nothing) (perform (Action.revised submission >>= Action.update) s).2 := by
  cases read : Revision.ofData submission with
  | ok r =>
    have revised : perform (Action.revised submission) s = (.ok r, s) := by
      rw [Action.revised, read]
      rfl
    rw [perform_bind_ok revised]
    exact steps_update sound (Revision.ofData_proper read)
  | error issues =>
    have refused : perform (Action.revised submission) s =
        (.error (.invalid (Action.unionTitle (Kind.revisable.map Revision.title)) issues), s) := by
      rw [Action.revised, read]
      rfl
    rw [perform_bind_error refused]
    exact sound.stays

theorem steps_bulk (sound : s.Sound) (attempt : Attempt) (kind : Kind) (query : Sql.Query) (f : Search)
    (change : Store → (Row → Bool) → Store) (formed : ∀ isMatch, (change s.contents isMatch).WellFormed)
    (step : ∀ isMatch, Store.Step .nothing s.contents (change s.contents isMatch)) :
    s.Steps .nothing (perform (Action.bulk attempt kind (Action.changeMatching query f change)) s).2 := by
  obtain ⟨result, t, run, ends⟩ := Action.bulk_ends s attempt kind query f change
  rw [run]
  cases ends with
  | changed => exact ⟨⟨formed _, formed _, sound.enforced⟩, fun _ => rfl, fun _ => step _⟩
  | refused => exact sound.takesBack
  | misfit => exact sound.stays

theorem steps_scope (sound : s.Sound) (attempt : Attempt) (kind : Kind) (f : Search) (unscoped : Bool) :
    s.Steps .nothing (perform (do
      Action.requireScopable kind
      Action.bulk attempt kind (Statement.setScope kind f unscoped)) s).2 := by
  cases scopable : kind.scopable with
  | true =>
    rw [Action.setScope_eq scopable]
    exact steps_bulk sound attempt kind (.update kind unscoped) f
      (fun store isMatch => store.setScope isMatch unscoped)
      (fun _ => sound.contents.setScope _ _) fun _ => .setScope sound.contents _ _
  | false =>
    rw [Action.perform_setScope_refused scopable]
    exact sound.stays

theorem steps_delete (sound : s.Sound) (kind : Kind) (f : Search) :
    s.Steps .nothing (perform (Action.delete kind f) s).2 := by
  rw [Action.perform_delete_eq sound.enforced]
  exact steps_bulk sound .delete kind (.delete kind) f Store.delete
    (fun _ => sound.contents.delete _) fun _ => .delete sound.contents _

theorem steps_insert (sound : s.Sound) (submission : Data) (insertion : Candidate → Action Outcome)
    (ends : ∀ c : Candidate, c.Proper → Upsert.Ends s c (perform (insertion c) s).1 (perform (insertion c) s).2) :
    s.Steps (match Submission.ofData submission with
      | .ok accepted => accepted.candidate.supply (perform (Action.offered submission >>= insertion) s).1
      | .error _ => .nothing) (perform (Action.offered submission >>= insertion) s).2 := by
  cases read : Submission.ofData submission with
  | ok accepted =>
    have offered : perform (Action.offered submission) s = (.ok accepted.candidate, s) := by
      rw [Action.offered, read]
      rfl
    have proper := Submission.ofData_proper read
    rw [perform_bind_ok offered]
    exact (ends accepted.candidate proper).steps sound proper
  | error issues =>
    have refused : perform (Action.offered submission) s =
        (.error (.invalid (Action.unionTitle (Kind.all.map Candidate.title)) issues), s) := by
      rw [Action.offered, read]
      rfl
    rw [perform_bind_error refused]
    exact sound.stays

theorem supply_insert (submission : Data) (result : Except Fault Outcome) :
    supply (.insert submission) (result.map .outcome) = match Submission.ofData submission with
      | .ok accepted => accepted.candidate.supply result
      | .error _ => .nothing := by
  cases result with
  | error fault => cases read : Submission.ofData submission <;> rfl
  | ok outcome => rfl

theorem supply_insertUnseen (submission : Data) (result : Except Fault Outcome) :
    supply (.insertUnseen submission) (result.map .outcome) = match Submission.ofData submission with
      | .ok accepted => accepted.candidate.supply result
      | .error _ => .nothing := by
  cases result with
  | error fault => cases read : Submission.ofData submission <;> rfl
  | ok outcome => rfl

theorem supply_update (submission : Data) (result : Except Fault Int) :
    supply (.update submission) (result.map .id) = match Revision.ofData submission with
      | .ok r => r.supply result
      | .error _ => .nothing := by
  cases result with
  | error fault => cases read : Revision.ofData submission <;> rfl
  | ok id => rfl

/-- Every operation is one step of the tables. -/
theorem steps (sound : s.Sound) (op : Operation) :
    s.Steps (op.supply (perform op.action s).1) (perform op.action s).2 := by
  cases op <;> simp only [action, perform_map_eq]
  case insert submission =>
    rw [supply_insert]
    exact steps_insert sound submission Action.insert fun c proper => Upsert.run_ends sound proper
  case insertUnseen submission =>
    rw [supply_insertUnseen]
    exact steps_insert sound submission Action.insertUnseen fun c proper => Upsert.storeOrMerge_ends sound proper
  case insertDomain value => exact (Action.adds_insertDomain value).steps s sound
  case insertSubdomain value domain => exact (Action.adds_insertSubdomain value domain).steps s sound
  case insertAddress family value => exact (Action.adds_insertAddress family value).steps s sound
  case insertLink subdomain address => exact (Action.adds_insertLink subdomain address).steps s sound
  case insertEmail value => exact (Action.adds_insertEmail value).steps s sound
  case update submission =>
    rw [supply_update]
    exact steps_revise sound submission
  case getRow kind key => exact (Action.looks_getRow? kind key).adds.steps s sound
  case getId kind key => exact (Action.looks_getId kind key).adds.steps s sound
  case findId kind key => exact (Action.looks_getId? kind key).adds.steps s sound
  case list kind => exact (Action.looks_list kind).adds.steps s sound
  case filter kind f => exact (Action.looks_filter kind f).adds.steps s sound
  case scope kind f => exact steps_scope sound .scope kind f false
  case noscope kind f => exact steps_scope sound .noscope kind f true
  case delete kind f => exact steps_delete sound kind f

end Operation
end Footprint
