import Footprint.Proofs.Validation.Names
import Footprint.Proofs.Workspace.Event

namespace Footprint

def Fault.isQuery : Fault → Bool
  | query .. => true
  | _ => false

def queryFailed {α : Type} : Except Fault α → Bool
  | .ok _ => false
  | .error fault => fault.isQuery

@[simp] theorem queryFailed_map {α β : Type} (f : α → β) (result : Except Fault α) :
    queryFailed (result.map f) = queryFailed result := by
  cases result <;> rfl

def reportsChange : Except Fault Outcome → Bool
  | .ok (changed, _) => changed
  | .error _ => false

namespace Session

variable {s t u : Session}

theorem Alike.refl (s : Session) : s.Alike s := ⟨s.seen, rfl⟩

theorem Alike.trans (first : s.Alike t) (second : t.Alike u) : s.Alike u := by
  obtain ⟨_, rfl⟩ := first
  obtain ⟨cache, rfl⟩ := second
  exact ⟨cache, rfl⟩

theorem Alike.rollback (alike : s.Alike t) : s.rollback.Alike t.rollback := by
  obtain ⟨_, rfl⟩ := alike
  exact .refl s.rollback

/-- What became of the transaction: whether it was committed, and whether a statement failed. -/
inductive Handles (s : Session) : Bool → Bool → Session → Prop
  | kept {t : Session} : s.Alike t → Handles s false false t
  | undone {t : Session} (failed : Bool) : s.rollback.Alike t → Handles s false failed t
  | committed {t : Session} (tables : Store) : (s.put tables).Alike t → Handles s true false t

namespace Handles

variable {commits failed : Bool}

theorem of_alike (alike : s.Alike t) (handles : t.Handles commits failed u) : s.Handles commits failed u := by
  cases handles with
  | kept alike' => exact .kept (alike.trans alike')
  | undone failed alike' => exact .undone failed (alike.rollback.trans alike')
  | committed tables alike' =>
    obtain ⟨_, rfl⟩ := alike
    obtain ⟨cache, rfl⟩ := alike'
    exact .committed tables ⟨cache, rfl⟩

theorem of_rollback (handles : s.rollback.Handles commits failed u) : s.Handles commits failed u := by
  cases handles with
  | kept alike => exact .undone false alike
  | undone failed alike => exact .undone failed alike
  | committed tables alike => exact .committed tables alike

theorem of_put {tables : Store} (handles : (s.put tables).Handles commits false u) : s.Handles true false u := by
  cases handles with
  | kept alike => exact .committed tables alike
  | undone failed alike =>
    obtain ⟨cache, rfl⟩ := alike
    exact .committed tables ⟨cache, rfl⟩
  | committed later alike => exact .committed later alike

theorem trans {commits' : Bool} (first : s.Handles commits false t) (second : t.Handles commits' failed u)
    (sane : commits = true → failed = false) : s.Handles (commits || commits') failed u := by
  cases first with
  | kept alike => exact second.of_alike alike
  | undone _ alike => exact (second.of_alike alike).of_rollback
  | committed tables alike =>
    obtain rfl := sane rfl
    exact (second.of_alike alike).of_put

theorem database_eq (handles : s.Handles false failed t) : t.database = s.database := by
  cases handles with
  | kept alike | undone _ alike => exact alike.database_eq

theorem sound (handles : s.Handles false failed t) (sound : s.Sound) : t.Sound := by
  cases handles with
  | kept alike =>
    obtain ⟨cache, rfl⟩ := alike
    exact sound.seen cache
  | undone _ alike =>
    obtain ⟨cache, rfl⟩ := alike
    exact sound.rollback.seen cache

theorem alike_of_settled (handles : s.Handles false failed t) (settled : s.pending = none) : s.Alike t := by
  cases handles with
  | kept alike => exact alike
  | undone _ alike =>
    have same : s.Alike s.rollback := ⟨{}, by simp [Session.rollback, ← settled]⟩
    exact same.trans alike

theorem settled_of_commits (handles : s.Handles true failed t) : t.pending = none := by
  cases handles with
  | committed tables alike =>
    obtain ⟨cache, rfl⟩ := alike
    rfl

theorem settled_of_failed (handles : s.Handles commits true t) : commits = false ∧ t.pending = none := by
  cases handles with
  | undone _ alike =>
    obtain ⟨cache, rfl⟩ := alike
    exact ⟨rfl, rfl⟩

end Handles

def Reports (s : Session) (x : Action Outcome) : Prop :=
  s.Handles (reportsChange (perform x s).1) (queryFailed (perform x s).1) (perform x s).2

theorem Reports.of_result {x : Action Outcome} {result : Except Fault Outcome} (run : perform x s = (result, t))
    (handles : s.Handles (reportsChange result) (queryFailed result) t) : s.Reports x := by
  rw [Reports, run]
  exact handles

end Session

/-! Insertions -/

namespace Upsert

variable {s t : Session} {c : Candidate} {result : Except Fault Outcome}

theorem Merges.handles {row : Row} (merges : Merges s c row result t) :
    s.Handles (reportsChange result) (queryFailed result) t := by
  cases merges with
  | same same => exact .kept (.refl s)
  | written differ fits => exact .committed _ (.refl _)
  | misfit differ misfit => exact .kept (.refl s)

theorem Stores.handles (stores : Stores s c result t) : s.Handles (reportsChange result) (queryFailed result) t := by
  cases stores with
  | misfit misfit => exact .kept (.refl s)
  | stored fits inserted => exact .committed _ (.refl _)
  | refused fits rejected absent => exact .undone true (.refl _)
  | overtaken fits rejected known merges =>
    -- The rejection takes back what was pending, and the merge may still commit.
    exact (merges.handles.of_alike ⟨_, rfl⟩).of_rollback

theorem Inserts.handles (inserts : Inserts s c result t) :
    s.Handles (reportsChange result) (queryFailed result) t := by
  cases inserts with
  | unready unready => exact .undone true (.refl _)
  | misfit ready misfit => exact .kept (.refl s)
  | found ready fits found merges => exact merges.handles.of_alike ⟨_, rfl⟩
  | absent ready fits absent stores => exact stores.handles.of_alike ⟨_, rfl⟩

theorem reports_storeOrMerge (sound : s.Sound) (proper : c.Proper) : s.Reports (storeOrMerge c) := by
  by_cases ready : s.Ready
  · exact (storeOrMerge_stores ready sound proper).handles
  · exact .of_result (perform_storeOrMerge_unready ready c) (.undone true (.refl _))

theorem reports_run (sound : s.Sound) (proper : c.Proper) : s.Reports (run c) := (run_inserts sound proper).handles

theorem Inserts.backed (inserts : Inserts s c result t) (ready : s.Ready)
    (parents : s.contents.parentsStored c.subject = true) : queryFailed result = false := by
  cases inserts with
  | unready unready => exact absurd ready unready
  | misfit ready misfit => rfl
  | found ready fits found merges => cases merges <;> rfl
  | absent ready fits absent stores =>
    have inserted := Store.insert?_of_absent absent parents
    cases stores with
    | misfit misfit => rfl
    | stored fits inserted => rfl
    | refused fits rejected absent => cases rejected.symm.trans inserted
    | overtaken fits rejected known merges => cases rejected.symm.trans inserted

end Upsert

namespace Action

variable {α β : Type} {s : Session}

theorem reports_offered (submission : Data) {insertion : Candidate → Action Outcome}
    (reports : ∀ c : Candidate, c.Proper → s.Reports (insertion c)) : s.Reports (offered submission >>= insertion) := by
  unfold offered
  cases read : Submission.ofData submission with
  | ok given => exact reports given.candidate (Submission.ofData_proper read)
  | error issues => exact .of_result rfl (.kept (.refl s))

theorem perform_insertMembers {kind : Kind} {members : Members} {given : Submission}
    (read : Candidate.read kind members = .valid given) (s : Session) :
    perform (insertMembers kind members) s = perform (insert given.candidate) s := by
  rw [insertMembers_valid read]

theorem perform_insertMembers_invalid {kind : Kind} {members : Members} {issues : List Issue}
    (read : Candidate.read kind members = .invalid issues) (s : Session) :
    perform (insertMembers kind members) s = (.error (.invalid (Candidate.title kind) issues), s) := by
  rw [insertMembers_invalid read]
  rfl

theorem reports_insertMembers (sound : s.Sound) (kind : Kind) (members : Members) :
    s.Reports (insertMembers kind members) := by
  cases read : Candidate.read kind members with
  | valid given =>
    rw [insertMembers_valid read]
    exact Upsert.reports_run sound (Candidate.read_proper read)
  | invalid issues => exact .of_result (perform_insertMembers_invalid read s) (.kept (.refl s))

/-! Lookups -/

def Peeks (x : Action α) : Prop := ∀ s : Session,
  if queryFailed (perform x s).1 then s.rollback.Alike (perform x s).2 else s.Alike (perform x s).2

theorem Peeks.pure (a : α) : Peeks (pure a) := fun s => .refl s

theorem Peeks.throw {fault : Fault} (other : fault.isQuery = false) : Peeks (throw fault : Action α) := by
  intro s
  change if fault.isQuery then s.rollback.Alike s else s.Alike s
  rw [other]
  exact .refl s

theorem Peeks.bind {x : Action α} {f : α → Action β} (first : Peeks x) (next : ∀ a, Peeks (f a)) : Peeks (x >>= f) := by
  intro s
  have first := first s
  rw [perform_bind]
  cases run : perform x s with
  | mk result t =>
    rw [run] at first
    cases result with
    | error fault => exact first
    | ok a =>
      have first : s.Alike t := first
      have next := next a t
      dsimp only at next ⊢
      split at next
      next failed =>
        rw [if_pos failed]
        exact first.rollback.trans next
      next sane =>
        rw [if_neg sane]
        exact first.trans next

theorem Peeks.map {x : Action α} (peeks : Peeks x) (f : α → β) : Peeks (f <$> x) := by
  rw [map_eq_pure_bind]
  exact peeks.bind fun a => .pure (f a)

theorem Peeks.alike {x : Action α} (peeks : Peeks x) (sane : queryFailed (perform x s).1 = false) :
    s.Alike (perform x s).2 := by
  have peeks := peeks s
  rwa [if_neg (Bool.not_eq_true _ ▸ sane)] at peeks

theorem peeks_guarded (attempt : Attempt) (kind : Kind) {body : Statement α} (reads : body.Reads) :
    Peeks (guarded attempt kind body) := by
  intro s
  obtain ⟨cache, same⟩ := reads s
  rw [perform_guarded]
  cases run : perform body s with
  | mk result t =>
    rw [run] at same
    change t = _ at same
    subst same
    cases result with
    | ok a => exact ⟨cache, rfl⟩
    | error e =>
      cases e with
      | misfit m => exact ⟨cache, rfl⟩
      | _ => exact .refl _

theorem peeks_criteria (kind : Kind) (key : Data) : Peeks (ofExcept (kind.criteria key)) := by
  cases kind with
  | link =>
    unfold Kind.criteria
    cases Kind.keyItems? key with
    | none => exact .throw rfl
    | some items => exact .pure _
  | _ => exact .pure _

theorem peeks_getRow? (kind : Kind) (key : Data) : Peeks (getRow? kind key) :=
  (peeks_criteria kind key).bind fun _ => peeks_guarded _ _ (Statement.reads_findRow _ _)

theorem peeks_getId? (kind : Kind) (key : Data) : Peeks (getId? kind key) :=
  (peeks_criteria kind key).bind fun _ => peeks_guarded _ _ (Statement.reads_findId _ _)

theorem peeks_getId (kind : Kind) (key : Data) : Peeks (getId kind key) := by
  refine (peeks_getId? kind key).bind fun found => ?_
  cases found with
  | some id => exact .pure id
  | none => exact .throw rfl

theorem peeks_list (kind : Kind) : Peeks (list kind) := peeks_guarded _ _ (Statement.reads_listRows kind)

theorem peeks_filter (kind : Kind) (f : Search) : Peeks (filter kind f) :=
  peeks_guarded _ _ (Statement.reads_filterRows kind f)

theorem Peeks.handles {x : Action α} (peeks : Peeks x) (s : Session) :
    s.Handles false (queryFailed (perform x s).1) (perform x s).2 := by
  have peeks := peeks s
  split at peeks
  next failed => exact .undone _ peeks
  next sane =>
    rw [Bool.not_eq_true _ |>.mp sane]
    exact .kept peeks

/-! The insertion of a subdomain with its domain -/

/-- Whether the insertion of a subdomain inserts its domain first. -/
def makesDomain (s : Session) (domain : Data) : Bool :=
  match perform (getId? .domain domain) s with
  | (.ok none, t) => reportsChange (perform (insertDomain domain) t).1
  | _ => false

def suppliesSomething (submission : Data) : Bool :=
  match Revision.ofData submission with
  | .ok r => !r.changes.isEmpty
  | .error _ => false

theorem holds_insertMembers (sound : s.Sound) {kind : Kind} {members : Members} {changed : Bool} {id : Int} {t : Session}
    (run : perform (insertMembers kind members) s = (.ok (changed, id), t)) :
    t.Ready ∧ t.Sound ∧ t.contents.holds kind id = true := by
  cases read : Candidate.read kind members with
  | invalid issues =>
    rw [perform_insertMembers_invalid read] at run
    cases run
  | valid given =>
    rw [perform_insertMembers read] at run
    have run : perform (Upsert.run given.candidate) s = (.ok (changed, id), t) := run
    have proper := Candidate.read_proper read
    have ends := Upsert.run_ends sound proper
    rw [run] at ends
    cases ends with
    | done which inserted left =>
      have formed := sound.which which
      obtain ⟨row, found, same, -⟩ := inserted.found formed proper
      obtain ⟨member, kind', -⟩ := Store.mem_of_lookup? found
      rw [← left.contents_eq] at member
      have ready := left.ready.mpr (Upsert.ready_of_run_ok run).1
      exact ⟨ready, left.sound sound (inserted.wellFormed formed proper),
        Store.holds_iff.mpr ⟨row, member, kind'.trans (Candidate.read_valid read).1, same⟩⟩

theorem subdomain_backed (ready : s.Ready) (sound : s.Sound) (value : Data) {id : Int}
    (held : s.contents.holds .domain id = true) :
    queryFailed (perform (insertMembers .subdomain [("domain_id", .int id), ("value", value)]) s).1 = false := by
  cases read : Candidate.read .subdomain [("domain_id", .int id), ("value", value)] with
  | invalid issues =>
    rw [perform_insertMembers_invalid read]
    rfl
  | valid given =>
    rw [perform_insertMembers read]
    have proper := Candidate.read_proper read
    obtain ⟨text, -, rfl⟩ := Candidate.read_subdomain.mp read
    exact (Upsert.run_inserts sound proper).backed ready ((Store.parentsStored_subdomain _ id text).trans held)

theorem handles_afterDomain (sound : s.Sound) (value domain : Data) :
    let x : Action Outcome := do
      let id ← Prod.snd <$> insertDomain domain
      insertMembers .subdomain [("domain_id", .int id), ("value", value)]
    s.Handles (reportsChange (perform (insertDomain domain) s).1 || reportsChange (perform x s).1)
      (queryFailed (perform x s).1) (perform x s).2 := by
  intro x
  have made : s.Reports (insertDomain domain) := reports_insertMembers sound _ _
  rw [Session.Reports] at made
  cases inserted : perform (insertDomain domain) s with
  | mk result t =>
    rw [inserted] at made
    have first : perform (Prod.snd <$> insertDomain domain) s = (result.map Prod.snd, t) := by
      rw [perform_map_eq, inserted]
    cases result with
    | error fault =>
      have run : perform x s = (.error fault, t) := perform_bind_error first _
      rw [run]
      exact made
    | ok outcome =>
      obtain ⟨ready, sound', held⟩ := holds_insertMembers sound inserted
      have run : perform x s = perform (insertMembers .subdomain _) t := perform_bind_ok first _
      rw [run]
      exact made.trans (reports_insertMembers sound' _ _) fun _ => subdomain_backed ready sound' value held

theorem handles_insertSubdomain (sound : s.Sound) (value domain : Data) :
    s.Handles (makesDomain s domain || reportsChange (perform (insertSubdomain value domain) s).1)
      (queryFailed (perform (insertSubdomain value domain) s).1) (perform (insertSubdomain value domain) s).2 := by
  have looks := (peeks_getId? .domain domain).handles s
  cases looked : perform (getId? .domain domain) s with
  | mk result t =>
    rw [looked] at looks
    cases result with
    | error fault =>
      have run : perform (insertSubdomain value domain) s = (.error fault, t) := perform_bind_error looked _
      rw [run, makesDomain, looked]
      exact looks
    | ok found =>
      have sound' := looks.sound sound
      have run : perform (insertSubdomain value domain) s = _ := perform_bind_ok looked _
      rw [run, makesDomain, looked]
      cases found with
      | some id => exact looks.trans (reports_insertMembers sound' _ _) nofun
      | none => exact looks.trans (handles_afterDomain sound' value domain) nofun

/-! Changes of stored rows -/

theorem handles_update (submission : Data) :
    let x := revised submission >>= update
    s.Handles ((perform x s).1.isOk && suppliesSomething submission) (queryFailed (perform x s).1) (perform x s).2 := by
  intro x
  cases read : Revision.ofData submission with
  | error issues =>
    have refused : perform x s = (.error (.invalid (unionTitle (Kind.revisable.map Revision.title)) issues), s) := by
      simp only [x, revised, read]
      rfl
    rw [refused]
    exact .kept (.refl s)
  | ok r =>
    have run : perform x s = perform (update r) s := by
      simp only [x, revised, read]
      rfl
    have supplies : suppliesSomething submission = !r.changes.isEmpty := by rw [suppliesSomething, read]
    rw [run, supplies]
    by_cases nothing : r.changes = []
    · rw [perform_update_nil r nothing, nothing]
      exact .kept (.refl s)
    have something : r.changes.isEmpty = false := by simpa using nothing
    rw [something]
    by_cases ready : s.Ready
    · rw [perform_update ready nothing]
      split
      · exact .committed _ (.refl _)
      · exact .kept (.refl s)
    · rw [perform_update_unready ready nothing]
      exact .undone true (.refl _)

theorem handles_bulk (attempt : Attempt) (kind : Kind) (query : Sql.Query) (f : Search)
    (change : Store → (Row → Bool) → Store) :
    let x := bulk attempt kind (changeMatching query f change)
    s.Handles (perform x s).1.isOk (queryFailed (perform x s).1) (perform x s).2 := by
  intro x
  obtain ⟨result, t, run, ends⟩ := bulk_ends s attempt kind query f change
  rw [run]
  cases ends with
  | changed => exact .committed _ ⟨{}, rfl⟩
  | refused => exact .undone true (.refl _)
  | misfit => exact .kept (.refl s)

theorem handles_setScope (attempt : Attempt) (kind : Kind) (f : Search) (unscoped : Bool) :
    let x : Action Nat := do
      requireScopable kind
      bulk attempt kind (Statement.setScope kind f unscoped)
    s.Handles (perform x s).1.isOk (queryFailed (perform x s).1) (perform x s).2 := by
  intro x
  cases scopable : kind.scopable with
  | true =>
    rw [show x = _ from setScope_eq scopable attempt f unscoped]
    exact handles_bulk attempt kind (.update kind unscoped) f
      fun store isMatch => store.setScope isMatch unscoped
  | false =>
    rw [show perform x s = _ from perform_setScope_refused scopable attempt f unscoped s]
    exact .kept (.refl s)

theorem handles_delete (sound : s.Sound) (kind : Kind) (f : Search) :
    s.Handles (perform (delete kind f) s).1.isOk (queryFailed (perform (delete kind f) s).1)
      (perform (delete kind f) s).2 := by
  rw [perform_delete_eq sound.enforced]
  exact handles_bulk .delete kind (.delete kind) f Store.delete

end Action

namespace Operation

variable {s : Session}

def answersChange : Except Fault Answer → Bool
  | .ok (.outcome (changed, _)) => changed
  | _ => false

@[simp] theorem answersChange_outcome (result : Except Fault Outcome) :
    answersChange (result.map .outcome) = reportsChange result := by
  cases result <;> rfl

/-- Whether the operation commits: an insertion that made a row or wrote into one, an update with something to
    write, and an operation on many rows, each if it succeeds. -/
def commits (op : Operation) (s : Session) : Bool :=
  let result := (perform op.action s).1
  match op with
  | insert _ | insertUnseen _ | insertDomain _ | insertAddress .. | insertLink .. | insertEmail _ => answersChange result
  | insertSubdomain _ domain => Action.makesDomain s domain || answersChange result
  | update submission => result.isOk && Action.suppliesSomething submission
  | scope .. | noscope .. | delete .. => result.isOk
  | getRow .. | getId .. | findId .. | list _ | filter .. => false

/-- Every operation commits, takes back what is pending because a statement failed, or leaves it at that. -/
theorem handles (sound : s.Sound) (op : Operation) :
    s.Handles (op.commits s) (queryFailed (perform op.action s).1) (perform op.action s).2 := by
  cases op <;>
    simp only [commits, action, perform_map_eq, queryFailed_map, answersChange_outcome, isOk_map]
  case insert submission => exact Action.reports_offered submission fun c proper => Upsert.reports_run sound proper
  case insertUnseen submission =>
    exact Action.reports_offered submission fun c proper => Upsert.reports_storeOrMerge sound proper
  case insertDomain value => exact Action.reports_insertMembers sound _ _
  case insertSubdomain value domain => exact Action.handles_insertSubdomain sound value domain
  case insertAddress family value => exact Action.reports_insertMembers sound _ _
  case insertLink subdomain address => exact Action.reports_insertMembers sound _ _
  case insertEmail value => exact Action.reports_insertMembers sound _ _
  case update submission => exact Action.handles_update submission
  case getRow kind key => exact (Action.peeks_getRow? kind key).handles s
  case getId kind key => exact (Action.peeks_getId kind key).handles s
  case findId kind key => exact (Action.peeks_getId? kind key).handles s
  case list kind => exact (Action.peeks_list kind).handles s
  case filter kind f => exact (Action.peeks_filter kind f).handles s
  case scope kind f => exact Action.handles_setScope .scope kind f false
  case noscope kind f => exact Action.handles_setScope .noscope kind f true
  case delete kind f => exact Action.handles_delete sound kind f

end Operation
end Footprint
