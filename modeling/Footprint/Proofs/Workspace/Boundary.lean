import Footprint.Proofs.Workspace.Transaction

namespace Footprint

variable {s t : Session} {c : Candidate}

/-! What an insertion writes -/

/-- Whether the candidate is a new row, or has something to write into the row with its key. -/
def Candidate.writes (c : Candidate) (tables : Store) : Bool :=
  (tables.lookup? c.kind c.key).all fun row => !(c.changes row).isEmpty

/-- Whether the candidate is not rejected: its row is there, or its parents are. -/
def Store.takes (store : Store) (c : Candidate) : Bool :=
  (store.lookup? c.kind c.key).isSome || store.parentsStored c.subject

/-- The tables that a candidate is inserted into. A rejection has taken back what was pending. -/
def Session.target (s : Session) (c : Candidate) : Store :=
  if s.contents.takes c then s.contents else s.database.store

namespace Upsert

variable {changed : Bool} {id : Int}

theorem Merges.answers {row : Row} (merges : Merges s c row (.ok (changed, id)) t) :
    changed = !(c.changes row).isEmpty ∧ (changed = false → s.Alike t) := by
  cases merges with
  | same same => exact ⟨by simp [same], fun _ => .refl s⟩
  | written differ fits => exact ⟨by simp [differ], nofun⟩

theorem Inserts.answers (inserts : Inserts s c (.ok (changed, id)) t) :
    changed = c.writes (s.target c) ∧ (s.contents.takes c = true → changed = false → s.Alike t) := by
  cases inserts with
  | @found row cache result t ready fits found merges =>
    obtain ⟨dirty, alike⟩ := merges.answers
    refine ⟨by simp [Candidate.writes, Session.target, Store.takes, found, dirty], fun _ same => ?_⟩
    exact Session.Alike.trans ⟨cache, rfl⟩ (alike same)
  | absent ready fits absent stores =>
    have absent' : s.contents.takes c = s.contents.parentsStored c.subject := by simp [Store.takes, absent]
    cases stores with
    | stored fits inserted =>
      have parents : s.contents.parentsStored c.subject = true := (Store.insert?_eq_some_iff.mp inserted).2.1
      exact ⟨by simp [Candidate.writes, Session.target, absent', absent, parents], fun _ => nofun⟩
    | overtaken fits rejected known merges =>
      obtain ⟨dirty, -⟩ := merges.answers
      have orphan := Store.orphan_of_rejected absent rejected
      rw [absent', orphan]
      exact ⟨by simp [Candidate.writes, Session.target, absent', orphan, known, dirty], nofun⟩

theorem Inserts.provides {result : Except Fault Outcome} (inserts : Inserts s c result t) (ready : s.Ready)
    (fits : c.fits = true) (parents : s.contents.parentsStored c.subject = true) (bare : c.supplied = []) :
    ∃ row, result = .ok (c.writes s.contents, row.id) ∧ s.contents.Provides c row t.contents := by
  cases inserts with
  | unready unready => exact absurd ready unready
  | misfit ready misfit => simp [Key.fits_iff.mp (key_fits fits)] at misfit
  | @found row cache result t ready keyFits found merges =>
    have nothing : c.changes row = [] := by simp [Candidate.changes, bare]
    cases merges with
    | same same => exact ⟨row, by simp [Candidate.writes, found, nothing], .known found⟩
    | written differ fits | misfit differ misfit => exact absurd nothing differ
  | absent ready keyFits absent stores =>
    have inserted := Store.insert?_of_absent absent parents
    cases stores with
    | misfit misfit => simp [Option.isNone_iff_eq_none.mp fits] at misfit
    | stored fits inserted =>
      have written : c.writes s.contents = true := by simp [Candidate.writes, absent]
      exact ⟨s.contents.created c, written ▸ rfl, .added (.of_fits fits) inserted⟩
    | refused fits rejected absent => cases rejected.symm.trans inserted
    | overtaken fits rejected known merges => cases rejected.symm.trans inserted

end Upsert

theorem Store.Provides.writes {before after : Store} {c : Candidate} {row : Row} (provides : before.Provides c row after)
    (bare : c.supplied = []) : c.writes before = decide (row ∉ before.rows) := by
  cases provides with
  | known found => simp [Candidate.writes, Candidate.changes, bare, found, (Store.mem_of_lookup? found).1]
  | added plain inserted =>
    simp [Candidate.writes, Store.absent_of_insert? inserted, before.created_not_mem c]

namespace Action

theorem perform_insertMembers_subdomain (ready : s.Ready) (sound : s.Sound) {id : Int}
    (held : s.contents.holds .domain id = true) (fits : Word.holds id = true) {value : String} (nonempty : value ≠ "") :
    ∃ row t, perform (insertMembers .subdomain [("domain_id", .int id), ("value", .text value)]) s =
        (.ok (decide (row ∉ s.contents.rows), row.id), t) ∧
      s.contents.Provides ⟨.subdomain id value, []⟩ row t.contents := by
  have read := Candidate.read_subdomain_text id nonempty
  have inserts := Upsert.run_inserts sound (Candidate.read_proper read)
  obtain ⟨row, told, provides⟩ := inserts.provides ready ((Candidate.fits_subdomain id value).trans fits)
    ((Store.parentsStored_subdomain _ id value).trans held) rfl
  rw [provides.writes rfl] at told
  exact ⟨row, _, (perform_insertMembers read s).trans (Prod.ext told rfl), provides⟩

theorem perform_getId?_unready (unready : ¬ s.Ready) {kind : Kind} {key : Data} {criteria : List Criterion}
    (given : kind.criteria key = .ok criteria) :
    perform (getId? kind key) s = (.error (.query .lookUp kind), s.rollback) := by
  have read : perform (ofExcept (kind.criteria key)) s = (.ok criteria, s) := by
    rw [given]
    rfl
  obtain ⟨e, other, selected⟩ := Upsert.perform_select_unready unready kind criteria
  rw [getId?, perform_bind_ok read]
  exact guarded_error other (perform_bind_error selected _)

theorem ready_of_getId? {kind : Kind} {key : Data} {found : Option Int}
    (looked : perform (getId? kind key) s = (.ok found, t)) : s.Ready := by
  by_contra unready
  cases given : kind.criteria key with
  | ok criteria =>
    rw [perform_getId?_unready unready given] at looked
    cases looked
  | error fault =>
    rw [getId?, given] at looked
    cases looked

theorem holds_of_getId? {kind : Kind} {key : Data} {id : Int}
    (looked : perform (getId? kind key) s = (.ok (some id), t)) : s.contents.holds kind id = true := by
  have ready := ready_of_getId? looked
  obtain ⟨criteria, u, given, looked⟩ := perform_bind_eq_ok looked
  obtain rfl : s = u := congrArg Prod.snd given
  exact Statement.holds_of_findId ready (guarded_eq_ok looked)

theorem makesDomain_eq (sound : s.Sound) {domain : Data} {given : Submission}
    (unknown : (perform (getId? .domain domain) s).1 = .ok none)
    (read : Candidate.read .domain [("value", domain)] = .valid given) :
    makesDomain s domain = given.candidate.writes s.contents := by
  have looks := (peeks_getId? .domain domain).alike (s := s) (by rw [unknown]; rfl)
  cases looked : perform (getId? .domain domain) s with
  | mk result t =>
    rw [looked] at unknown looks
    obtain rfl : result = .ok none := unknown
    have ready := ready_of_getId? looked
    obtain ⟨cache, rfl⟩ := looks
    obtain ⟨text, -, rfl⟩ := Candidate.read_domain.mp read
    have made : makesDomain s domain = reportsChange (perform (insertDomain domain) { s with seen := cache }).1 := by
      rw [makesDomain, looked]
    have inserts := Upsert.run_inserts (sound.seen cache) (Candidate.read_proper read)
    obtain ⟨row, run, -⟩ := inserts.provides (ready.seen cache) rfl rfl rfl
    rw [made, insertDomain, perform_insertMembers read, show (perform (Action.insert _) _).1 = _ from run]
    rfl

end Action

namespace Operation

variable {op : Operation}

/-- The candidate that an insertion offers. The insertion of a subdomain has found its domain before. -/
inductive Offers (s : Session) : Operation → Candidate → Prop
  | insert {submission : Data} {given : Submission} :
    Submission.ofData submission = .ok given → Offers s (.insert submission) given.candidate
  | insertDomain {value : Data} {given : Submission} :
    Candidate.read .domain [("value", value)] = .valid given → Offers s (.insertDomain value) given.candidate
  | insertSubdomain {value domain : Data} {id : Int} {given : Submission} :
    (perform (Action.getId? .domain domain) s).1 = .ok (some id) →
    Candidate.read .subdomain [("domain_id", .int id), ("value", value)] = .valid given →
    Offers s (.insertSubdomain value domain) given.candidate
  | insertAddress {family value : Data} {given : Submission} :
    Candidate.read .address [("family", family), ("value", value)] = .valid given →
    Offers s (.insertAddress family value) given.candidate
  | insertLink {subdomain address : Data} {given : Submission} :
    Candidate.read .link [("subdomain_id", subdomain), ("ip_addr_id", address)] = .valid given →
    Offers s (.insertLink subdomain address) given.candidate
  | insertEmail {value : Data} {given : Submission} :
    Candidate.read .email [("value", value)] = .valid given → Offers s (.insertEmail value) given.candidate

theorem Offers.proper (offers : op.Offers s c) : c.Proper := by
  cases offers with
  | insert read => exact Submission.ofData_proper read
  | insertSubdomain looked read => exact Candidate.read_proper read
  | insertDomain read | insertAddress read | insertLink read | insertEmail read => exact Candidate.read_proper read

theorem Offers.run (offers : op.Offers s c) : ∃ t, s.Alike t ∧
    perform op.action s = ((perform (Action.insert c) t).1.map .outcome, (perform (Action.insert c) t).2) := by
  cases offers with
  | insert read =>
    refine ⟨s, .refl s, ?_⟩
    rw [action, perform_map_eq, Action.offered, read]
    rfl
  | @insertSubdomain value domain id given looked read =>
    have peeks := Action.peeks_getId? .domain domain s
    rw [looked] at peeks
    have found : perform (Action.getId? .domain domain) s = (.ok (some id), _) := Prod.ext looked rfl
    have run : perform (Action.insertSubdomain value domain) s = _ := perform_bind_ok found _
    refine ⟨_, peeks, ?_⟩
    rw [action, perform_map_eq, run, ← Action.perform_insertMembers read]
    rfl
  | insertDomain read | insertAddress read | insertLink read | insertEmail read =>
    refine ⟨s, .refl s, ?_⟩
    rw [action, perform_map_eq, ← Action.perform_insertMembers read s]
    rfl

theorem Offers.commits_eq (offers : op.Offers s c) : op.commits s = answersChange (perform op.action s).1 := by
  cases offers with
  | @insertSubdomain value domain id given looked read =>
    have known : Action.makesDomain s domain = false := by
      unfold Action.makesDomain
      split
      next run => cases looked.symm.trans (congrArg Prod.fst run)
      next => rfl
    rw [commits, known, Bool.false_or]
  | _ => rfl

theorem Offers.commits_iff (offers : op.Offers s c) (sound : s.Sound) (succeeds : (perform op.action s).1.isOk = true) :
    op.commits s = c.writes (s.target c) ∧
      (s.contents.takes c = true → op.commits s = false → s.Alike (s.step op)) := by
  obtain ⟨_, ⟨cache, rfl⟩, performed⟩ := offers.run
  rw [Session.step, offers.commits_eq, performed, answersChange_outcome]
  rw [performed, isOk_map] at succeeds
  cases run : perform (Action.insert c) { s with seen := cache } with
  | mk result t =>
    cases result with
    | error fault =>
      rw [run] at succeeds
      cases succeeds
    | ok outcome =>
      obtain ⟨writes, alike⟩ := (Upsert.Inserts.of_run (sound.seen cache) offers.proper run).answers
      exact ⟨writes, fun taken same => Session.Alike.trans ⟨cache, rfl⟩ (alike taken same)⟩

end Operation

namespace Session

namespace Event

def isOwn : Event → Bool
  | upgrade | downgrade | close | beside _ => false
  | _ => true

def looks : Event → Bool
  | operation (.getRow ..) | operation (.getId ..) | operation (.findId ..) | operation (.list _)
  | operation (.filter ..) | getById .. => true
  | _ => false

def commits (s : Session) : Event → Bool
  | commit => true
  | operation op => op.commits s
  | _ => false

end Event

/-- The tables at the last commit point, where those given are the ones committed before. -/
def committedAfter (s : Session) (tables : Store) : List Event → Store
  | [] => tables
  | event :: rest =>
    let t := (perform event.action s).2
    t.committedAfter (if event.commits s then t.contents else tables) rest

def lastCommit (s : Session) (events : List Event) : Store := s.committedAfter s.contents events

/-- What is committed changes at a commit point alone, and nothing is pending after it. -/
structure Settles (s : Session) (commits : Bool) (t : Session) : Prop where
  store : t.database.store = if commits then t.contents else s.database.store
  pending : commits = true → t.pending = none

theorem Handles.settles {commits failed : Bool} (handles : s.Handles commits failed t) : s.Settles commits t := by
  cases commits with
  | true =>
    have settled := handles.settled_of_commits
    exact ⟨(contents_of_settled settled).symm, fun _ => settled⟩
  | false => exact ⟨congrArg Database.store handles.database_eq, nofun⟩

theorem settles_changeMatching (s : Session) (query : Sql.Query) (f : Search) (change : Store → (Row → Bool) → Store) :
    s.Settles false (perform (Action.bare (Action.changeMatching query f change)) s).2 := by
  rcases bare_changeMatching s query f change with kept | ⟨isMatch, changed⟩
  · rw [kept]
    exact ⟨rfl, nofun⟩
  · rw [changed]
    exact ⟨rfl, nofun⟩

theorem settles_scopePending (s : Session) (kind : Kind) (f : Search) (unscoped : Bool) :
    s.Settles false (perform (Action.scopePending kind f unscoped) s).2 := by
  unfold Action.scopePending
  cases kind.scopable with
  | false => exact ⟨rfl, nofun⟩
  | true =>
    rw [Statement.setScope_eq]
    exact settles_changeMatching s (.update kind unscoped) f
      fun store isMatch => store.setScope isMatch unscoped

theorem alike_getById (s : Session) (kind : Kind) (id : Data) : s.Alike (perform (Action.getById? kind id) s).2 := by
  unfold Action.getById?
  split
  · rw [Action.perform_bare_state]
    exact Statement.reads_findRow kind _ s
  · exact .refl s

theorem settles_event (sound : s.Sound) {event : Event} (own : event.isOwn = true) :
    s.Settles (event.commits s) (perform event.action s).2 := by
  cases event with
  | operation op =>
    rw [Event.action, perform_map_eq]
    exact (op.handles sound).settles
  | unsupported attempt value => exact ⟨rfl, nofun⟩
  | getById kind id =>
    rw [Event.action, perform_map_eq]
    exact Handles.settles (.kept (alike_getById s kind id))
  | scopePending kind f unscoped =>
    rw [Event.action, perform_map_eq]
    exact settles_scopePending s kind f unscoped
  | deletePending kind f =>
    rw [Event.action, perform_map_eq, Action.perform_deletePending_eq sound.enforced]
    exact settles_changeMatching s (.delete kind) f Store.delete
  | commit => exact ⟨rfl, fun _ => rfl⟩
  | rollback => exact ⟨rfl, nofun⟩
  | upgrade | downgrade | close | beside => cases own

theorem Reachable.event (reached : s.Reachable) {event : Event} (own : event.isOwn = true) :
    (perform event.action s).2.Reachable := by
  cases event with
  | operation op =>
    rw [Event.action, perform_map_eq]
    exact reached.operation op
  | unsupported attempt value => exact reached
  | getById kind id =>
    rw [Event.action, perform_map_eq]
    exact reached.getById kind id
  | scopePending kind f unscoped =>
    rw [Event.action, perform_map_eq]
    exact reached.scopePending kind f unscoped
  | deletePending kind f =>
    rw [Event.action, perform_map_eq]
    exact reached.deletePending kind f
  | commit => exact reached.commit
  | rollback => exact reached.rollback
  | upgrade | downgrade | close | beside => cases own

theorem alike_of_looks {event : Event} (looks : event.looks = true)
    (sane : queryFailed (perform event.action s).1 = false) : s.Alike (perform event.action s).2 := by
  cases event with
  | operation op =>
    refine Action.Peeks.alike (.map ?_ some) sane
    cases op with
    | getRow kind key => exact (Action.peeks_getRow? kind key).map _
    | getId kind key => exact (Action.peeks_getId kind key).map _
    | findId kind key => exact (Action.peeks_getId? kind key).map _
    | list kind => exact (Action.peeks_list kind).map _
    | filter kind f => exact (Action.peeks_filter kind f).map _
    | _ => cases looks
  | getById kind id =>
    rw [Event.action, perform_map_eq]
    exact alike_getById s kind id
  | _ => cases looks

theorem committed_through (reached : s.Reachable) {events : List Event} (own : ∀ event ∈ events, event.isOwn = true) :
    (s.through events).Reachable ∧
      (s.through events).database.store = s.committedAfter s.database.store events := by
  -- Along the events, what the first one leaves committed are the tables to start the rest from.
  induction events generalizing s with
  | nil => exact ⟨reached, rfl⟩
  | cons event rest ih =>
    have own' := own event (by simp)
    obtain ⟨reached', committed⟩ := ih (reached.event own') fun later member => own later (by simp [member])
    refine ⟨reached', committed.trans ?_⟩
    rw [committedAfter, (settles_event reached.sound own').store]

/-- On one handle, a rollback and a statement that fails go back to the tables at the last commit point. An
    insertion commits if it makes a row or writes something, even if it is the domain of a subdomain that fails. A
    lookup, or an insertion that is not rejected and writes nothing, leaves what is pending alone. -/
theorem contents_at_commit_points (reached : s.Reachable) (settled : s.pending = none) {events : List Event}
    (own : ∀ event ∈ events, event.isOwn = true) :
    let t := s.through events
    t.database.store = s.lastCommit events ∧
    (perform Event.rollback.action t).2.contents = s.lastCommit events ∧
    (∀ op : Operation, queryFailed (perform op.action t).1 = true →
      op.commits t = false ∧ (t.step op).contents = s.lastCommit events) ∧
    (∀ event : Event, event.isOwn = true → event.commits t = true → (perform event.action t).2.pending = none) ∧
    (∀ event : Event, event.looks = true → queryFailed (perform event.action t).1 = false →
      t.Alike (perform event.action t).2) ∧
    (∀ (op : Operation) (c : Candidate), op.Offers t c → (perform op.action t).1.isOk = true →
      op.commits t = c.writes (t.target c) ∧
      (t.contents.takes c = true → op.commits t = false → t.Alike (t.step op))) ∧
    ∀ (value domain : Data) (given : Submission), (perform (Action.getId? .domain domain) t).1 = .ok none →
      Candidate.read .domain [("value", domain)] = .valid given →
      let op := Operation.insertSubdomain value domain
      op.commits t = (given.candidate.writes t.contents || Operation.answersChange (perform op.action t).1) := by
  intro t
  obtain ⟨reached', committed⟩ := committed_through reached own
  have last : t.database.store = s.lastCommit events := by
    rw [lastCommit, contents_of_settled settled]
    exact committed
  refine ⟨last, last, fun op failed => ?_, fun event own' => (settles_event reached'.sound own').pending,
    fun event => alike_of_looks, fun op c offers => offers.commits_iff reached'.sound, ?_⟩
  · have handles := op.handles reached'.sound
    rw [failed] at handles
    obtain ⟨kept, settled'⟩ := handles.settled_of_failed
    rw [kept] at handles
    refine ⟨kept, (contents_of_settled settled').trans ?_⟩
    rw [handles.database_eq, last]
  · intro value domain given unknown read op
    have made := Action.makesDomain_eq reached'.sound unknown read
    change (Action.makesDomain t domain || Operation.answersChange (perform op.action t).1) = _
    rw [made]

/-- A deletion that is not committed outlasts a list and an insertion of what is there, and is taken back by a
    rollback and by a filter that cannot be read. -/
theorem contents_at_commit_points_of_pending_delete :
    let offer (value : String) : Event := .operation (.insertDomain (.text value))
    let run : List Event := [offer "example.org", offer "example.com",
      .deletePending .domain (.ofText "value = 'example.org'"), .operation (.list .domain), offer "example.com"]
    let t := inMemory.through run
    let subjects (tables : Store) : List Subject := tables.rows.map Row.subject
    let both : List Subject := [.domain "example.org", .domain "example.com"]
    subjects t.contents = [.domain "example.com"] ∧
    subjects (perform Event.rollback.action t).2.contents = both ∧
    subjects (t.step (.filter .domain (.ofText "value ="))).contents = both := by
  intro offer run t subjects both
  have own : ∀ event ∈ run, event.isOwn = true := by decide
  obtain ⟨-, back, fails, -⟩ := contents_at_commit_points (.fresh .memory) rfl own
  have failed : queryFailed (perform (Operation.filter .domain (.ofText "value =")).action t).1 = true := by decide +kernel
  obtain ⟨-, undone⟩ := fails _ failed
  have last : subjects (inMemory.lastCommit run) = both := by decide +kernel
  exact ⟨by decide +kernel, (congrArg subjects back).trans last, (congrArg subjects undone).trans last⟩

end Session
end Footprint
