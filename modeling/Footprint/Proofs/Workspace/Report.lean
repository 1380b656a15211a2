import Footprint.Proofs.Workspace.Failure
import Footprint.Proofs.Workspace.Subdomain

namespace Footprint

variable {s t : Session} {c : Candidate} {op : Operation} {id : Int}

theorem Upsert.Inserts.unreported (inserts : Upsert.Inserts s c (.ok (false, id)) t) :
    (∃ row, s.contents.lookup? c.kind c.key = some row ∧ row.id = id ∧ t.contents = s.contents) ∨
    (s.contents.lookup? c.kind c.key = none ∧ s.contents.parentsStored c.subject = false ∧
      ∃ row, s.database.store.lookup? c.kind c.key = some row ∧ row.id = id ∧ t.contents = s.database.store) := by
  cases inserts with
  | @found row cache result t ready fits found merges =>
    cases merges with
    | same same => exact .inl ⟨row, found, rfl, rfl⟩
  | absent ready fits absent stores =>
    cases stores with
    | overtaken fits rejected known merges =>
      cases merges with
      | same same => exact .inr ⟨absent, Store.orphan_of_rejected absent rejected, _, known, rfl, rfl⟩

namespace Operation

def isInsertion : Operation → Bool
  | insert _ | insertDomain _ | insertSubdomain .. | insertAddress .. | insertLink .. | insertEmail _ => true
  | _ => false

theorem read_of_insertMembers {kind : Kind} {members : Members}
    (succeeds : (perform (Action.insertMembers kind members) s).1.isOk = true) :
    ∃ given, Candidate.read kind members = .valid given := by
  cases read : Candidate.read kind members with
  | valid given => exact ⟨given, rfl⟩
  | invalid issues =>
    rw [Action.perform_insertMembers_invalid read] at succeeds
    cases succeeds

theorem read_of_outcome {kind : Kind} {members : Members}
    (succeeds : (perform (Answer.outcome <$> Action.insertMembers kind members) s).1.isOk = true) :
    ∃ given, Candidate.read kind members = .valid given :=
  read_of_insertMembers (by rwa [perform_map_eq, isOk_map] at succeeds)

theorem offers_of_isOk (insertion : op.isInsertion = true) (succeeds : (perform op.action s).1.isOk = true) :
    (∃ c, op.Offers s c) ∨ ∃ value domain, op = .insertSubdomain value domain ∧
      (perform (Action.getId? .domain domain) s).1 = .ok none := by
  cases op with
  | insert submission =>
    cases read : Submission.ofData submission with
    | ok given => exact .inl ⟨_, .insert read⟩
    | error issues =>
      rw [action, perform_map_eq, Action.offered, read] at succeeds
      cases succeeds
  | insertSubdomain value domain =>
    rw [action, perform_map_eq, isOk_map, Action.insertSubdomain, perform_bind] at succeeds
    cases looked : perform (Action.getId? .domain domain) s with
    | mk result t =>
      rw [looked] at succeeds
      cases result with
      | error fault => cases succeeds
      | ok found =>
        have looked := congrArg Prod.fst looked
        cases found with
        | none => exact .inr ⟨value, domain, rfl, looked⟩
        | some id =>
          obtain ⟨given, read⟩ := read_of_insertMembers succeeds
          exact .inl ⟨_, .insertSubdomain looked read⟩
  | insertDomain value =>
    obtain ⟨given, read⟩ := read_of_outcome succeeds
    exact .inl ⟨_, .insertDomain read⟩
  | insertAddress family value =>
    obtain ⟨given, read⟩ := read_of_outcome succeeds
    exact .inl ⟨_, .insertAddress read⟩
  | insertLink subdomain address =>
    obtain ⟨given, read⟩ := read_of_outcome succeeds
    exact .inl ⟨_, .insertLink read⟩
  | insertEmail value =>
    obtain ⟨given, read⟩ := read_of_outcome succeeds
    exact .inl ⟨_, .insertEmail read⟩
  | _ => cases insertion

theorem outcome_of_map {result : Except Fault Outcome} {outcome : Outcome}
    (told : result.map .outcome = .ok (Answer.outcome outcome)) : result = .ok outcome := by
  cases result with
  | error fault => cases told
  | ok other =>
    cases told
    rfl

/-- The tables that an insertion can leave if it reports that the row with an id is there unchanged. -/
inductive Unreported (s : Session) (id : Int) : Operation → Store → Prop
  | same {op : Operation} : Unreported s id op s.contents
  /-- The subdomain is there, but the domain that it was offered with was not. -/
  | domain {value domain : Data} {name text : String} {row : Row} :
    Rule.nonemptyText value = .ok text → s.contents.lookup? .subdomain (.value text) = some row → row.id = id →
    Rule.nonemptyText domain = .ok name → s.contents.lookup? .domain (.value name) = none →
    Unreported s id (.insertSubdomain value domain) ⟨s.contents.rows ++ [s.contents.created ⟨.domain name, []⟩]⟩
  /-- The row and its parent were removed without a commit. The rejection took that back, and the row was there. -/
  | takenBack {op : Operation} {c : Candidate} {row : Row} :
    op.isSingle = true → op.Offers s c → s.contents.lookup? c.kind c.key = none →
    s.contents.parentsStored c.subject = false →
    s.database.store.lookup? c.kind c.key = some row → row.id = id → Unreported s id op s.database.store

theorem Offers.backed (offers : op.Offers s c) (several : op.isSingle = false) :
    s.contents.parentsStored c.subject = true := by
  cases offers with
  | insertSubdomain looked read =>
    obtain ⟨text, -, rfl⟩ := Candidate.read_subdomain.mp read
    exact (Store.parentsStored_subdomain _ _ text).trans (Action.holds_of_getId? (Prod.ext looked rfl))
  | _ => cases several

theorem Offers.unreported (offers : op.Offers s c) (sound : s.Sound)
    (told : (perform op.action s).1 = .ok (.outcome (false, id))) : op.Unreported s id (s.step op).contents := by
  obtain ⟨_, ⟨cache, rfl⟩, performed⟩ := offers.run
  rw [performed] at told
  obtain ⟨u, inserted⟩ : ∃ u, perform (Action.insert c) { s with seen := cache } = (.ok (false, id), u) :=
    ⟨_, Prod.ext (outcome_of_map told) rfl⟩
  rw [Session.step, performed, inserted]
  change op.Unreported s id u.contents
  have inserts := Upsert.Inserts.of_run (sound.seen cache) offers.proper inserted
  rcases inserts.unreported with ⟨row, -, -, same⟩ | ⟨absent, orphan, row, known, same, back⟩
  · rw [same]
    exact .same
  · rw [back]
    cases single : op.isSingle with
    | true => exact .takenBack single offers absent orphan known same
    | false => cases (offers.backed single).symm.trans orphan

theorem unreported_of_unknown (sound : s.Sound) {value domain : Data}
    (unknown : (perform (Action.getId? .domain domain) s).1 = .ok none)
    (told : (perform (Action.insertSubdomain value domain) s).1 = .ok (false, id)) :
    (insertSubdomain value domain).Unreported s id (perform (Action.insertSubdomain value domain) s).2.contents := by
  have looks := (Action.peeks_getId? .domain domain).alike (s := s) (by rw [unknown]; rfl)
  obtain ⟨t, looked⟩ : ∃ t, perform (Action.getId? .domain domain) s = (.ok none, t) := ⟨_, Prod.ext unknown rfl⟩
  have ready := Action.ready_of_getId? looked
  rw [looked] at looks
  obtain ⟨cache, rfl⟩ := looks
  obtain ⟨t, run⟩ : ∃ t, perform (Action.insertSubdomain value domain) s = (.ok (false, id), t) := ⟨_, Prod.ext told rfl⟩
  rw [run]
  change (insertSubdomain value domain).Unreported s id t.contents
  obtain ⟨parent, u, first, second⟩ := perform_bind_eq_ok ((perform_bind_ok looked _).symm.trans run)
  rw [perform_map_eq] at first
  -- The domain is accepted, or else there would be nothing to report.
  have succeeds : (perform (Action.insertDomain domain) { s with seen := cache }).1.isOk = true := by
    rw [← isOk_map Prod.snd, (Prod.mk.inj first).1]
    rfl
  obtain ⟨given, read⟩ := read_of_insertMembers succeeds
  obtain ⟨name, accepted, -⟩ := Candidate.read_domain.mp read
  obtain ⟨row, u, inserted, provides, ready', sound'⟩ :=
    Action.perform_insertDomain (ready.seen cache) (sound.seen cache) accepted
  rw [inserted] at first
  cases first
  obtain ⟨given, read⟩ := read_of_insertMembers (by rw [second]; rfl)
  obtain ⟨text, accepted', rfl⟩ := Candidate.read_subdomain.mp read
  have inserts := Upsert.Inserts.of_run sound' (Candidate.read_proper read)
    ((Action.perform_insertMembers read u).symm.trans second)
  rcases inserts.unreported with ⟨known, found, same, kept⟩ | ⟨-, orphan, -⟩
  · have apart : Kind.subdomain ≠ .domain := by decide
    have found' : s.contents.lookup? .subdomain (.value text) = some known :=
      (provides.lookup?_other apart _).symm.trans found
    rw [kept]
    rcases provides.eq_or_eq with kept | ⟨absent, added⟩
    · rw [kept]
      exact .same
    · rw [added]
      exact .domain accepted' found' same accepted absent
  · cases ((Store.parentsStored_subdomain _ row.id text).trans provides.holds).symm.trans orphan

end Operation

namespace Session

/-- An insertion that reports no change of a row leaves the tables as they are, with two exceptions. A subdomain that is
    there may have been offered with a new domain, which was inserted. And what was removed without a commit is back
    if a rejection has taken it back. -/
theorem unreported_changes (reached : s.Reachable) (insertion : op.isInsertion = true)
    (told : (perform op.action s).1 = .ok (.outcome (false, id))) :
    op.Unreported s id (s.step op).contents ∧
      (op.isSingle = true → s.pending = none → (s.step op).contents = s.contents) := by
  have sound := reached.sound
  have unreported : op.Unreported s id (s.step op).contents := by
    rcases Operation.offers_of_isOk insertion (by rw [told]; rfl) with ⟨c, offers⟩ | ⟨value, domain, rfl, unknown⟩
    · exact offers.unreported sound told
    · rw [Operation.action, perform_map_eq] at told
      rw [Session.step, Operation.action, perform_map_eq]
      exact Operation.unreported_of_unknown sound unknown (Operation.outcome_of_map told)
  refine ⟨unreported, fun single settled => ?_⟩
  generalize (s.step op).contents = after at unreported ⊢
  cases unreported with
  | same => rfl
  | domain accepted found same accepted' absent => cases single
  | takenBack single offers absent orphan known same => exact (contents_of_settled settled).symm

/-- A known domain is left as it is, and so is a known subdomain, though not what it is offered with. -/
theorem unreported_changes_of_known :
    let s := inMemory.run [.insertSubdomain (.text "www.example.com") (.text "example.com")]
    let known : Operation := .insertDomain (.text "example.com")
    let moved : Operation := .insertSubdomain (.text "www.example.com") (.text "example.org")
    (s.step known).contents = s.contents ∧ moved.Unreported s 1 (s.step moved).contents := by
  intro s known moved
  have reached : s.Reachable := .operation _ (.fresh .memory)
  have told : (perform known.action s).1 = .ok (.outcome (false, 1)) := eq_ok_of_toOption (by decide +kernel)
  have told' : (perform moved.action s).1 = .ok (.outcome (false, 1)) := eq_ok_of_toOption (by decide +kernel)
  exact ⟨(unreported_changes reached rfl told).2 rfl (by decide +kernel), (unreported_changes reached rfl told').1⟩

/-- Nothing is told of the domain that is inserted for a known subdomain. And a subdomain that was removed with its
    domain, without a commit, is said to be unchanged when it is offered again, which brings both back. -/
theorem reports_no_change_of_changed_tables :
    let s := inMemory.run [.insertSubdomain (.text "www.example.com") (.text "example.com")]
    let moved : Operation := .insertSubdomain (.text "www.example.com") (.text "example.org")
    let emptied := (perform (Action.deletePending .domain (.ofText "value = 'example.com'")) s).2
    let again : Operation := .insert (.object [("kind", .text "subdomain"), ("value", .text "www.example.com"),
      ("domain_id", .int 1)])
    s.Reachable ∧ (perform moved.action s).1 = .ok (.outcome (false, 1)) ∧
      (s.step moved).contents.rows = s.contents.rows ++ [⟨2, .domain "example.org", [], false⟩] ∧
    emptied.Reachable ∧ (perform again.action emptied).1 = .ok (.outcome (false, 1)) ∧
      emptied.contents.rows = [] ∧ (emptied.step again).contents = s.contents ∧ s.contents.rows ≠ [] := by
  intro s moved emptied again
  have reached : s.Reachable := .operation _ (.fresh .memory)
  refine ⟨reached, eq_ok_of_toOption (by decide +kernel), by decide +kernel, reached.deletePending _ _,
    eq_ok_of_toOption (by decide +kernel), by decide +kernel, by decide +kernel, by decide +kernel⟩

end Session
end Footprint
