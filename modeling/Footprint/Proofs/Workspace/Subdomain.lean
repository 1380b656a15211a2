import Footprint.Proofs.Workspace.Boundary
import Footprint.Proofs.Workspace.Insertion
import Footprint.Proofs.Workspace.Readback

namespace Footprint

variable {s t : Session}

theorem Store.Accepted.no_empty_domain {store : Store} (accepted : store.Accepted) :
    store.lookup? .domain (.value "") = none := by
  refine lookup?_eq_none_iff.mpr fun row member kind key => ?_
  obtain ⟨id, subject, attributes, unscoped⟩ := row
  cases subject with
  | domain value => exact (accepted _ member).nonempty (Key.value.inj key)
  | _ => cases kind

namespace Action

def domainId (domain : Data) : Action Int := do
  match ← getId? .domain domain with
  | some id => pure id
  | none => Prod.snd <$> insertDomain domain

theorem insertSubdomain_eq (value domain : Data) : insertSubdomain value domain = (do
    let id ← domainId domain
    insertMembers .subdomain [("domain_id", .int id), ("value", value)]) := by
  rw [insertSubdomain, domainId, bind_assoc]
  refine congrArg _ (funext fun found => ?_)
  cases found <;> rfl

theorem perform_insertDomain (ready : s.Ready) (sound : s.Sound) {domain : Data} {name : String}
    (accepted : Rule.nonemptyText domain = .ok name) :
    ∃ row t, perform (insertDomain domain) s = (.ok (decide (row ∉ s.contents.rows), row.id), t) ∧
      s.contents.Provides ⟨.domain name, []⟩ row t.contents ∧ t.Ready ∧ t.Sound := by
  have read := Candidate.read_domain.mpr ⟨name, accepted, rfl⟩
  obtain ⟨result, t, run⟩ : ∃ result t, perform (Upsert.run ⟨.domain name, []⟩) s = (result, t) := ⟨_, _, rfl⟩
  have inserts := Upsert.Inserts.of_run sound (Candidate.read_proper read) run
  obtain ⟨row, rfl, provides⟩ := inserts.provides ready rfl rfl rfl
  rw [provides.writes rfl] at run
  have inserted : perform (insertDomain domain) s = _ := (perform_insertMembers read s).trans run
  obtain ⟨ready', sound', -⟩ := holds_insertMembers sound inserted
  exact ⟨row, t, inserted, provides, ready', sound'⟩

theorem perform_getId?_domain (ready : s.Ready) (formed : s.contents.WellFormed) (domain : String) :
    perform (getId? .domain (.text domain)) s =
      (.ok ((s.contents.lookup? .domain (.value domain)).map Row.id), s) :=
  perform_getId? (c := ⟨.domain domain, []⟩) ready formed rfl

theorem perform_domainId (ready : s.Ready) (sound : s.Sound) {domain : String} (nonempty : domain ≠ "") :
    ∃ row t, perform (domainId (.text domain)) s = (.ok row.id, t) ∧
      s.contents.Provides ⟨.domain domain, []⟩ row t.contents ∧ t.Ready ∧ t.Sound := by
  have looked := perform_getId?_domain ready sound.contents domain
  cases found : s.contents.lookup? .domain (.value domain) with
  | some row =>
    rw [found] at looked
    exact ⟨row, s, perform_bind_ok looked _, .known found, ready, sound⟩
  | none =>
    rw [found] at looked
    obtain ⟨row, t, inserted, provides⟩ :=
      perform_insertDomain ready sound (Rule.nonemptyText_text.mpr ⟨nonempty, rfl⟩)
    refine ⟨row, t, (perform_bind_ok looked _).trans ?_, provides⟩
    exact (perform_map_eq _ _ _).trans (by rw [inserted]; rfl)

end Action

theorem Store.Provides.holds_id {before after : Store} {c : Candidate} {row : Row} (provides : before.Provides c row after)
    (sized : before.Sized) (room : before.nextId c.kind < Word.bound) : Word.holds row.id = true := by
  cases provides with
  | known found =>
    obtain ⟨member, kind, -⟩ := mem_of_lookup? found
    exact sized.holds_id member (kind ▸ Int.le_of_lt room)
  | added plain inserted => exact Word.holds_of_pos (before.nextId_pos c.kind) room

namespace Session

theorem insertSubdomain_unready (unready : ¬ s.Ready) (value : Data) (domain : String) :
    perform (Action.insertSubdomain value (.text domain)) s = (.error (.query .lookUp .domain), s.rollback) := by
  have given := Key.criteria_toData ⟨.domain domain, []⟩
  exact perform_bind_error (Action.perform_getId?_unready unready given) _

theorem insertSubdomain_empty_domain (ready : s.Ready) (reached : s.Reachable) (value : Data) :
    perform (Action.insertSubdomain value (.text "")) s =
      (.error (.invalid "DomainInsert" [Candidate.emptyValue]), s) := by
  have looked := Action.perform_getId?_domain ready reached.sound.contents ""
  rw [(reached.within Store.Accepted.invariant).contents.no_empty_domain] at looked
  refine (perform_bind_ok looked _).trans (perform_bind_error ?_ _)
  rw [perform_map_eq, Action.insertDomain, Action.perform_insertMembers_invalid Candidate.read_domain_empty]
  rfl

theorem insertSubdomain_refused (ready : s.Ready) (sound : s.Sound) {domain : String} (nonempty : domain ≠ "")
    {value : AnyText} {issue : Issue} (refused : Candidate.valueIssue? value = some issue) :
    ∃ parent t, perform (Action.insertSubdomain (.ofText value) (.text domain)) s =
        (.error (.invalid "SubdomainInsert" [issue]), t) ∧
      s.contents.Provides ⟨.domain domain, []⟩ parent t.contents := by
  obtain ⟨parent, t, looked, provides, -⟩ := Action.perform_domainId ready sound nonempty
  have refused := Action.perform_insertMembers_invalid (Candidate.read_subdomain_refused parent.id refused) t
  rw [Action.insertSubdomain_eq]
  exact ⟨parent, t, (perform_bind_ok looked _).trans refused, provides⟩

theorem insertSubdomain_inserts (ready : s.Ready) (sound : s.Sound) (sized : s.contents.Sized) {value domain : String}
    (room : s.contents.nextId .domain < Word.bound) (nonempty : domain ≠ "") (nonempty' : value ≠ "") :
    ∃ (parent : Row) (t : Session) (row : Row) (u : Session),
      perform (Action.insertSubdomain (.text value) (.text domain)) s =
        (.ok (decide (row ∉ t.contents.rows), row.id), u) ∧ t.Sound ∧
      s.contents.Provides ⟨.domain domain, []⟩ parent t.contents ∧
      t.contents.Provides ⟨.subdomain parent.id value, []⟩ row u.contents := by
  obtain ⟨parent, t, looked, provides, ready', sound'⟩ := Action.perform_domainId ready sound nonempty
  obtain ⟨row, u, inserted, provides'⟩ := Action.perform_insertMembers_subdomain ready' sound' provides.holds
    (provides.holds_id sized room) nonempty'
  rw [Action.insertSubdomain_eq]
  exact ⟨parent, t, row, u, (perform_bind_ok looked _).trans inserted, sound', provides, provides'⟩

/-- Whatever is stored, a subdomain is inserted with its domain. Both are there exactly once afterwards. Each of them
    is the row that had the value, with all its columns and under its parent, or a new row in scope, the subdomain
    then under the domain. A value that is empty or cannot be encoded is refused when its row would be made, so that
    the domain stays if it is the one of the subdomain. -/
theorem insertSubdomain_provides_both (reached : s.Reachable) (value : AnyText) (domain : String)
    (room : s.contents.nextId .domain < Word.bound) :
    let before := s.contents
    let done := perform (Action.insertSubdomain (.ofText value) (.text domain)) s
    let after := done.2.contents
    (¬ s.Ready → done.1 = .error (.query .lookUp .domain) ∧ after = s.database.store) ∧
    (s.Ready →
      (domain = "" → done.1 = .error (.invalid "DomainInsert" [Candidate.emptyValue]) ∧ after = before) ∧
      (domain ≠ "" → ∃ parent,
        (after.table .domain).filter (·.key == .value domain) = [parent] ∧
        (parent ∉ before.rows → parent = before.created ⟨.domain domain, []⟩) ∧
        (∀ issue, Candidate.valueIssue? value = some issue →
          done.1 = .error (.invalid "SubdomainInsert" [issue]) ∧
          after.rows = before.rows ++ if parent ∈ before.rows then [] else [parent]) ∧
        (∀ text : String, value = text → text ≠ "" → ∃ row,
          done.1 = .ok (decide (row ∉ before.rows), row.id) ∧
          (after.table .subdomain).filter (·.key == .value text) = [row] ∧
          (row ∉ before.rows → row = before.created ⟨.subdomain parent.id text, []⟩) ∧
          after.rows = before.rows ++ (if parent ∈ before.rows then [] else [parent]) ++
            if row ∈ before.rows then [] else [row]))) := by
  intro before done after
  refine ⟨fun unready => ?_, fun ready => ⟨fun empty => ?_, fun nonempty => ?_⟩⟩
  · have run : done = _ := insertSubdomain_unready unready (.ofText value) domain
    rw [run]
    exact ⟨rfl, congrArg (Session.contents ·.2) run⟩
  · subst empty
    have run : done = _ := insertSubdomain_empty_domain ready reached (.ofText value)
    rw [run]
    exact ⟨rfl, congrArg (Session.contents ·.2) run⟩
  have sound := reached.sound
  have proper := Candidate.read_proper (Candidate.read_domain_text nonempty)
  cases refused : Candidate.valueIssue? value with
  | some issue =>
    obtain ⟨parent, t, run, provides⟩ := insertSubdomain_refused ready sound nonempty refused
    have left : after = t.contents := congrArg (Session.contents ·.2) run
    rw [left]
    refine ⟨parent, provides.only sound.contents proper, provides.eq_created, ?_, ?_⟩
    · rintro _ ⟨⟩
      exact ⟨congrArg Prod.fst run, provides.rows⟩
    · rintro text rfl nonempty'
      simp [Candidate.valueIssue?, nonempty'] at refused
  | none =>
    obtain ⟨text, rfl, nonempty'⟩ : ∃ text : String, value = text ∧ text ≠ "" := by
      cases value with
      | ragged text => cases refused
      | plain text => exact ⟨text, rfl, by simpa [Candidate.valueIssue?] using refused⟩
    obtain ⟨parent, t, row, u, run, sound', provides, provides'⟩ :=
      insertSubdomain_inserts ready sound reached.sized.contents room nonempty nonempty'
    have proper' := Candidate.read_proper (Candidate.read_subdomain_text parent.id nonempty')
    have apart : Kind.subdomain ≠ .domain := by decide
    obtain ⟨known, made, rows⟩ := provides.both provides' apart
    have told : done.1 = .ok (decide (row ∉ before.rows), row.id) := by
      rw [show done = _ from run]
      simp only [known, before]
    have left : after = u.contents := congrArg (Session.contents ·.2) run
    rw [left]
    refine ⟨parent, ?_, provides.eq_created, ?_, ?_⟩
    · rw [provides'.table_other apart.symm]
      exact provides.only sound.contents proper
    · rintro _ ⟨⟩
    · rintro _ ⟨⟩ -
      exact ⟨row, told, provides'.only sound'.contents proper', made, rows⟩

/-- The subdomain is stored under another domain, and stays there. The domain that it is offered with is new. -/
theorem insertSubdomain_provides_both_of_known :
    let s := inMemory.run [.insertSubdomain (.text "www.example.com") (.text "example.com")]
    let done := perform (Action.insertSubdomain (.text "www.example.com") (.text "example.org")) s
    let parent : Row := ⟨2, .domain "example.org", [], false⟩
    let row : Row := ⟨1, .subdomain 1 "www.example.com", [(.resolvable, .null)], false⟩
    row ∈ s.contents.rows ∧ done.1 = .ok (false, 1) ∧
      (done.2.contents.table .subdomain).filter (·.key == .value "www.example.com") = [row] ∧
      done.2.contents.rows = s.contents.rows ++ [parent] := by
  intro s done parent row
  have ready : s.Ready := ⟨by decide +kernel, by decide +kernel, by decide +kernel⟩
  have stored : row ∈ s.contents.rows := by decide +kernel
  obtain ⟨-, both⟩ := insertSubdomain_provides_both (s := s) (.operation _ (.fresh .memory))
    "www.example.com" "example.org" (by decide +kernel)
  obtain ⟨parent', only, -, -, both⟩ := (both ready).2 (by decide)
  obtain ⟨row', told, only', -, rows⟩ := both _ rfl (by decide)
  have first : (done.2.contents.table .domain).filter (·.key == .value "example.org") = [parent] := by decide +kernel
  have second : (done.2.contents.table .subdomain).filter (·.key == .value "www.example.com") = [row] := by
    decide +kernel
  obtain rfl : parent = parent' := List.singleton_inj.mp (first.symm.trans only)
  obtain rfl : row = row' := List.singleton_inj.mp (second.symm.trans only')
  have new : parent ∉ s.contents.rows := by decide +kernel
  rw [if_neg new, if_pos stored, List.append_nil] at rows
  rw [decide_eq_false (not_not_intro stored)] at told
  exact ⟨stored, told, second, rows⟩

/-- A subdomain that is named with a surrogate is refused, but its domain is stored. -/
theorem insertSubdomain_refuses_surrogate :
    let value : Ragged := ⟨"", ⟨1279⟩, []⟩
    let done := perform (Action.insertSubdomain (.ragged value) (.text "example.com")) inMemory
    done.1 = .error (.invalid "SubdomainInsert" [⟨.notUnicode, ["value"], .ragged value⟩]) ∧
      done.2.contents.rows = [⟨1, .domain "example.com", [], false⟩] := by
  intro value done
  have reached : inMemory.Reachable := .fresh .memory
  have nonempty : "example.com" ≠ "" := by decide
  have refused : Candidate.valueIssue? (.ragged value) = some ⟨.notUnicode, ["value"], .ragged value⟩ := rfl
  obtain ⟨parent, t, run, -⟩ := insertSubdomain_refused ⟨rfl, rfl, rfl⟩ reached.sound nonempty refused
  exact ⟨congrArg Prod.fst run, by decide +kernel⟩

end Session
end Footprint
