import Footprint.Proofs.Workspace.Run

namespace Footprint

namespace Store

variable {store : Store}

/-- Every parent column holds the id of a stored row of its table. -/
def Anchored (store : Store) : Prop := ∀ row ∈ store.rows, match row.subject with
  | .subdomain domain _ => ∃ parent ∈ store.table .domain, parent.id = domain
  | .url subdomain _ => ∃ parent ∈ store.table .subdomain, parent.id = subdomain
  | .link subdomain address => (∃ parent ∈ store.table .subdomain, parent.id = subdomain) ∧
    ∃ parent ∈ store.table .address, parent.id = address
  | .domain _ | .address .. | .raggedAddress .. | .email _ => True

theorem holds_iff_table {kind : Kind} {id : Int} :
    store.holds kind id = true ↔ ∃ row ∈ store.table kind, row.id = id := by
  simp [holds]

theorem WellFormed.anchored (formed : store.WellFormed) : store.Anchored := by
  intro row member
  have stored := parentsStored_iff.mp (formed.parents row member)
  cases subject : row.subject <;> simp only [subject, Subject.parents] at stored
  case subdomain domain value => exact holds_iff_table.mp (stored (.domain, domain) (by simp))
  case url subdomain value => exact holds_iff_table.mp (stored (.subdomain, subdomain) (by simp))
  case link subdomain address =>
    exact ⟨holds_iff_table.mp (stored (.subdomain, subdomain) (by simp)),
      holds_iff_table.mp (stored (.address, address) (by simp))⟩
  all_goals trivial

end Store

namespace Session

variable {s : Session}

theorem holdsDuring_parent (sound : s.Sound) (settled : s.pending = none) {ops : List Operation} {row : Row}
    (member : row ∈ s.contents.rows) (held : s.holdsDuring row.kind row.id ops = true) {kind : Kind} {id : Int}
    (parent : (kind, id) ∈ row.subject.parents) : s.holdsDuring kind id ops = true := by
  have stored := Store.parentsStored_iff.mp (sound.contents.parents row member) (kind, id) parent
  induction ops generalizing s row with
  | nil => exact stored
  | cons op rest ih =>
    obtain ⟨-, rest⟩ := Bool.and_eq_true_iff.mp held
    obtain ⟨next, member', identity⟩ := identity_step sound settled member (holds_of_holdsDuring rest)
    obtain ⟨kind', id'⟩ := Row.kind_and_id_of_identity identity
    have steps := op.steps sound
    have subject : next.subject = row.subject := congrArg Prod.snd identity
    rw [← kind', ← id'] at rest
    rw [← subject] at parent
    have stored' := Store.parentsStored_iff.mp (steps.sound.contents.parents next member') (kind, id) parent
    exact Bool.and_eq_true_iff.mpr ⟨stored, ih steps.sound (steps.settled settled) member' rest parent stored'⟩

/-- Every child has its parents, also after a removal of whatever rows. While a child is stored, its
    parents are the rows that they were. -/
theorem run_keeps_parents (fresh : s.Fresh) (ops : List Operation) :
    (s.run ops).contents.Anchored ∧
    (∀ matched : Row → Bool, ((s.run ops).contents.delete matched).Anchored) ∧
    ∀ child ∈ (s.run ops).contents.rows, ∀ parent ∈ (s.run ops).contents.rows, child.isChildOf parent = true →
      ∀ later, (s.run ops).holdsDuring child.kind child.id later = true →
        ∃ last ∈ (s.run (ops ++ later)).contents.rows, last.id = parent.id ∧ last.subject = parent.subject := by
  have sound := fresh.sound.run ops
  have settled := settled_run fresh.sound fresh.settled ops
  refine ⟨sound.contents.anchored, fun matched => (sound.contents.delete matched).anchored, ?_⟩
  intro child member parent member' isChild later held
  have held' := holdsDuring_parent sound settled member held (Store.isChildOf_iff.mp isChild)
  obtain ⟨last, member'', same⟩ := identity_run sound settled member' held'
  rw [run_append]
  exact ⟨last, member'', congrArg Prod.fst same, congrArg Prod.snd same⟩

/-- A domain that gets the id of a removed one has none of its subdomains. -/
theorem run_keeps_parents_of_reused_id :
    let tables := (inMemory.run [.insertSubdomain (.text "www.example.com") (.text "example.com"),
      .delete .domain (.ofText "value = 'example.com'"), .insertDomain (.text "example.org")]).contents
    tables.Anchored ∧ tables.rows.map Row.identity = [(1, .domain "example.org")] :=
  ⟨(run_keeps_parents .memory _).1, by decide +kernel⟩

end Session
end Footprint
