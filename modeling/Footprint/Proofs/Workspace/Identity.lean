import Footprint.Proofs.Workspace.Run

namespace Footprint

theorem Row.cell_of_identity {row other : Row} (same : row.identity = other.identity) {column : Column}
    (filled : column ∈ .id :: other.kind.subjectColumns) : row.cell column = other.cell column := by
  have id : row.id = other.id := congrArg Prod.fst same
  have subject : row.subject = other.subject := congrArg Prod.snd same
  cases column with
  | field a => cases kind : other.kind <;> simp [kind, Kind.subjectColumns] at filled
  | unscoped => cases kind : other.kind <;> simp [kind, Kind.subjectColumns] at filled
  | _ => simp only [Row.cell, id, subject]

namespace Session

variable {s : Session}

/-- In each table ids and keys are distinct. No operation both adds and removes rows, and a row keeps
    its key, its parents and all else that its subject fills for as long as it is stored. -/
theorem run_keeps_identities (fresh : s.Fresh) (ops : List Operation) :
    (∀ kind, (((s.run ops).contents.table kind).map Row.id).Nodup ∧
      (((s.run ops).contents.table kind).map Row.key).Nodup) ∧
    (∀ op, (s.run ops).contents.Grows ((s.run ops).step op).contents ∨
      ((s.run ops).step op).contents.Grows (s.run ops).contents) ∧
    ∀ row ∈ (s.run ops).contents.rows, ∀ later, (s.run ops).holdsDuring row.kind row.id later = true →
      ∃ last ∈ (s.run (ops ++ later)).contents.rows, last.kind = row.kind ∧ last.key = row.key ∧
        ∀ column ∈ .id :: row.kind.subjectColumns, last.cell column = row.cell column := by
  have sound := fresh.sound.run ops
  have settled := settled_run fresh.sound fresh.settled ops
  refine ⟨fun kind => ?_, fun op => ((op.steps sound).step settled).moved, fun row member later held => ?_⟩
  · exact ⟨Store.nodup_table sound.contents.ids kind, Store.nodup_table sound.contents.keys kind⟩
  · obtain ⟨last, member', same⟩ := identity_run sound settled member held
    rw [run_append]
    exact ⟨last, member', (Row.kind_and_id_of_identity same).1, Row.key_of_identity same,
      fun column filled => Row.cell_of_identity same filled⟩

/-- A subdomain that is offered again with another parent is merged and stays where it is. -/
theorem run_keeps_identities_offered_again :
    ∃ last ∈ (inMemory.run ([.insertSubdomain (.text "www.example.com") (.text "example.com")] ++
        [.insert (.object [("kind", .text "subdomain"), ("value", .text "www.example.com"), ("domain_id", .int 9)]),
          .delete .email (.ofText "1")])).contents.rows,
      last.kind = .subdomain ∧ last.key = .value "www.example.com" ∧ last.cell .domainId = .int 1 := by
  obtain ⟨-, -, keeps⟩ :=
    run_keeps_identities .memory [.insertSubdomain (.text "www.example.com") (.text "example.com")]
  let row : Row := ⟨1, .subdomain 1 "www.example.com", [(.resolvable, .null)], false⟩
  let offered : Data :=
    .object [("kind", .text "subdomain"), ("value", .text "www.example.com"), ("domain_id", .int 9)]
  obtain ⟨last, member, kind, key, cells⟩ :=
    keeps row (by decide +kernel) [.insert offered, .delete .email (.ofText "1")] (by decide +kernel)
  exact ⟨last, member, kind, key, cells .domainId (by decide)⟩

end Session
end Footprint
