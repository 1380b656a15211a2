import Footprint.Proofs.Validation.Readback

namespace Footprint

theorem Members.get?_assignment {members : Members} {names : List Attribute} {changes : Assignment}
    (read : members.assignment names = .valid changes) (a : Attribute) :
    (a ∉ names → changes.get? a = none) ∧
      (a ∈ names → members.optional a.name a.rule = .valid (changes.get? a)) := by
  induction names generalizing changes with
  | nil =>
    cases read
    exact ⟨fun _ => rfl, nofun⟩
  | cons b rest ih =>
    obtain ⟨given, more, first, later, rfl⟩ := assignment_cons.mp read
    obtain ⟨unnamed, named⟩ := ih later
    have joined : Assignment.get? ((given.map fun cell => (b, cell)).toList ++ more) a =
        if a = b then given.or (more.get? a) else more.get? a := by
      by_cases same : a = b
      · cases given <;> simp [Assignment.get?, same]
      · cases given <;> simp [Assignment.get?, List.lookup_cons, beq_eq_false_iff_ne.mpr same, same]
    rw [joined]
    by_cases same : a = b
    · subst same
      refine ⟨fun other => absurd List.mem_cons_self other, fun _ => ?_⟩
      rw [if_pos rfl]
      cases given with
      | some cell => exact first
      | none =>
        by_cases again : a ∈ rest
        · exact named again
        · rw [unnamed again]
          exact first
    · rw [if_neg same]
      exact ⟨fun other => unnamed fun member => other (List.mem_cons_of_mem _ member),
        fun member => named ((List.mem_cons.mp member).resolve_left same)⟩

namespace Revision

variable {data : Data} {r : Revision}

theorem ofData_eq_ok (accepted : ofData data = .ok r) : ∃ members : Members, data = .object members ∧
    members.lookup "kind" = some (.text r.kind.tag) ∧ members.required "id" Rule.integer = .valid r.id ∧
    members.assignment r.kind.attributes = .valid r.changes := by
  obtain ⟨kind, members, shape, tag, read⟩ := readTagged_eq_ok accepted
  obtain ⟨rfl, id, -, changes, -⟩ := read_eq_valid.mp read
  exact ⟨members, shape, tag, id, changes⟩

def members (r : Revision) : Members :=
  ("kind", .text r.kind.tag) :: ("id", .int r.id) :: r.changes.map fun (a, cell) => (a.name, cell.toData)

theorem lookup_members (r : Revision) (a : Attribute) :
    r.members.lookup a.name = (r.changes.get? a).map Cell.toData := by
  have apart : (a.name == "kind") = false ∧ (a.name == "id") = false := by cases a <;> exact ⟨rfl, rfl⟩
  simp only [members, List.lookup_cons, apart]
  exact r.changes.lookup_members a

theorem names_nodup (proper : r.changes.Proper r.kind) : (r.members.map Prod.fst).Nodup := by
  have fields (kind : Kind) : ("kind" :: "id" :: kind.attributes.map Attribute.name).Nodup := by
    cases kind <;> decide +kernel
  have supplied := proper.order.map Attribute.name
  rw [List.map_map] at supplied
  refine (fields r.kind).sublist ?_
  simpa [members, Function.comp_def] using supplied

theorem ofData_of_perm (revisable : r.kind ∈ Kind.revisable) (proper : r.changes.Proper r.kind) {given : Members}
    (same : given.Perm r.members) : ofData (.object given) = .ok r := by
  have known : Kind.revisable.find? (fun kind => kind.tag == r.kind.tag) = some r.kind := by
    generalize r.kind = kind at revisable
    revert kind
    decide
  have found (name : String) : given.lookup name = r.members.lookup name :=
    lookup_eq_of_perm (names_nodup proper) same name
  have tag : given.lookup "kind" = some (.text r.kind.tag) := found "kind"
  have id : given.required "id" Rule.integer = .valid r.id := Members.required_eq_valid.mpr ⟨.int r.id, found "id", rfl⟩
  have read : Revision.read r.kind given = .valid r := by
    refine read_eq_valid.mpr ⟨rfl, id, ⟨true, Members.tagged_of_shown tag⟩, ?_, ?_⟩
    · refine Members.assignment_supplied r.kind.attributes_nodup proper.order proper.types fun a _ => ?_
      rw [found, r.lookup_members a]
    · refine Members.noOthers_of_declared fun member shown => ?_
      have shown := same.mem_iff.mp shown
      simp only [members, List.mem_cons, List.mem_map] at shown
      rcases shown with rfl | rfl | ⟨⟨a, cell⟩, given, rfl⟩
      · simp [fields]
      · simp [fields]
      · have named : a ∈ r.kind.attributes := proper.order.subset (List.mem_map_of_mem given)
        simpa [fields] using .inr (.inr ⟨a, named, rfl⟩)
  exact readTagged_eq_ok_iff.mpr ⟨r.kind, given, rfl, tag, known, read⟩

theorem ofData_members (revisable : r.kind ∈ Kind.revisable) (proper : r.changes.Proper r.kind) :
    ofData (.object r.members) = .ok r :=
  ofData_of_perm revisable proper (.refl _)

theorem ofData_revisable (accepted : ofData data = .ok r) : r.kind ∈ Kind.revisable := by
  obtain ⟨kind, members, -, -, known, read⟩ := readTagged_eq_ok_iff.mp accepted
  obtain ⟨rfl, -⟩ := read_eq_valid.mp read
  exact List.mem_of_find?_eq_some known

end Revision
end Footprint
