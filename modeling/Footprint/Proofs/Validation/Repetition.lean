import Footprint.Proofs.Validation.Revision

namespace Footprint

theorem Submission.members_givenFields {s : Submission} (tagged : s.tagged = true) :
    (s.candidate.members.map Prod.fst).Perm s.givenFields := by
  rw [Candidate.members_names, givenFields, tagged]
  exact (List.mergeSort_perm _ _).symm

theorem Submission.ofData_again {data : Data} {s : Submission} (accepted : ofData data = .ok s) :
    s.tagged = true ∧ ∀ members : Members, members.Perm s.candidate.members → ofData (.object members) = .ok s := by
  obtain ⟨kind, given, -, tag, read⟩ := readTagged_eq_ok accepted
  have proper := Candidate.read_proper read
  obtain ⟨shown, subject, -, -, sane⟩ := Candidate.read_eq_valid.mp read
  obtain rfl : s.candidate.kind = kind := Kind.readSubject_kind subject
  have tagged : s.tagged = true := by
    rw [Members.tagged_of_shown tag, Checked.valid.injEq] at shown
    exact shown.symm
  have whole : s = ⟨s.candidate, true⟩ := by rw [← tagged]
  refine ⟨tagged, fun members same => ?_⟩
  rw [whole]
  exact Candidate.ofData_members subject proper sane same

theorem Revision.ofData_again {data : Data} {r : Revision} (accepted : ofData data = .ok r) {members : Members}
    (same : members.Perm r.members) : ofData (.object members) = .ok r :=
  ofData_of_perm (ofData_revisable accepted) (ofData_proper accepted) same

/-- The members of what was read are the tag and the fields that were given, each with its value; in any order they are
    read as what they come from, down to the fields that count as given. -/
theorem accepted_is_accepted_again (data : Data) :
    (∀ s, Submission.ofData data = .ok s → (s.candidate.members.map Prod.fst).Perm s.givenFields ∧
      ∀ members : Members, members.Perm s.candidate.members → Submission.ofData (.object members) = .ok s) ∧
    (∀ r, Revision.ofData data = .ok r →
      ∀ members : Members, members.Perm r.members → Revision.ofData (.object members) = .ok r) := by
  constructor
  · intro s accepted
    obtain ⟨tagged, again⟩ := Submission.ofData_again accepted
    exact ⟨Submission.members_givenFields tagged, again⟩
  · intro r accepted members same
    exact Revision.ofData_again accepted same

/-- Bytes, a NaN as a word, a truth value as a number and numerals with signs, blanks and underscores are each converted
    once. -/
theorem accepted_is_accepted_again_of_converted :
    let offered : Data := .object [("asn", .text " +64_500.0 "), ("latitude", .bool true), ("longitude", .text "-NaN"),
      ("city", .bytes (Rule.encodeText "Zürich")), ("value", .text "::ffff:1.2.3.4"), ("family", .text "v6"),
      ("kind", .text "ipaddr")]
    let c : Candidate := ⟨.address .v6 "::ffff:1.2.3.4", [(.city, .text "Zürich"), (.longitude, .real .nan),
      (.latitude, .real (Binary64.ofInt 1)), (.asn, .int 64500)]⟩
    let revised : Data := .object [("kind", .text "url"), ("body", .text "ü"), ("online", .text "OFF"),
      ("title", .null), ("id", .bytes (Rule.encodeText "-007"))]
    let r : Revision := ⟨.url, -7, [(.body, .bytes (Rule.encodeText "ü")), (.online, .bool false), (.title, .null)]⟩
    Submission.ofData offered = .ok ⟨c, true⟩ ∧ Submission.ofData (.object c.members.reverse) = .ok ⟨c, true⟩ ∧
      Revision.ofData revised = .ok r ∧ Revision.ofData (.object r.members.reverse) = .ok r := by
  intro offered c revised r
  have accepted : Submission.ofData offered = .ok ⟨c, true⟩ := eq_ok_of_toOption (by decide +kernel)
  have accepted' : Revision.ofData revised = .ok r := eq_ok_of_toOption (by decide +kernel)
  obtain ⟨-, again⟩ := (accepted_is_accepted_again offered).1 ⟨c, true⟩ accepted
  have again' := (accepted_is_accepted_again revised).2 r accepted'
  exact ⟨accepted, again _ (List.reverse_perm _), accepted', again' _ (List.reverse_perm _)⟩

end Footprint
