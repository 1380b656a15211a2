import Footprint.Proofs.Workspace.Location

namespace Footprint.Workspace

structure IsProper (name : String) : Prop where
  nonempty : name ≠ ""
  chars : ∀ c ∈ name.toList,
    ('A' ≤ c ∧ c ≤ 'Z') ∨ ('a' ≤ c ∧ c ≤ 'z') ∨ ('0' ≤ c ∧ c ≤ '9') ∨ c = '_' ∨ c = '-'

variable {name body : String} {c : Char}

theorem isNameChar_iff : isNameChar c = true ↔
    ('A' ≤ c ∧ c ≤ 'Z') ∨ ('a' ≤ c ∧ c ≤ 'z') ∨ ('0' ≤ c ∧ c ≤ '9') ∨ c = '_' ∨ c = '-' := by
  have upper : c.isUpper = true ↔ 'A' ≤ c ∧ c ≤ 'Z' := decide_eq_true_iff
  have lower : c.isLower = true ↔ 'a' ≤ c ∧ c ≤ 'z' :=
    Bool.and_eq_true_iff.trans (and_congr decide_eq_true_iff decide_eq_true_iff)
  have digit : c.isDigit = true ↔ '0' ≤ c ∧ c ≤ '9' :=
    Bool.and_eq_true_iff.trans (and_congr decide_eq_true_iff decide_eq_true_iff)
  change (((c.isUpper || c.isLower) || c.isDigit) || c == '_' || c == '-') = true ↔ _
  simp only [Bool.or_eq_true, beq_iff_eq, upper, lower, digit, or_assoc]

theorem isProper_iff : IsProper name ↔ name.toList ≠ [] ∧ name.toList.all isNameChar = true := by
  rw [List.all_eq_true]
  constructor
  · rintro ⟨nonempty, chars⟩
    exact ⟨by simpa using nonempty, fun c member => isNameChar_iff.mpr (chars c member)⟩
  · rintro ⟨nonempty, chars⟩
    exact ⟨by simpa using nonempty, fun c member => isNameChar_iff.mp (chars c member)⟩

theorem IsProper.notMem_lineEnd (proper : IsProper name) : '\n' ∉ name.toList := by
  intro member
  have allowed := List.all_eq_true.mp (isProper_iff.mp proper).2 '\n' member
  exact absurd allowed (by decide)

theorem acceptsName_iff : acceptsName name = true ↔ IsProper name ∨ ∃ body, IsProper body ∧ name = body ++ "\n" := by
  have decided : acceptsName name = true ↔ nameBody name.toList ≠ [] ∧ (nameBody name.toList).all isNameChar = true := by
    simp [acceptsName]
  rw [decided]
  by_cases ends : name.toList.getLast? = some '\n'
  case pos =>
    obtain ⟨chars, split⟩ := List.getLast?_eq_some_iff.mp ends
    have shortened : nameBody name.toList = (String.ofList chars).toList := by simp [nameBody, split]
    have joined : name = String.ofList chars ++ "\n" := String.toList_injective (by simp [split])
    rw [shortened, ← isProper_iff]
    constructor
    · intro proper
      exact .inr ⟨_, proper, joined⟩
    · rintro (proper | ⟨body, proper, same⟩)
      · exact absurd (by simp [split]) proper.notMem_lineEnd
      · have left : String.ofList chars = body := by
          have lists := congrArg String.toList (joined.symm.trans same)
          rw [String.toList_append, String.toList_append] at lists
          exact String.toList_injective (List.append_cancel_right lists)
        exact left ▸ proper
  case neg =>
    have whole : nameBody name.toList = name.toList := if_neg ends
    rw [whole, ← isProper_iff]
    refine ⟨.inl, Or.rec id ?_⟩
    rintro ⟨body, -, rfl⟩
    exact absurd (by simp) ends

theorem path?_eq (directory : Path) (name : String) : path? directory name =
    if acceptsName name then .ok (directory.file (fileName name)) else .error (.connection .invalidName) := by
  rw [path?, file?]
  split <;> rfl

theorem ofString_fileName (accepted : acceptsName name = true) : Path.ofString (fileName name) = ⟨"", [fileName name]⟩ := by
  have normal : Path.Normal ⟨"", []⟩ := ⟨.inl rfl, nofun⟩
  have read := (normal_file normal accepted).ofString_toString
  have shown : (Path.file ⟨"", []⟩ (fileName name)).toString = fileName name :=
    String.toList_injective (Path.toList_toString_file _ _)
  rwa [shown] at read

/-- A proper name is accepted, and so is a proper name behind which a line ends; every other one is refused. The file
    has the name with its ending, and lies directly in the directory. -/
theorem path?_of_name (directory : Path) (name : String) :
    (IsProper name → path? directory name = .ok (directory.file (name ++ ".db"))) ∧
    (∀ body, IsProper body → name = body ++ "\n" → path? directory name = .ok (directory.file (name ++ ".db"))) ∧
    (¬ IsProper name → (∀ body, IsProper body → name ≠ body ++ "\n") →
      path? directory name = .error (.connection .invalidName)) ∧
    ∀ path, path? directory name = .ok path →
      path.parent? = some (directory, name ++ ".db") ∧ path = directory.append (.ofString (name ++ ".db")) := by
  have accepted (names : IsProper name ∨ ∃ body, IsProper body ∧ name = body ++ "\n") :
      path? directory name = .ok (directory.file (name ++ ".db")) := by
    rw [path?_eq, if_pos (acceptsName_iff.mpr names)]
    rfl
  refine ⟨fun proper => accepted (.inl proper), fun body proper same => accepted (.inr ⟨body, proper, same⟩),
    fun improper different => ?_, fun path found => ?_⟩
  · rw [path?_eq, if_neg]
    intro accepts
    rcases acceptsName_iff.mp accepts with proper | ⟨body, proper, same⟩
    · exact improper proper
    · exact different body proper same
  · rw [path?_eq] at found
    split at found
    case isFalse => cases found
    case isTrue accepts =>
      cases found
      refine ⟨Path.parent?_file directory _, ?_⟩
      rw [show name ++ ".db" = fileName name from rfl, ofString_fileName accepts]
      rfl

/-- The name of one workspace and that name with a line end are both accepted, and the files are different. -/
theorem path?_of_name_with_line_end :
    let directory := Path.ofString "/srv/data"
    path? directory "acme" = .ok ⟨"/", ["srv", "data", "acme.db"]⟩ ∧
    path? directory "acme\n" = .ok ⟨"/", ["srv", "data", "acme\n.db"]⟩ ∧
    ¬ IsProper "acme\n" ∧ path? directory "a/b" = .error (.connection .invalidName) := by
  intro directory
  have proper : IsProper "acme" := isProper_iff.mpr (by decide)
  have improper {name : String} (refused : name.toList.all isNameChar = false) : ¬ IsProper name := fun proper =>
    Bool.false_ne_true (refused.symm.trans (isProper_iff.mp proper).2)
  refine ⟨((path?_of_name directory "acme").1 proper).trans ?_,
    ((path?_of_name directory "acme\n").2.1 "acme" proper rfl).trans ?_, improper (by decide),
    (path?_of_name directory "a/b").2.2.1 (improper (by decide)) fun body proper same => ?_⟩
  · rfl
  · rfl
  · have closed := congrArg (fun name => name.toList.getLast?) same
    simp at closed

end Footprint.Workspace
