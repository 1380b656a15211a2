import Footprint.Workspace.Location
import Mathlib.Data.List.Basic
import Mathlib.Data.List.TakeWhile

namespace Footprint

namespace Text

theorem splitOn_eq (separator : Char) (text : List Char) : splitOn separator text = text.splitOn separator := by
  induction text with
  | nil => rfl
  | cons c rest ih =>
    rw [splitOn, ih, List.splitOn_cons_eq_if_modifyHead]
    by_cases same : c = separator
    · simp [same]
    · have parts := List.splitOn_ne_nil separator rest
      rw [if_neg same, if_neg (by simpa using same)]
      cases split : rest.splitOn separator with
      | nil => exact absurd split parts
      | cons part others => rfl

theorem notMem_of_mem_splitOn {separator : Char} {text part : List Char} (member : part ∈ splitOn separator text) :
    separator ∉ part := by
  induction text generalizing part with
  | nil =>
    obtain rfl := List.mem_singleton.mp member
    exact List.not_mem_nil
  | cons c rest ih =>
    rw [splitOn] at member
    split at member
    case isTrue =>
      rcases List.mem_cons.mp member with rfl | member
      · exact List.not_mem_nil
      · exact ih member
    case isFalse different =>
      split at member
      case h_1 first others split =>
        rcases List.mem_cons.mp member with rfl | member
        · have apart : separator ∉ first := ih (split ▸ List.mem_cons_self)
          exact fun inside => (List.mem_cons.mp inside).elim (fun same => different same.symm) apart
        · exact ih (split ▸ List.mem_cons_of_mem _ member)
      case h_2 =>
        obtain rfl := List.mem_singleton.mp member
        simpa using fun same => different same.symm

theorem decoded_nil : decoded [] = [] := by decide +kernel

theorem unescapePercent_of_notMem {text : List Char} (plain : '%' ∉ text) : unescapePercent [] text = text := by
  induction text with
  | nil => exact decoded_nil
  | cons c rest ih =>
    obtain ⟨different, plain⟩ := not_or.mp (mt List.mem_cons.mpr plain)
    rw [unescapePercent, decoded_nil, ih plain]
    · rfl
    · rintro high low rest rfl
      exact absurd rfl different

end Text

namespace Path

structure Normal (path : Path) : Prop where
  root : path.root = "" ∨ path.root = "/" ∨ path.root = "//"
  parts : ∀ part ∈ path.parts, part ≠ "" ∧ part ≠ "." ∧ '/' ∉ part.toList

theorem rootOf_cases (text : List Char) : rootOf text = "" ∨ rootOf text = "/" ∨ rootOf text = "//" := by
  unfold rootOf
  split <;> simp

theorem normal_ofString (text : String) : (ofString text).Normal where
  root := rootOf_cases _
  parts := by
    intro part member
    simp only [ofString, List.mem_map, List.mem_filter, Bool.and_eq_true, bne_iff_ne] at member
    obtain ⟨chars, ⟨member, nonempty, proper⟩, rfl⟩ := member
    have apart := Text.notMem_of_mem_splitOn member
    refine ⟨fun same => nonempty ?_, fun same => proper ?_, ?_⟩
    · simpa using congrArg String.toList same
    · simpa using congrArg String.toList same
    · rwa [String.toList_ofList]

def front (directory : Path) : List Char :=
  directory.root.toList ++ directory.parts.flatMap fun part => part.toList ++ ['/']

theorem toList_toString_file (directory : Path) (name : String) :
    (directory.file name).toString.toList = directory.front ++ name.toList := by
  obtain ⟨root, parts⟩ := directory
  have named : (root.isEmpty && (parts ++ [name]).isEmpty) = false := by simp
  have shown : ['/'].intercalate ((parts ++ [name]).map String.toList) =
      (parts.flatMap fun part => part.toList ++ ['/']) ++ name.toList := by
    induction parts with
    | nil => simp
    | cons part rest ih =>
      rw [List.cons_append, List.map_cons, List.intercalate_cons_of_ne_nil (by simp), ih (by simp), List.flatMap_cons,
        List.append_assoc, List.append_assoc, List.append_assoc]
  rw [toString, file, if_neg (by simp [named]), String.toList_append, String.toList_intercalate, front, List.append_assoc]
  exact congrArg _ shown

theorem takeWhile_part {part : String} (nonempty : part ≠ "") (apart : '/' ∉ part.toList) (rest : List Char) :
    (part.toList ++ rest).takeWhile (· == '/') = [] := by
  cases chars : part.toList with
  | nil => exact absurd (String.toList_injective chars) nonempty
  | cons c others =>
    have different : c ≠ '/' := by
      rintro rfl
      exact apart (chars ▸ List.mem_cons_self)
    rw [List.cons_append, List.takeWhile_cons_of_neg (by simpa using different)]

namespace Normal

variable {directory : Path} {name : String} (normal : (directory.file name).Normal)

include normal

theorem splitOn_parts :
    Text.splitOn '/' ((directory.parts.flatMap fun part => part.toList ++ ['/']) ++ name.toList) =
      (directory.parts ++ [name]).map String.toList := by
  obtain ⟨root, parts⟩ := directory
  induction parts with
  | nil =>
    obtain ⟨-, -, apart⟩ := normal.parts name (by simp [Path.file])
    rw [Text.splitOn_eq]
    exact List.splitOn_eq_singleton apart
  | cons part rest ih =>
    obtain ⟨-, -, apart⟩ := normal.parts part List.mem_cons_self
    have rest' := ih ⟨normal.root, fun other member => normal.parts other (List.mem_cons_of_mem _ member)⟩
    rw [Text.splitOn_eq] at rest' ⊢
    rw [List.flatMap_cons, List.append_assoc, List.append_assoc, List.singleton_append,
      List.splitOn_append_cons_self_of_not_mem apart, rest']
    rfl

theorem takeWhile_parts :
    ((directory.parts.flatMap fun part => part.toList ++ ['/']) ++ name.toList).takeWhile (· == '/') = [] := by
  obtain ⟨root, parts⟩ := directory
  cases parts with
  | nil =>
    obtain ⟨nonempty, -, apart⟩ := normal.parts name (by simp [Path.file])
    simpa using takeWhile_part nonempty apart []
  | cons part rest =>
    obtain ⟨nonempty, -, apart⟩ := normal.parts part List.mem_cons_self
    rw [List.flatMap_cons, List.append_assoc, List.append_assoc]
    exact takeWhile_part nonempty apart _

theorem ofString_toString : ofString (directory.file name).toString = directory.file name := by
  have root : directory.root = _ ∨ directory.root = _ ∨ directory.root = _ := normal.root
  have first := normal.takeWhile_parts
  have parts := normal.splitOn_parts
  have proper : ∀ part ∈ (directory.parts ++ [name]).map String.toList, (part != [] && part != ['.']) = true := by
    intro chars member
    obtain ⟨part, listed, rfl⟩ := List.mem_map.mp member
    obtain ⟨nonempty, proper, -⟩ := normal.parts part listed
    have nonempty' : part.toList ≠ [] := fun same => nonempty (String.toList_injective same)
    have proper' : part.toList ≠ ['.'] := fun same => proper (String.toList_injective same)
    simp [nonempty', proper']
  rw [ofString, toList_toString_file, front, List.append_assoc]
  generalize (directory.parts.flatMap fun part => part.toList ++ ['/']) ++ name.toList = text at first parts
  have same : rootOf (directory.root.toList ++ text) = directory.root := by
    rcases root with root | root | root <;> simp [rootOf, root, first]
  -- Every slash of the root stands behind an empty part.
  have kept : (Text.splitOn '/' (directory.root.toList ++ text)).filter (fun part => part != [] && part != ['.']) =
      (directory.parts ++ [name]).map String.toList := by
    rw [← List.filter_eq_self.mpr proper, ← parts]
    rcases root with root | root | root <;> simp [root, Text.splitOn]
  rw [same, kept, List.map_map]
  simp [Function.comp_def, file]

theorem notMem_toString {c : Char} (slash : c ≠ '/') (outside : ∀ part ∈ directory.parts, c ∉ part.toList)
    (apart : c ∉ name.toList) : c ∉ (directory.file name).toString.toList := by
  have root : directory.root = _ ∨ directory.root = _ ∨ directory.root = _ := normal.root
  have above : c ∉ directory.root.toList := by
    rcases root with root | root | root <;> simp [root, slash]
  rw [toList_toString_file, front]
  simp only [List.mem_append, List.mem_flatMap, List.mem_singleton, not_or, not_exists, not_and]
  exact ⟨⟨above, fun part listed => ⟨outside part listed, slash⟩⟩, apart⟩

end Normal

variable {path : Path} {name other : String}

theorem Normal.file {directory : Path} (normal : directory.Normal) (nonempty : name ≠ "") (proper : name ≠ ".")
    (apart : '/' ∉ name.toList) : (directory.file name).Normal where
  root := normal.root
  parts := by
    intro part member
    rcases List.mem_append.mp member with member | last
    · exact normal.parts part member
    · obtain rfl := List.mem_singleton.mp last
      exact ⟨nonempty, proper, apart⟩

theorem parent?_file (path : Path) (name : String) : (path.file name).parent? = some (path, name) := by
  simp [parent?, file]

theorem file_injective (same : (path.file name).toString = (path.file other).toString) : name = other := by
  have texts := congrArg String.toList same
  rw [toList_toString_file, toList_toString_file] at texts
  exact String.toList_injective (List.append_cancel_left texts)

end Path

namespace Workspace

theorem isNameChar_of_mem {name : String} {c : Char} (accepted : acceptsName name = true) (member : c ∈ name.toList)
    (inner : c ≠ '\n') : isNameChar c = true := by
  obtain ⟨-, allowed⟩ := Bool.and_eq_true_iff.mp accepted
  have within : c ∈ nameBody name.toList := by
    unfold nameBody
    split
    case isFalse => exact member
    case isTrue last =>
      obtain ⟨body, ends⟩ := List.getLast?_eq_some_iff.mp last
      rw [ends] at member ⊢
      simpa [inner] using member
  exact List.all_eq_true.mp allowed c within

theorem notMem_fileName {name : String} {c : Char} (accepted : acceptsName name = true) (special : c ∈ ['?', '%', '/']) :
    c ∉ (fileName name).toList := by
  intro member
  have foreign : isNameChar c = false ∧ c ≠ '\n' ∧ c ∉ ".db".toList := by
    simp only [List.mem_cons, List.not_mem_nil, or_false] at special
    rcases special with rfl | rfl | rfl <;> decide
  obtain ⟨outside, inner, suffix⟩ := foreign
  rw [fileName, String.toList_append, List.mem_append] at member
  have own := member.resolve_right suffix
  rw [isNameChar_of_mem accepted own inner] at outside
  cases outside

theorem normal_file {directory : Path} {name : String} (normal : directory.Normal) (accepted : acceptsName name = true) :
    (directory.file (fileName name)).Normal := by
  have suffix : 'd' ∈ (fileName name).toList := by simp [fileName]
  apply normal.file _ _ (notMem_fileName accepted (by decide))
  all_goals
    intro same
    rw [same] at suffix
    exact absurd suffix (by decide)

end Workspace

namespace Location

theorem ofText_of_plain {text : String} (cut : '?' ∉ text.toList) (escaped : '%' ∉ text.toList) (nonempty : text ≠ "")
    (kept : text ≠ ":memory:") : ofText text = .file (Path.ofString text) := by
  have whole : text.toList.takeWhile (· != '?') = text.toList := by
    rw [List.takeWhile_eq_self_iff]
    intro c member
    simpa using fun same : c = '?' => cut (same ▸ member)
  simp only [ofText, whole, Text.unescapePercent_of_notMem escaped, String.ofList_toList]
  rw [if_neg]
  rintro (none | memory)
  · exact nonempty (String.toList_injective none)
  · exact kept (String.toList_injective memory)

theorem ofWorkspace_eq {directory : Path} {name : String} (normal : directory.Normal)
    (plain : ∀ part ∈ directory.parts, '?' ∉ part.toList ∧ '%' ∉ part.toList)
    (accepted : Workspace.acceptsName name = true) :
    ofWorkspace directory name = .file (directory.file (Workspace.fileName name)) := by
  have free {c : Char} (special : c ∈ ['?', '%', '/']) : c ∉ (Workspace.fileName name).toList :=
    Workspace.notMem_fileName accepted special
  have normal := Workspace.normal_file normal accepted
  have inside : 'd' ∈ (directory.file (Workspace.fileName name)).toString.toList := by
    rw [Path.toList_toString_file]
    exact List.mem_append_right _ (by simp [Workspace.fileName])
  have cut := normal.notMem_toString (by decide) (fun part listed => (plain part listed).1) (free (by decide))
  have escaped := normal.notMem_toString (by decide) (fun part listed => (plain part listed).2) (free (by decide))
  -- What is left is that the text is none of those that stand for memory.
  rw [ofWorkspace, ofText_of_plain cut escaped, normal.ofString_toString]
  all_goals
    intro same
    rw [same] at inside
    exact absurd inside (by decide)

/-- Behind a question mark all workspaces are in one file. -/
example : [ofWorkspace (Path.ofString "/tmp/data?old") "a", ofWorkspace (Path.ofString "/tmp/data?old") "b"] =
    [.file ⟨"/", ["tmp", "data"]⟩, .file ⟨"/", ["tmp", "data"]⟩] := by decide +kernel

end Location

end Footprint
