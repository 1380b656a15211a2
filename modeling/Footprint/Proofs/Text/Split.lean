import Footprint.Text.Split
import Mathlib.Data.List.Infix

namespace Footprint.Text

/-- In the text with the mark behind it, the mark stands at the end and nowhere else. -/
def EndsAt (mark text : List Char) : Prop := ¬ mark <:+: text ++ mark.dropLast

section

variable {mark text other rest behind : List Char}

theorem EndsAt.length_le (first : EndsAt mark text) (same : text ++ mark ++ rest = other ++ mark ++ behind) :
    text.length ≤ other.length := by
  by_contra shorter
  have front : text ++ mark.dropLast <+: other ++ mark ++ behind := by
    rw [← same]
    exact ((List.prefix_append_right_inj text).mpr (List.dropLast_prefix mark)).trans (List.prefix_append _ _)
  have some : mark ≠ [] := by
    rintro rfl
    exact first List.nil_infix
  have count := List.length_pos_iff.mpr some
  have inside : other ++ mark <+: text ++ mark.dropLast := by
    apply List.prefix_of_prefix_length_le (List.prefix_append _ _) front
    simp only [List.length_append, List.length_dropLast]
    omega
  obtain ⟨more, whole⟩ := inside
  exact first ⟨other, more, whole⟩

theorem EndsAt.unique (first : EndsAt mark text) (first' : EndsAt mark other)
    (same : text ++ mark ++ rest = other ++ mark ++ behind) : text = other ∧ rest = behind := by
  have length : text.length = other.length := Nat.le_antisymm (first.length_le same) (first'.length_le same.symm)
  rw [List.append_assoc, List.append_assoc] at same
  obtain ⟨texts, others⟩ := List.append_inj same length
  exact ⟨texts, List.append_cancel_left others⟩

theorem exists_endsAt (some : mark ≠ []) (text rest : List Char) :
    ∃ first behind, text ++ mark ++ rest = first ++ mark ++ behind ∧ EndsAt mark first ∧ rest <:+ behind := by
  by_cases ends : EndsAt mark text
  · exact ⟨text, rest, rfl, ends, List.suffix_refl rest⟩
  · obtain ⟨early, late, inside⟩ := not_not.mp ends
    have count := List.length_pos_iff.mpr some
    have length := congrArg List.length inside
    simp only [List.length_append, List.length_dropLast] at length
    -- The mark stands earlier, and what was in front of it becomes shorter.
    have shorter : early.length < text.length := by omega
    obtain ⟨first, behind, same, first', later⟩ := exists_endsAt some early (late ++ [mark.getLast some] ++ rest)
    refine ⟨first, behind, ?_, first', (List.suffix_append _ _).trans later⟩
    calc text ++ mark ++ rest = text ++ mark.dropLast ++ [mark.getLast some] ++ rest := by
          conv_lhs => rw [← List.dropLast_concat_getLast some]
          simp only [List.append_assoc]
      _ = early ++ mark ++ (late ++ [mark.getLast some] ++ rest) := by
          rw [← inside]
          simp only [List.append_assoc]
      _ = first ++ mark ++ behind := same
termination_by text.length

theorem endsAt_of_unbarred (some : rest ≠ []) (once : '|' ∉ rest) (unbarred : '|' ∉ text) :
    EndsAt (' ' :: '|' :: rest) text := by
  rintro ⟨early, late, inside⟩
  have count := List.length_pos_iff.mpr some
  have last : (' ' :: '|' :: rest).dropLast = ' ' :: '|' :: rest.dropLast := by
    cases rest with
    | nil => exact absurd rfl some
    | cons c rest => rfl
  have apart : '|' ∉ text ++ [' '] := by simp [unbarred]
  have once' : '|' ∉ rest.dropLast := fun member => once (List.dropLast_subset rest member)
  have same : (early ++ [' ']) ++ '|' :: (rest ++ late) = (text ++ [' ']) ++ '|' :: rest.dropLast := by
    rw [last] at inside
    simpa using inside
  obtain ⟨-, -, behind⟩ := (List.append_cons_inj_of_notMem apart once').mp same.symm
  have length := congrArg List.length behind
  simp only [List.length_append, List.length_dropLast] at length
  omega

end

/-! Lines -/

def Unbroken (text : List Char) : Prop := ∀ c ∈ text, isLineEnd c = false

instance (text : List Char) : Decidable (Unbroken text) := List.decidableBAll _ text

theorem unbroken_append {text other : List Char} : Unbroken (text ++ other) ↔ Unbroken text ∧ Unbroken other :=
  List.forall_mem_append

theorem cutLines_unbroken {begun text : List Char} (unbroken : Unbroken text) (some : begun ≠ [] ∨ text ≠ []) :
    cutLines begun text = [begun.reverse ++ text] := by
  induction text generalizing begun with
  | nil =>
    have some : begun ≠ [] := by simpa using some
    simp [cutLines, some]
  | cons c rest ih =>
    obtain ⟨here, behind⟩ := List.forall_mem_cons.mp unbroken
    have later : cutLines (c :: begun) rest = [(c :: begun).reverse ++ rest] := ih behind (.inl (by simp))
    unfold cutLines
    split
    next nothing => cases nothing
    next same =>
      obtain ⟨rfl, -⟩ := List.cons.inj same
      exact absurd here (by decide)
    next same =>
      obtain ⟨rfl, rfl⟩ := List.cons.inj same
      rw [here, later]
      simp

theorem unbroken_of_mem_cutLines {begun text line : List Char} (clean : Unbroken begun)
    (member : line ∈ cutLines begun text) : Unbroken line := by
  fun_induction cutLines begun text <;> grind [Unbroken]

theorem printedLines_eq_iff {text : String} (some : text ≠ "") :
    printedLines text = [text] ↔ Unbroken text.toList := by
  constructor
  · intro whole
    have member : text ∈ printedLines text := by
      rw [whole]
      exact List.mem_singleton_self text
    obtain ⟨line, cut, rfl⟩ := List.mem_map.mp member
    have clean : Unbroken [] := by decide
    rw [String.toList_ofList]
    exact unbroken_of_mem_cutLines clean cut
  · intro unbroken
    have some : text.toList ≠ [] := by simpa using some
    rw [printedLines, cutLines_unbroken unbroken (.inr some)]
    simp

end Footprint.Text
