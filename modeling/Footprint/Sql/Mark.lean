import Footprint.Text.Blank

namespace Footprint.Sql.Mark

def isBlank (c : Char) : Bool := Text.isBlank c || (0x1c ≤ c.toNat && c.toNat ≤ 0x1f)

def behindRemark? : List Char → Option (List Char)
  | [] => none
  | c :: rest =>
    if c = '\n' then none
    else match rest with
      | '~' :: '~' :: ']' :: behind => some behind
      | rest => behindRemark? rest

def behindName? : List Char → Option (List Char)
  | ']' :: behind => some behind
  | '~' :: '~' :: rest => behindRemark? rest
  | _ => none

def takeName? (name : List Char) : List Char → Option (List Char × List Char)
  | [] => none
  | c :: rest =>
    if isBlank c then none
    else match behindName? rest with
      | some behind => some ((c :: name).reverse, behind)
      | none => takeName? (c :: name) rest

def opening : List Char := '_' :: "_[POSTCOMPILE_".toList

/-- The name in the mark that the text starts with, and what stands behind the mark. -/
def take? : List Char → Option (List Char × List Char)
  | '%' :: '(' :: rest =>
    match rest.span (· != ')') with
    | (name@(_ :: _), _ :: 's' :: behind) => some (name, behind)
    | _ => none
  | text => if opening.isPrefixOf text then takeName? [] (text.drop opening.length) else none

def namesFrom : Nat → List Char → List (List Char)
  | n + 1, c :: rest =>
    match take? (c :: rest) with
    | some (name, behind) => name :: namesFrom n behind
    | none => namesFrom n rest
  | _, _ => []

def names (text : List Char) : List (List Char) := namesFrom text.length text

theorem take?_of_plain {c : Char} (percent : c ≠ '%') (underscore : c ≠ '_') (rest : List Char) :
    take? (c :: rest) = none := by
  have other : opening.isPrefixOf (c :: rest) = false := by
    rw [opening, List.isPrefixOf_cons_cons, beq_false_of_ne (Ne.symm underscore), Bool.false_and]
  unfold take?
  split
  next same => exact absurd (List.cons.inj same).1 percent
  next => rw [other, if_neg Bool.false_ne_true]

theorem names_of_plain {text : List Char} (percent : '%' ∉ text) (underscore : '_' ∉ text) : names text = [] := by
  unfold names
  generalize text.length = n
  induction text generalizing n with
  | nil => cases n <;> rfl
  | cons c rest ih =>
    simp only [List.mem_cons, not_or] at percent underscore
    cases n with
    | zero => rfl
    | succ n =>
      rw [namesFrom, take?_of_plain (Ne.symm percent.1) (Ne.symm underscore.1)]
      exact ih percent.2 underscore.2 n

end Footprint.Sql.Mark
