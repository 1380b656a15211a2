import Footprint.Proofs.Sql.Condition

namespace Footprint.Sql

def nested (pairs : Nat) : List Char := List.replicate pairs '(' ++ '1' :: List.replicate pairs ')'

def nestedTokens (pairs : Nat) : List Token :=
  List.replicate pairs (.sign .leftParen) ++ .integer 1 :: List.replicate pairs (.sign .rightParen)

namespace Token.Reads

theorem replicate {c : Char} {token : Token} (going : c ≠ ';')
    (taken : ∀ rest, take (c :: rest) = some (some token, rest)) (n : Nat) (rest : List Char) :
    Reads (List.replicate n c ++ rest) (List.replicate n token) rest := by
  induction n with
  | zero => exact fun m enough => ⟨m, enough, by simp⟩
  | succ n ih => exact (Reads.token going (taken _) (Nat.le_refl _)).trans ih

theorem nested (pairs : Nat) : Reads (nested pairs) (nestedTokens pairs) [] := by
  have opened : Reads (List.replicate pairs '(' ++ '1' :: List.replicate pairs ')')
      (List.replicate pairs (.sign .leftParen)) ('1' :: List.replicate pairs ')') :=
    replicate (by decide) (fun _ => rfl) pairs _
  have one : Reads ('1' :: List.replicate pairs ')') [.integer 1] (List.replicate pairs ')') := by
    have taken : take ('1' :: List.replicate pairs ')') = some (some (.integer 1), List.replicate pairs ')') := by
      cases pairs <;> rfl
    exact Reads.token (by decide) taken (Nat.le_refl _)
  have closed : Reads (List.replicate pairs ')' ++ []) (List.replicate pairs (.sign .rightParen)) [] :=
    replicate (by decide) (fun _ => rfl) pairs []
  rw [List.append_nil] at closed
  exact opened.trans (one.trans closed)

end Token.Reads

namespace Parser

variable {deepest : Nat}

theorem depth_replicate (n : Nat) : Stack.depth (List.replicate n .paren) = n := by
  induction n with
  | zero => rfl
  | succ n ih =>
    rw [List.replicate_succ, Stack.depth, ih, Frame.width]
    omega

theorem foldlM_opening (n : Nat) (stack : Stack) :
    (List.replicate n (.sign .leftParen)).foldlM step ⟨stack, .start, deepest⟩ =
      some ⟨List.replicate n .paren ++ stack, .start, deepest⟩ := by
  induction n generalizing stack with
  | zero => rfl
  | succ n ih =>
    have opened : step ⟨stack, .start, deepest⟩ (.sign .leftParen) = some ⟨.paren :: stack, .start, deepest⟩ := rfl
    rw [List.replicate_succ, List.foldlM_cons, opened, List.replicate_succ', List.append_assoc]
    exact ih (.paren :: stack)

theorem step_closing (n : Nat) (e : Sized) :
    step ⟨.paren :: List.replicate n .paren, .behind e, deepest⟩ (.sign .rightParen) =
      some ⟨List.replicate n .paren, .behind e, max deepest (n + 3)⟩ := by
  have reached : step ⟨.paren :: List.replicate n .paren, .behind e, deepest⟩ (.sign .rightParen) =
      some (finish deepest (List.replicate n .paren) 3 e) := rfl
  rw [reached, finish, depth_replicate]

theorem foldlM_closing (n : Nat) (room : n + 2 ≤ deepest) (e : Sized) :
    (List.replicate n (.sign .rightParen)).foldlM step ⟨List.replicate n .paren, .behind e, deepest⟩ =
      some ⟨[], .behind e, deepest⟩ := by
  induction n with
  | zero => rfl
  | succ n ih =>
    have same : max deepest (n + 3) = deepest := by omega
    simp only [List.replicate_succ, List.foldlM_cons, step_closing, same]
    exact ih (by omega)

end Parser

theorem Reading.ofTokens?_nested {pairs : Nat} (positive : 0 < pairs) :
    ofTokens? (nestedTokens pairs) = some ⟨.integer 1, 1, pairs + 2⟩ := by
  obtain ⟨n, rfl⟩ : ∃ n, pairs = n + 1 := ⟨pairs - 1, by omega⟩
  have inside : Parser.step ⟨List.replicate (n + 1) .paren, .start, 0⟩ (.integer 1) =
      some (Parser.finish 0 (List.replicate (n + 1) .paren) 1 (.leaf (.integer 1))) := rfl
  have room : max (max 0 (n + 1 + 1)) (n + 3) = n + 3 := by omega
  rw [ofTokens?, nestedTokens, List.foldlM_append, Parser.foldlM_opening, List.append_nil, Option.bind_eq_bind,
    Option.bind_some, List.foldlM_cons, inside, Parser.finish, Parser.depth_replicate, Option.bind_eq_bind,
    Option.bind_some]
  simp only [List.replicate_succ, List.foldlM_cons, Parser.step_closing, room, Option.bind_eq_bind, Option.bind_some]
  rw [Parser.foldlM_closing n (Nat.le_succ _)]
  rfl

theorem Term.resolve?_one (q : Query) : (integer 1).resolve? q = some (.literal (.int 1)) := by
  rw [resolve?]
  rfl

theorem Query.condition_nested (q : Query) {pairs : Nat} (positive : 0 < pairs) :
    q.condition (String.ofList (nested pairs)) =
      if q.outer + (pairs + 2) ≤ Reading.greatestDepth then .ok (.literal (.int 1)) else .error .overflow := by
  have plain : ∀ token ∈ nestedTokens pairs, token.Plain := by
    intro token member
    simp only [nestedTokens, List.mem_append, List.mem_cons, List.mem_replicate] at member
    rcases member with ⟨-, rfl⟩ | rfl | ⟨-, rfl⟩ <;> exact ⟨nofun, nofun⟩
  have unmarked : Mark.names (nested pairs) = [] := Mark.names_of_plain (by simp [nested]) (by simp [nested])
  rw [q.condition_of_reads (Token.Reads.nested pairs) plain (by simp [nested]) unmarked (by simp [nested])
    (Reading.ofTokens?_nested positive), Term.resolve?_one]
  have low : decide (1 ≤ Reading.greatestHeight) = true := rfl
  simp [Reading.fits, low]

end Footprint.Sql
