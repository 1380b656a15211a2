import Footprint.Proofs.Filter.Quotation
import Footprint.Sql.Query

namespace Footprint.Sql.Token

variable {chars middle rest : List Char} {tokens later : List Token}

/-- Reading the characters gives the tokens first and goes on with the rest. A step for every character
    is enough before, and a step for every character is left behind. -/
def Reads (chars : List Char) (tokens : List Token) (rest : List Char) : Prop :=
  ∀ n, chars.length ≤ n → ∃ m, rest.length ≤ m ∧
    lexFrom n chars = (lexFrom m rest).map fun (more, left) => (tokens ++ more, left)

theorem lexFrom_skip {c : Char} (going : c ≠ ';') (taken : take (c :: chars) = some (none, rest)) (n : Nat) :
    lexFrom (n + 1) (c :: chars) = lexFrom n rest := by
  rw [lexFrom, taken]
  · simp
  · intro rest same
    exact going (List.cons.inj same).1

theorem lexFrom_token {c : Char} {token : Token} (going : c ≠ ';')
    (taken : take (c :: chars) = some (some token, rest)) (n : Nat) :
    lexFrom (n + 1) (c :: chars) = (lexFrom n rest).map fun (tokens, left) => (token :: tokens, left) := by
  rw [lexFrom, taken]
  · simp
  · intro rest same
    exact going (List.cons.inj same).1

namespace Reads

theorem trans (first : Reads chars tokens middle) (second : Reads middle later rest) :
    Reads chars (tokens ++ later) rest := by
  intro n enough
  obtain ⟨m, left, run⟩ := first n enough
  obtain ⟨k, left', run'⟩ := second m left
  refine ⟨k, left', ?_⟩
  rw [run, run', Option.map_map]
  simp [Function.comp_def]

theorem skip {c : Char} (going : c ≠ ';') (taken : take (c :: chars) = some (none, rest))
    (shorter : rest.length ≤ chars.length) : Reads (c :: chars) [] rest := by
  intro n enough
  simp only [List.length_cons] at enough
  obtain ⟨m, rfl⟩ : ∃ m, n = m + 1 := ⟨n - 1, by omega⟩
  refine ⟨m, by omega, ?_⟩
  rw [lexFrom_skip going taken]
  simp

theorem token {c : Char} {token : Token} (going : c ≠ ';') (taken : take (c :: chars) = some (some token, rest))
    (shorter : rest.length ≤ chars.length) : Reads (c :: chars) [token] rest := by
  intro n enough
  simp only [List.length_cons] at enough
  obtain ⟨m, rfl⟩ : ∃ m, n = m + 1 := ⟨n - 1, by omega⟩
  refine ⟨m, by omega, ?_⟩
  exact lexFrom_token going taken m

theorem join_eq (apart : Token.sign .dot ∉ tokens) : join tokens = tokens := by
  induction tokens with
  | nil => simp [join]
  | cons token tokens ih =>
    have rest := ih fun member => apart (List.mem_cons_of_mem token member)
    cases tokens with
    | nil => simp [join]
    | cons next tokens =>
      have other : next ≠ .sign .dot := by
        rintro rfl
        exact apart (by simp)
      rw [join, rest]
      all_goals
        intros
        simp_all

theorem lex (read : Reads chars tokens []) (apart : Token.sign .dot ∉ tokens) :
    Token.lex chars = some (tokens, []) := by
  obtain ⟨m, -, run⟩ := read chars.length (Nat.le_refl _)
  have ended : lexFrom m [] = some ([], []) := by cases m <;> rfl
  rw [Token.lex, run, ended]
  simp [join_eq apart]

/-! The pieces -/

theorem space {c : Char} (word : Value.isBlank c = false) (rest : List Char) :
    Reads (' ' :: c :: rest) [] (c :: rest) := by
  have taken : take (' ' :: c :: rest) = some (none, (c :: rest).dropWhile Value.isBlank) := rfl
  rw [List.dropWhile_cons_of_neg (by simp [word])] at taken
  exact skip (by decide) taken (by simp)

theorem literal (value : List Char) (ends : rest.head? ≠ some '\'') :
    Reads (' ' :: (Filter.literal value ++ rest)) [.text value] rest := by
  have taken : take (Filter.literal value ++ rest) =
      (takeQuoted '\'' (Filter.doubleQuotes value ++ ['\''] ++ rest)).map
        fun read => (some (.text read.1), read.2) := rfl
  rw [List.append_assoc, List.singleton_append, takeQuoted_literal value ends] at taken
  have read : Reads (Filter.literal value ++ rest) [.text value] rest := token (by decide) taken (by simp; omega)
  exact (space (by decide) _).trans read

theorem equals (rest : List Char) : Reads (' ' :: '=' :: ' ' :: rest) [.sign .eq] (' ' :: rest) := by
  have read : Reads ('=' :: ' ' :: rest) [.sign .eq] (' ' :: rest) := token (by decide) rfl (by simp)
  exact (space (by decide) _).trans read

theorem column (column : Column) (rest : List Char) :
    Reads (' ' :: (column.name.toList ++ ' ' :: rest)) [.name ⟨column.name.toList, false, true⟩] (' ' :: rest) := by
  have taken : take (column.name.toList ++ ' ' :: rest) =
      some (some (.name ⟨column.name.toList, false, true⟩), ' ' :: rest) := by
    cases column
    case field a => cases a <;> rfl
    all_goals rfl
  obtain ⟨c, name, chars, word, going⟩ :
      ∃ c name, column.name.toList = c :: name ∧ Value.isBlank c = false ∧ c ≠ ';' := by
    cases column
    case field a => cases a <;> exact ⟨_, _, rfl, by decide⟩
    all_goals exact ⟨_, _, rfl, by decide⟩
  rw [chars] at taken ⊢
  exact (space word _).trans (token going taken (by simp))

theorem term (column : Column) (value : List Char) (ends : rest.head? ≠ some '\'') :
    Reads (Filter.Piece.render (.term column.name.toList value) ++ rest)
      [.name ⟨column.name.toList, false, true⟩, .sign .eq, .text value] rest := by
  have named := Reads.column column ('=' :: ' ' :: (Filter.literal value ++ rest))
  have sign := Reads.equals (Filter.literal value ++ rest)
  simpa [Filter.Piece.render] using (named.trans sign).trans (.literal value ends)

theorem and (rest : List Char) : Reads (' ' :: 'a' :: 'n' :: 'd' :: ' ' :: rest) [.keyword .and] (' ' :: rest) := by
  have read : Reads ('a' :: 'n' :: 'd' :: ' ' :: rest) [.keyword .and] (' ' :: rest) := token (by decide) rfl (by simp)
  exact (space (by decide) _).trans read

theorem or (rest : List Char) : Reads (' ' :: 'o' :: 'r' :: ' ' :: rest) [.keyword .or] (' ' :: rest) := by
  have read : Reads ('o' :: 'r' :: ' ' :: rest) [.keyword .or] (' ' :: rest) := token (by decide) rfl (by simp)
  exact (space (by decide) _).trans read

end Reads
end Footprint.Sql.Token
