import Footprint.Filter
import Footprint.Sql.Token
import Mathlib.Data.List.TakeDrop
import Mathlib.Data.List.TakeWhile

/-!
A filter's text read back by the rule of string literals: from a quote to the next one that is not
doubled. The literals are the values among the filter's words, whatever characters they hold, and
all other text comes from the words that stand for themselves.
-/

namespace Footprint

namespace Filter

theorem doubleQuotes_quote (value : List Char) : doubleQuotes ('\'' :: value) = '\'' :: '\'' :: doubleQuotes value := rfl

theorem doubleQuotes_cons {c : Char} (other : c ≠ '\'') (value : List Char) :
    doubleQuotes (c :: value) = c :: doubleQuotes value := by
  simp [doubleQuotes]

theorem doubleQuotes_append (value later : List Char) :
    doubleQuotes (value ++ later) = doubleQuotes value ++ doubleQuotes later := by
  induction value with
  | nil => rfl
  | cons c value ih =>
    by_cases quote : c = '\''
    · subst quote
      rw [List.cons_append, doubleQuotes_quote, doubleQuotes_quote, ih, List.cons_append, List.cons_append]
    · rw [List.cons_append, doubleQuotes_cons quote, doubleQuotes_cons quote, ih, List.cons_append]

theorem mem_doubleQuotes {c : Char} {value : List Char} : c ∈ doubleQuotes value ↔ c ∈ value := by
  induction value with
  | nil => rfl
  | cons d value ih =>
    by_cases quote : d = '\''
    · subst quote
      simp [doubleQuotes_quote, ih]
    · rw [doubleQuotes_cons quote, List.mem_cons, List.mem_cons, ih]

theorem length_doubleQuotes (value : List Char) : value.length ≤ (doubleQuotes value).length := by
  induction value with
  | nil => exact Nat.le_refl 0
  | cons c value ih =>
    by_cases quote : c = '\''
    · subst quote
      simp only [doubleQuotes_quote, List.length_cons]
      omega
    · rw [doubleQuotes_cons quote, List.length_cons, List.length_cons]
      omega

end Filter

namespace Sql.Token

variable {quote c : Char} {chars value rest : List Char}

theorem takeQuoted_cons (other : c ≠ quote) (rest : List Char) :
    takeQuoted quote (c :: rest) = (takeQuoted quote rest).map fun (chars, rest) => (c :: chars, rest) := by
  cases rest with
  | nil => simp [takeQuoted, other]
  | cons d rest => simp [takeQuoted, other]

theorem takeQuoted_quote (ends : rest.head? ≠ some quote) : takeQuoted quote (quote :: rest) = some ([], rest) := by
  cases rest with
  | nil => simp [takeQuoted]
  | cons d rest =>
    have other : d ≠ quote := by simpa using ends
    simp [takeQuoted, other]

theorem takeQuoted_length (read : takeQuoted quote chars = some (value, rest)) : rest.length < chars.length := by
  induction chars using takeQuoted.induct quote generalizing value with
  | case1 => cases read
  | case2 =>
    simp only [takeQuoted, if_true, Option.some.injEq, Prod.mk.injEq] at read
    simp [← read.2]
  | case3 c other => simp [takeQuoted, other] at read
  | case4 tail ih =>
    simp only [takeQuoted, if_true, Option.map_eq_some_iff] at read
    obtain ⟨⟨chars, left⟩, inner, same⟩ := read
    cases same
    have shorter := ih inner
    change left.length < _ at shorter
    simp only [List.length_cons]
    omega
  | case5 d tail other =>
    simp only [takeQuoted, if_true, if_neg other, Option.some.injEq, Prod.mk.injEq] at read
    simp [← read.2]
  | case6 c d tail other ih =>
    simp only [takeQuoted, if_neg other, Option.map_eq_some_iff] at read
    obtain ⟨⟨chars, left⟩, inner, same⟩ := read
    cases same
    have shorter := ih inner
    change left.length < _ at shorter
    simp only [List.length_cons] at shorter ⊢
    omega

theorem takeQuoted_literal (value : List Char) (ends : rest.head? ≠ some '\'') :
    takeQuoted '\'' (Filter.doubleQuotes value ++ '\'' :: rest) = some (value, rest) := by
  induction value with
  | nil => exact takeQuoted_quote ends
  | cons c value ih =>
    by_cases quote : c = '\''
    · subst quote
      simp [Filter.doubleQuotes_quote, takeQuoted, ih]
    · rw [Filter.doubleQuotes_cons quote, List.cons_append, takeQuoted_cons quote, ih]
      rfl

end Sql.Token

namespace Filter

inductive Mark
  | plain (c : Char)
  | literal (value : List Char)
  deriving DecidableEq, Repr

namespace Mark

def value? : Mark → Option (List Char)
  | plain _ => none
  | literal value => some value

def plain? : Mark → Option Char
  | plain c => some c
  | literal _ => none

def literals (marks : List Mark) : List (List Char) := marks.filterMap value?

def outside (marks : List Mark) : List Char := marks.filterMap plain?

end Mark

/-- Reads a text from literal to literal. There is nothing to read if one of them has no end. -/
def scan (text : List Char) : Option (List Mark) :=
  match text with
  | [] => some []
  | c :: rest =>
    if c = '\'' then
      match _ : Sql.Token.takeQuoted '\'' rest with
      | some (value, rest) => (scan rest).map (.literal value :: ·)
      | none => none
    else (scan rest).map (.plain c :: ·)
termination_by text.length
decreasing_by
  · have shorter := Sql.Token.takeQuoted_length ‹_›
    simp only [List.length_cons]
    omega
  · simp

namespace Piece

def word : Piece → List Char
  | verbatim text | operand text => text
  | term column value => column ++ '=' :: value

def value? : Piece → Option (List Char)
  | verbatim _ => none
  | term _ value | operand value => some value

def plain : Piece → List Char
  | verbatim text => ' ' :: text
  | term column _ => ' ' :: (column ++ [' ', '=', ' '])
  | operand _ => [' ']

def marks (piece : Piece) : List Mark := piece.plain.map .plain ++ (piece.value?.map .literal).toList

theorem render_eq (piece : Piece) : piece.render = piece.plain ++ (piece.value?.map literal).getD [] := by
  cases piece <;> simp [render, plain, value?]

end Piece

variable {text value rest : List Char}

theorem splitTerm?_eq_some {word column value : List Char} (split : splitTerm? word = some (column, value)) :
    word = column ++ '=' :: value ∧ column ≠ [] ∧ '=' ∉ column := by
  unfold splitTerm? at split
  have parts := List.takeWhile_append_dropWhile (p := (· != '=')) (l := word)
  rw [List.span_eq_takeWhile_dropWhile] at split
  generalize first : word.takeWhile (· != '=') = before at split parts
  generalize later : word.dropWhile (· != '=') = behind at split parts
  split at split
  next c before' d behind' same =>
    cases same
    cases split
    have equals : d = '=' := by
      have stops := List.head?_dropWhile_not (p := (· != '=')) (l := word)
      simpa [later] using stops
    subst equals
    refine ⟨parts.symm, by simp, ?_⟩
    intro member
    have other := List.mem_takeWhile_imp (first ▸ member)
    simp at other
  next => cases split

theorem splitTerm?_append {column : List Char} (named : column ≠ []) (apart : '=' ∉ column) (value : List Char) :
    splitTerm? (column ++ '=' :: value) = some (column, value) := by
  have inside : ∀ c ∈ column, (c != '=') = true := by
    intro c member
    simpa using fun same : c = '=' => apart (same ▸ member)
  have before : (column ++ '=' :: value).takeWhile (· != '=') = column := by
    simp [List.takeWhile_append_of_pos inside]
  have behind : (column ++ '=' :: value).dropWhile (· != '=') = '=' :: value := by
    simp [List.dropWhile_append_of_pos inside]
  rw [splitTerm?, List.span_eq_takeWhile_dropWhile, before, behind]
  cases column with
  | nil => exact absurd rfl named
  | cons c column => rfl

theorem word_pieces (awaiting : Bool) (words : List (List Char)) : (pieces awaiting words).map Piece.word = words := by
  induction words generalizing awaiting with
  | nil => rfl
  | cons word rest ih =>
    unfold pieces
    split
    · simp [Piece.word, ih]
    · split
      next column value split =>
        obtain ⟨whole, -, -⟩ := splitTerm?_eq_some split
        simp [Piece.word, ih, ← whole]
      next => cases awaiting <;> simp [Piece.word, ih]

theorem scan_plain (unquoted : '\'' ∉ text) (rest : List Char) :
    scan (text ++ rest) = (scan rest).map (text.map .plain ++ ·) := by
  induction text with
  | nil => simp
  | cons c text ih =>
    have other : c ≠ '\'' := by
      rintro rfl
      exact unquoted (List.mem_cons_self ..)
    have inner := ih fun member => unquoted (List.mem_cons_of_mem c member)
    rw [List.cons_append, scan, if_neg other, inner, Option.map_map]
    rfl

theorem scan_literal (value : List Char) (ends : rest.head? ≠ some '\'') :
    scan (literal value ++ rest) = (scan rest).map (.literal value :: ·) := by
  have read : Sql.Token.takeQuoted '\'' (doubleQuotes value ++ ['\''] ++ rest) = some (value, rest) := by
    rw [List.append_assoc]
    exact Sql.Token.takeQuoted_literal value ends
  rw [literal, List.cons_append, scan, if_pos rfl]
  split
  next read' =>
    cases read.symm.trans read'
    rfl
  next read' => cases read.symm.trans read'

theorem render_head (pieces : List Piece) : (render pieces).head? ≠ some '\'' := by
  cases pieces with
  | nil => simp [render]
  | cons piece rest => cases piece <;> simp [render, Piece.render]

theorem scan_render (pieces : List Piece) (unquoted : ∀ piece ∈ pieces, '\'' ∉ piece.plain) :
    scan (render pieces) = some (pieces.flatMap Piece.marks) := by
  induction pieces with
  | nil => simp [render, scan]
  | cons piece rest ih =>
    have first := unquoted piece (List.mem_cons_self ..)
    have later := ih fun other member => unquoted other (List.mem_cons_of_mem piece member)
    have split : render (piece :: rest) = piece.plain ++ ((piece.value?.map literal).getD [] ++ render rest) := by
      simp [render, Piece.render_eq]
    rw [split, scan_plain first]
    cases value : piece.value? with
    | none => simp [later, Piece.marks, value]
    | some text =>
      have inner := scan_literal text (render_head rest)
      simp [inner, later, Piece.marks, value]

theorem literals_marks (pieces : List Piece) :
    Mark.literals (pieces.flatMap Piece.marks) = pieces.filterMap Piece.value? := by
  induction pieces with
  | nil => rfl
  | cons piece rest ih =>
    have plain : (piece.plain.map Mark.plain).filterMap Mark.value? = [] := by simp [Mark.value?]
    rw [Mark.literals] at ih ⊢
    rw [List.flatMap_cons, List.filterMap_append, ih, Piece.marks, List.filterMap_append, plain]
    cases value : piece.value? <;> simp [value, Mark.value?]

theorem outside_marks (pieces : List Piece) :
    Mark.outside (pieces.flatMap Piece.marks) = pieces.flatMap Piece.plain := by
  induction pieces with
  | nil => rfl
  | cons piece rest ih =>
    have plain : (piece.plain.map Mark.plain).filterMap Mark.plain? = piece.plain := by
      simp [List.filterMap_map, Function.comp_def, Mark.plain?]
    rw [Mark.outside] at ih ⊢
    rw [List.flatMap_cons, List.filterMap_append, ih, Piece.marks, List.filterMap_append, plain]
    cases value : piece.value? <;> simp [Mark.plain?]

/-- If no quote stands outside the values, the literals of a filter's text are the values, in order and
    unchanged, and the text outside of them is what the other words and names give. -/
theorem scan_parse {words : List String} {filter : Filter} (accepted : parse words = .ok filter)
    (unquoted : ∀ piece ∈ pieces false (words.tail.map String.toList), '\'' ∉ piece.plain) :
    let read := pieces false (words.tail.map String.toList)
    read.map Piece.word = words.tail.map String.toList ∧
    ∃ marks, scan filter.text.toList = some marks ∧ marks = read.flatMap Piece.marks ∧
      Mark.literals marks = read.filterMap Piece.value? ∧ Mark.outside marks = read.flatMap Piece.plain := by
  intro read
  have text : filter.text.toList = render read := by
    cases words with
    | nil => cases accepted
    | cons first words =>
      simp only [parse] at accepted
      split at accepted
      · cases accepted
        simp [read]
      · cases accepted
  refine ⟨word_pieces false _, read.flatMap Piece.marks, ?_, rfl, literals_marks read, outside_marks read⟩
  rw [text]
  exact scan_render read unquoted

/-- Values that begin and end with quotes, hold nothing else, or follow each other at once. -/
theorem scan_parse_of_quotes :
    let words := ["WHERE", "value", "like", "''", "city='", "title=it's", "or", "x", "=", ""]
    ∃ filter, parse words = .ok filter ∧ ∃ marks, scan filter.text.toList = some marks ∧
      Mark.literals marks = ["''".toList, "'".toList, "it's".toList, []] ∧
      Mark.outside marks = " value like  city =  title =  or x = ".toList := by
  intro words
  have accepted : parse words = .ok ⟨" value like '''''' city = '''' title = 'it''s' or x = ''"⟩ := by rfl
  obtain ⟨-, marks, scanned, -, literals, outside⟩ := scan_parse accepted (by decide +kernel)
  refine ⟨_, accepted, marks, scanned, ?_, ?_⟩
  · rw [literals]
    decide +kernel
  · rw [outside]
    decide +kernel

end Filter
end Footprint
