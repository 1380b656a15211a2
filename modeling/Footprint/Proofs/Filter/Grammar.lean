import Footprint.Proofs.Filter.Requirement

namespace Footprint.Filter

structure Compact where
  column : List Char
  value : List Char
  named : column ≠ []
  apart : '=' ∉ column

structure Plain where
  chars : List Char
  whole : '=' ∉ chars ∨ chars.head? = some '='

structure Operator where
  chars : List Char
  valued : isValueOperator chars = true

namespace Compact

def word (term : Compact) : List Char := term.column ++ '=' :: term.value

def piece (term : Compact) : Piece := .term term.column term.value

def ofWord? (word : List Char) : Option Compact :=
  match split : splitTerm? word with
  | some (column, value) =>
    have parts := splitTerm?_eq_some split
    some ⟨column, value, parts.2.1, parts.2.2⟩
  | none => none

theorem splitTerm?_word (term : Compact) : splitTerm? term.word = some (term.column, term.value) :=
  splitTerm?_append term.named term.apart term.value

theorem ofWord?_word (term : Compact) : ofWord? term.word = some term := by
  unfold ofWord?
  split
  next column value split =>
    cases term.splitTerm?_word.symm.trans split
    rfl
  next split => cases term.splitTerm?_word.symm.trans split

theorem word_of_ofWord? {word : List Char} {term : Compact} (read : ofWord? word = some term) : term.word = word := by
  unfold ofWord? at read
  split at read
  next column value split =>
    cases read
    exact (splitTerm?_eq_some split).1.symm
  next => cases read

theorem ofWord?_eq_none_iff {word : List Char} :
    ofWord? word = none ↔ '=' ∉ word ∨ word.head? = some '=' := by
  constructor
  · intro unread
    by_cases member : '=' ∈ word
    · obtain ⟨column, value, rfl, apart⟩ := List.eq_append_cons_of_mem member
      cases column with
      | nil => exact .inr rfl
      | cons c column =>
        cases unread.symm.trans (ofWord?_word ⟨c :: column, value, List.cons_ne_nil _ _, apart⟩)
    · exact .inl member
  · intro whole
    by_contra read
    obtain ⟨term, read⟩ := Option.ne_none_iff_exists'.mp read
    obtain rfl := word_of_ofWord? read
    obtain ⟨column, value, named, apart⟩ := term
    rcases whole with none | first
    · exact none (List.mem_append_right _ List.mem_cons_self)
    · cases column with
      | nil => exact named rfl
      | cons c column =>
        cases first
        exact apart List.mem_cons_self

end Compact

theorem Plain.ofWord?_chars (word : Plain) : Compact.ofWord? word.chars = none :=
  Compact.ofWord?_eq_none_iff.mpr word.whole

theorem Plain.splitTerm?_chars (word : Plain) : splitTerm? word.chars = none := by
  cases split : splitTerm? word.chars with
  | none => rfl
  | some parts =>
    obtain ⟨column, value⟩ := parts
    obtain ⟨same, named, apart⟩ := splitTerm?_eq_some split
    have read := Compact.ofWord?_word ⟨column, value, named, apart⟩
    rw [Compact.word, ← same, word.ofWord?_chars] at read
    cases read

/-- Words that are read together. The value of an operation is missing if the words end before it. -/
inductive Group
  | compact (term : Compact) (free : isValueOperator term.word = false)
  | verbatim (word : Plain) (free : isValueOperator word.chars = false)
  | operation (operator : Operator) (terms : List Compact) (value? : Option Plain)

namespace Group

def words : Group → List (List Char)
  | compact term _ => [term.word]
  | verbatim word _ => [word.chars]
  | operation operator terms value? =>
    operator.chars :: terms.map Compact.word ++ (value?.map Plain.chars).toList

def pieces : Group → List Piece
  | compact term _ => [term.piece]
  | verbatim word _ => [.verbatim word.chars]
  | operation operator terms value? =>
    .verbatim operator.chars :: terms.map Compact.piece ++ (value?.map fun word => .operand word.chars).toList

def isClosed : Group → Bool
  | operation _ _ none => false
  | _ => true

theorem word_pieces (group : Group) : group.pieces.map Piece.word = group.words := by
  cases group with
  | compact term free => rfl
  | verbatim word free => rfl
  | operation operator terms value? => cases value? <;> simp [pieces, words, Piece.word, Compact.piece, Compact.word]

end Group

/-- All of the words, in their order, with no group but the last one cut off. -/
structure Grouping (words : List (List Char)) (groups : List Group) : Prop where
  words : groups.flatMap Group.words = words
  closed : ∀ group ∈ groups.dropLast, group.isClosed = true

namespace Group

def read : Option (Operator × List Compact) → List (List Char) → List Group
  | none, [] => []
  | some (operator, terms), [] => [.operation operator terms none]
  | none, word :: rest =>
    if valued : isValueOperator word = true then read (some (⟨word, valued⟩, [])) rest
    else match compact : Compact.ofWord? word with
      | some term =>
        .compact term (by simpa [Compact.word_of_ofWord? compact] using valued) :: read none rest
      | none => .verbatim ⟨word, Compact.ofWord?_eq_none_iff.mp compact⟩ (by simpa using valued) :: read none rest
  | some (operator, terms), word :: rest =>
    match compact : Compact.ofWord? word with
    | some term => read (some (operator, terms ++ [term])) rest
    | none => .operation operator terms (some ⟨word, Compact.ofWord?_eq_none_iff.mp compact⟩) :: read none rest

variable {rest : List (List Char)}

theorem read_compact (term : Compact) (free : isValueOperator term.word = false) :
    read none (term.word :: rest) = .compact term free :: read none rest := by
  rw [read, dif_neg (by simp [free])]
  split
  next compact =>
    cases compact.symm.trans term.ofWord?_word
    rfl
  next compact => cases compact.symm.trans term.ofWord?_word

theorem read_verbatim (word : Plain) (free : isValueOperator word.chars = false) :
    read none (word.chars :: rest) = .verbatim word free :: read none rest := by
  rw [read, dif_neg (by simp [free])]
  split
  next compact => cases compact.symm.trans word.ofWord?_chars
  next => rfl

theorem read_operator {word : List Char} (valued : isValueOperator word = true) :
    read none (word :: rest) = read (some (⟨word, valued⟩, [])) rest := by
  rw [read, dif_pos valued]

theorem read_term (operator : Operator) (terms : List Compact) (term : Compact) :
    read (some (operator, terms)) (term.word :: rest) = read (some (operator, terms ++ [term])) rest := by
  rw [read]
  split
  next compact =>
    cases compact.symm.trans term.ofWord?_word
    rfl
  next compact => cases compact.symm.trans term.ofWord?_word

theorem read_value (operator : Operator) (terms : List Compact) (value : Plain) :
    read (some (operator, terms)) (value.chars :: rest) = .operation operator terms (some value) :: read none rest := by
  rw [read]
  split
  next compact => cases compact.symm.trans value.ofWord?_chars
  next => rfl

theorem read_terms (operator : Operator) (before terms : List Compact) :
    read (some (operator, before)) (terms.map Compact.word ++ rest) = read (some (operator, before ++ terms)) rest := by
  induction terms generalizing before with
  | nil => simp
  | cons term terms ih => rw [List.map_cons, List.cons_append, read_term, ih, List.append_assoc, List.singleton_append]

theorem read_closed (group : Group) (closed : group.isClosed = true) :
    read none (group.words ++ rest) = group :: read none rest := by
  cases group with
  | compact term free => exact read_compact term free
  | verbatim word free => exact read_verbatim word free
  | operation operator terms value? =>
    cases value? with
    | none => cases closed
    | some value =>
      have split : words (.operation operator terms (some value)) ++ rest =
          operator.chars :: (terms.map Compact.word ++ value.chars :: rest) := by simp [words]
      rw [split, read_operator operator.valued, read_terms, read_value]
      rfl

theorem read_last (group : Group) : read none group.words = [group] := by
  cases closed : group.isClosed with
  | true =>
    have whole : read none (group.words ++ []) = group :: read none [] := group.read_closed closed
    rwa [List.append_nil, read] at whole
  | false =>
    cases group with
    | compact => cases closed
    | verbatim => cases closed
    | operation operator terms value? =>
      cases value? with
      | some value => cases closed
      | none =>
        rw [words, List.cons_append, read_operator operator.valued]
        exact read_terms operator [] terms

theorem read_append {groups : List Group} (closed : ∀ group ∈ groups, group.isClosed = true) :
    read none (groups.flatMap words ++ rest) = groups ++ read none rest := by
  induction groups with
  | nil => rfl
  | cons group groups ih =>
    have later := ih fun other member => closed other (List.mem_cons_of_mem _ member)
    rw [List.flatMap_cons, List.append_assoc, group.read_closed (closed group List.mem_cons_self), later,
      List.cons_append]

end Group

/-- There is no other way to group the words than to read them from left to right. -/
theorem Grouping.eq_read {words : List (List Char)} {groups : List Group} (grouping : Grouping words groups) :
    groups = Group.read none words := by
  obtain ⟨rfl, closed⟩ := grouping
  rcases List.eq_nil_or_concat groups with rfl | ⟨front, last, rfl⟩
  · rfl
  · rw [List.concat_eq_append, List.dropLast_concat] at closed
    rw [List.concat_eq_append, List.flatMap_append, List.flatMap_singleton, Group.read_append closed, Group.read_last]

/-! The pieces of the text -/

theorem compact_or_plain (word : List Char) : (∃ term : Compact, term.word = word) ∨ ∃ plain : Plain, plain.chars = word := by
  cases read : Compact.ofWord? word with
  | some term => exact .inl ⟨term, Compact.word_of_ofWord? read⟩
  | none => exact .inr ⟨⟨word, Compact.ofWord?_eq_none_iff.mp read⟩, rfl⟩

section

variable {rest : List (List Char)} {awaiting : Bool}

theorem pieces_operator {word : List Char} (valued : isValueOperator word = true) :
    pieces false (word :: rest) = .verbatim word :: pieces true rest := by
  simp [pieces, valued]

theorem starts_no_operation {word : List Char} (free : awaiting = true ∨ isValueOperator word = false) :
    (!awaiting && isValueOperator word) = false := by
  rcases free with rfl | free
  · rfl
  · simp [free]

theorem pieces_compact (term : Compact) (free : awaiting = true ∨ isValueOperator term.word = false) :
    pieces awaiting (term.word :: rest) = term.piece :: pieces awaiting rest := by
  rw [pieces, starts_no_operation free, term.splitTerm?_word]
  rfl

theorem pieces_plain (word : Plain) (free : awaiting = true ∨ isValueOperator word.chars = false) :
    pieces awaiting (word.chars :: rest) =
      (if awaiting then .operand word.chars else .verbatim word.chars) :: pieces false rest := by
  rw [pieces, starts_no_operation free, word.splitTerm?_chars]
  rfl

end

theorem pieces_read (words : List (List Char)) : (Group.read none words).flatMap Group.pieces = pieces false words ∧
    ∀ operator terms, (Group.read (some (operator, terms)) words).flatMap Group.pieces =
      .verbatim operator.chars :: terms.map Compact.piece ++ pieces true words := by
  induction words with
  | nil => simp [Group.read, Group.pieces, pieces]
  | cons word rest ih =>
    obtain ⟨alone, within⟩ := ih
    constructor
    · cases valued : isValueOperator word with
      | true =>
        rw [Group.read_operator valued, within, pieces_operator valued]
        rfl
      | false =>
        rcases compact_or_plain word with ⟨term, rfl⟩ | ⟨plain, rfl⟩
        · rw [Group.read_compact term valued, List.flatMap_cons, alone, pieces_compact term (.inr valued)]
          rfl
        · rw [Group.read_verbatim plain valued, List.flatMap_cons, alone, pieces_plain plain (.inr valued)]
          rfl
    · intro operator terms
      rcases compact_or_plain word with ⟨term, rfl⟩ | ⟨plain, rfl⟩
      · rw [Group.read_term, within, pieces_compact term (.inl rfl)]
        simp
      · rw [Group.read_value, List.flatMap_cons, alone, pieces_plain plain (.inl rfl)]
        simp [Group.pieces]

theorem mem_dropLast_cons {group first : Group} {later : List Group} (member : group ∈ (first :: later).dropLast) :
    group = first ∨ group ∈ later.dropLast := by
  cases later with
  | nil => cases member
  | cons next later =>
    rw [List.dropLast_cons_cons] at member
    exact List.mem_cons.mp member

theorem closed_read (waiting : Option (Operator × List Compact)) (words : List (List Char)) :
    ∀ group ∈ (Group.read waiting words).dropLast, group.isClosed = true := by
  induction words generalizing waiting with
  | nil => cases waiting <;> simp [Group.read]
  | cons word rest ih =>
    have cons (first : Group) (closed : first.isClosed = true) :
        ∀ group ∈ (first :: Group.read none rest).dropLast, group.isClosed = true := by
      intro group member
      rcases mem_dropLast_cons member with rfl | member
      · exact closed
      · exact ih none group member
    cases waiting with
    | none =>
      cases valued : isValueOperator word with
      | true =>
        rw [Group.read_operator valued]
        exact ih _
      | false =>
        rcases compact_or_plain word with ⟨term, rfl⟩ | ⟨plain, rfl⟩
        · rw [Group.read_compact term valued]
          exact cons _ rfl
        · rw [Group.read_verbatim plain valued]
          exact cons _ rfl
    | some state =>
      obtain ⟨operator, terms⟩ := state
      rcases compact_or_plain word with ⟨term, rfl⟩ | ⟨plain, rfl⟩
      · rw [Group.read_term]
        exact ih _
      · rw [Group.read_value]
        exact cons _ rfl

theorem grouping_read (words : List (List Char)) : Grouping words (Group.read none words) where
  words := by
    have each := congrArg (List.map Piece.word) (pieces_read words).1
    rw [word_pieces, List.map_flatMap] at each
    rw [← List.flatMap_congr fun group _ => group.word_pieces]
    exact each
  closed := closed_read none words

theorem pieces_append {words : List (List Char)} {groups : List Group} (grouping : Grouping words groups)
    (closed : ∀ group ∈ groups, group.isClosed = true) (later : List (List Char)) :
    pieces false (words ++ later) = groups.flatMap Group.pieces ++ pieces false later := by
  rw [← (pieces_read (words ++ later)).1, ← grouping.words, Group.read_append closed, List.flatMap_append,
    (pieces_read later).1]

def ofGroups (groups : List Group) : Filter := ⟨String.ofList (render (groups.flatMap Group.pieces))⟩

/-- The words behind `where`, in whatever case that is written, fall into groups in exactly one way. The text has one
    piece for each word, in the order of the words, and it is the place of the word in its group that tells which one.
    If no operation waits for its value, further words add the text that they have on their own. -/
theorem parse_by_groups {first : String} (start : Text.isWord "where" first.toList = true) (words : List String) :
    (∃! groups, Grouping (words.map String.toList) groups) ∧
    ∀ groups, Grouping (words.map String.toList) groups →
      (groups.flatMap Group.pieces).map Piece.word = words.map String.toList ∧
      parse (first :: words) = .ok (ofGroups groups) ∧
      ((∀ group ∈ groups, group.isClosed = true) → ∀ second third later,
        Text.isWord "where" second.toList = true → Text.isWord "where" third.toList = true →
          ∃ rest, parse (second :: later) = .ok rest ∧
            parse (third :: (words ++ later)) = .ok ⟨(ofGroups groups).text ++ rest.text⟩) := by
  constructor
  · exact ⟨_, grouping_read _, fun others grouping => grouping.eq_read⟩
  · intro groups grouping
    have read : groups.flatMap Group.pieces = pieces false (words.map String.toList) := by
      rw [grouping.eq_read, (pieces_read _).1]
    refine ⟨?_, ?_, fun closed second third later start' start'' => ?_⟩
    · rw [read, word_pieces]
    · rw [parse_of_where start, ofGroups, read]
    · refine ⟨_, parse_of_where start' later, ?_⟩
      rw [parse_of_where start'', List.map_append, pieces_append grouping closed, ofGroups, render, List.flatMap_append,
        String.ofList_append]
      rfl

/-- Operators in the place of a value and between an operator and its value, and an operator at the end. -/
theorem parse_by_groups_of_operators :
    let words := ["value", "LIKE", "a=b", "!=", "like", "id=1=2"]
    ∃ groups, Grouping (words.map String.toList) groups ∧ groups.length = 3 ∧
      (∀ others, Grouping (words.map String.toList) others → others = groups) ∧
      parse ("Where" :: words) = .ok ⟨" value LIKE a = 'b' ! = '' 'like' id = '1=2'"⟩ ∧
      parse ("where" :: (words ++ ["title", "="])) = .ok ⟨" value LIKE a = 'b' ! = '' 'like' id = '1=2' title ="⟩ := by
  intro words
  let groups : List Group := [.verbatim ⟨"value".toList, .inl (by decide)⟩ (by decide),
    .operation ⟨"LIKE".toList, by decide⟩
      [⟨"a".toList, "b".toList, by decide, by decide⟩, ⟨"!".toList, [], by decide, by decide⟩]
      (some ⟨"like".toList, .inl (by decide)⟩),
    .compact ⟨"id".toList, "1=2".toList, by decide, by decide⟩ (by decide)]
  have closed : ∀ group ∈ groups, group.isClosed = true := by simp [groups, Group.isClosed]
  have grouping : Grouping (words.map String.toList) groups :=
    ⟨by decide, fun group member => closed group (List.dropLast_subset _ member)⟩
  have start : Text.isWord "where" "Where".toList = true := by decide
  obtain ⟨⟨only, -, unique⟩, each⟩ := parse_by_groups start words
  obtain ⟨-, parsed, further⟩ := each groups grouping
  obtain ⟨rest, parsed', appended⟩ := further closed "where" "where" ["title", "="] (by decide) (by decide)
  obtain rfl : rest = ⟨" title ="⟩ := Except.ok.inj (parsed'.symm.trans (by rfl))
  refine ⟨groups, grouping, rfl, fun others other => ?_, parsed.trans ?_, appended.trans ?_⟩
  · exact (unique others other).trans (unique groups grouping).symm
  · rfl
  · rfl

/-- An equals sign behind the first character does not split a word that starts with one: the word stays as it is,
    and is no term of an empty column. -/
theorem word_with_leading_sign_stays_whole :
    '=' ∈ "=a=b".toList.tail ∧ isValueOperator "=a=b".toList = false ∧
      parse ["where", "=a=b"] = .ok ⟨" =a=b"⟩ ∧
      ∀ column value, "=a=b".toList = column ++ '=' :: value → '=' ∉ column →
        parse ["where", "=a=b"] ≠ .ok ⟨String.ofList (render [.term column value])⟩ := by
  have parsed : parse ["where", "=a=b"] = .ok ⟨" =a=b"⟩ := by rfl
  refine ⟨by decide, by decide, parsed, fun column value split apart same => ?_⟩
  have chars : "=a=b".toList = ['=', 'a', '=', 'b'] := by decide
  rw [chars] at split
  cases column with
  | nil =>
    cases split
    have text := congrArg Filter.text (Except.ok.inj (parsed.symm.trans same))
    exact absurd text (by decide)
  | cons c column =>
    obtain ⟨rfl, -⟩ := List.cons.inj split
    exact apart List.mem_cons_self

end Footprint.Filter
