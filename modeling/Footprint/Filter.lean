import Footprint.Text.Fold
import Footprint.Text.Ragged

namespace Footprint

structure Filter where
  script : AnyText
  deriving DecidableEq, Repr

namespace Filter

def text (f : Filter) : String := f.script.shown

@[simp] theorem text_plain (text : String) : (mk (.plain text)).text = text := rfl

def doubleQuotes : List Char → List Char
  | [] => []
  | '\'' :: rest => '\'' :: '\'' :: doubleQuotes rest
  | c :: rest => c :: doubleQuotes rest

def literal (value : List Char) : List Char := '\'' :: (doubleQuotes value ++ ['\''])

def escape (value : String) : String := String.ofList (literal value.toList)

inductive Piece
  | verbatim (text : List Char)
  | term (column value : List Char)
  | operand (text : List Char)
  deriving DecidableEq, Repr

def Piece.render : Piece → List Char
  | verbatim text => ' ' :: text
  | term column value => ' ' :: (column ++ [' ', '=', ' '] ++ literal value)
  | operand text => ' ' :: literal text

def isValueOperator (word : List Char) : Bool :=
  word == ['='] || word == ['!', '='] || Text.isWord "like" word

/-- A word with an equals sign behind its first character is split at the first one. -/
def splitTerm? (word : List Char) : Option (List Char × List Char) :=
  match word.span (· != '=') with
  | (column@(_ :: _), _ :: value) => some (column, value)
  | _ => none

/-- Reads the words behind `where`; `awaiting` tells whether a value operator is still without
    its value. -/
def pieces (awaiting : Bool) : List (List Char) → List Piece
  | [] => []
  | word :: rest =>
    if !awaiting && isValueOperator word then .verbatim word :: pieces true rest
    else match splitTerm? word with
      | some (column, value) => .term column value :: pieces awaiting rest
      | none => (if awaiting then .operand word else .verbatim word) :: pieces false rest

def render (pieces : List Piece) : List Char := pieces.flatMap Piece.render

inductive Refusal
  | missing
  | noWhere
  deriving DecidableEq, Repr

def Refusal.message : Refusal → String
  | missing => "Filter condition is required"
  | noWhere => "Filter must begin with WHERE"

def parse : List String → Except Refusal Filter
  | [] => .error .missing
  | first :: words =>
    if Text.isWord "where" first.toList then
      .ok ⟨String.ofList (render (pieces false (words.map String.toList)))⟩
    else .error .noWhere

def everything : Filter := ⟨"1"⟩

def parseOptional : List String → Except Refusal Filter
  | [] => .ok everything
  | words => parse words

def restore : List Char → List Ragged.Point → List Ragged.Point
  | [], _ => []
  | c :: text, points =>
    if c = Ragged.replacement then match points with
      | point :: points => point :: restore text points
      | [] => .inl c :: restore text []
    else .inl c :: restore text points

/-- Surrogates in a word are read like any character that is no sign of the language. -/
def ofWords (parse : List String → Except Refusal Filter) (words : List AnyText) :
    Except Refusal Filter := do
  let f ← parse (words.map AnyText.shown)
  let replaced := (words.flatMap AnyText.points).filter fun point =>
    Ragged.standIn point == Ragged.replacement
  return ⟨.ofPoints (restore f.text.toList replaced)⟩

def display (f : Filter) : String := s!"Filter({f.script.quoted})"

end Filter
end Footprint
