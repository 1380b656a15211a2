import Footprint.Sql.Value
import Footprint.Text.Hex

namespace Footprint.Sql

inductive Keyword
  | or
  | and
  | not
  | is
  | null
  | like
  | between
  | in
  | isNull
  | notNull
  | returning
  /-- A word that cannot be a name, though the grammar of conditions has no part for it. -/
  | reserved
  deriving DecidableEq, Repr

def keywords : List (String × Keyword) :=
  [("or", .or), ("and", .and), ("not", .not), ("is", .is), ("null", .null), ("like", .like),
    ("between", .between), ("in", .in), ("isnull", .isNull), ("notnull", .notNull),
    ("returning", .returning)]

def reservedWords : List String :=
  ["add", "all", "alter", "as", "autoincrement", "case", "cast", "check", "collate", "commit",
    "constraint", "create", "default", "deferrable", "delete", "distinct", "drop", "else",
    "escape", "except", "exists", "foreign", "from", "group", "having", "index", "insert",
    "intersect", "into", "join", "limit", "nothing", "on", "order", "primary", "raise",
    "references", "select", "set", "table", "then", "to", "transaction", "union",
    "unique", "update", "using", "values", "when", "where"]

inductive Sign
  | leftParen
  | rightParen
  | comma
  | dot
  | minus
  | eq
  | ne
  | lt
  | le
  | gt
  | ge
  deriving DecidableEq, Repr

structure NamePart where
  text : List Char
  mayBeText : Bool
  mayBeTruth : Bool
  deriving DecidableEq, Repr

inductive Token
  | keyword (k : Keyword)
  | sign (s : Sign)
  /-- A name; an unknown one in double quotes is a text. -/
  | name (part : NamePart)
  | path (parts : List NamePart)
  | text (text : List Char)
  | integer (n : Nat)
  | literal (value : Value)
  | parameter (number : Option Nat)
  deriving DecidableEq, Repr

namespace Token

def isSpace (c : Char) : Bool := c == ' ' || c == '\t' || c == '\n' || c == '\x0c' || c == '\r'

def byteOrderMark : Char := '\ufeff'

def isNameStart (c : Char) : Bool := c.isAlpha || c == '_' || 0x80 ≤ c.toNat

def isNamePart (c : Char) : Bool := isNameStart c || c.isDigit || c == '$'

def takeQuoted (quote : Char) : List Char → Option (List Char × List Char)
  | [] => none
  | [c] => if c = quote then some ([], []) else none
  | c :: d :: rest =>
    if c = quote then
      if d = quote then (takeQuoted quote rest).map fun (chars, rest) => (quote :: chars, rest)
      else some ([], d :: rest)
    else (takeQuoted quote (d :: rest)).map fun (chars, rest) => (c :: chars, rest)

def afterComment : List Char → List Char
  | '*' :: '/' :: rest => rest
  | _ :: rest => afterComment rest
  | [] => []

def unquoted (word : List Char) : Token :=
  let folded := String.ofList (word.map Text.lowerAscii)
  match keywords.lookup folded with
  | some k => keyword k
  | none =>
    if reservedWords.contains folded then keyword .reserved else name ⟨word, false, true⟩

/-- A numeral must not run into a name. -/
def takeNumber (chars : List Char) : Option (Token × List Char) :=
  match Numeral.readPrefix chars with
  | some reading =>
    if (reading.rest.head?.map isNamePart).getD false then none
    else some (if reading.integral then integer reading.digits
      else literal (.real reading.approximate), reading.rest)
  | none => none

def ofHex? (digits : List Char) : Option Token :=
  let n := Text.natOfHex digits
  if n < Word.bound.toNat then some (integer n)
  else if n < 2 * Word.bound.toNat then some (literal (.int (n - 2 * Word.bound)))
  else none

def takeBlob (chars : List Char) : Option (Token × List Char) :=
  match chars.span Text.isHexDigit with
  | (digits, '\'' :: rest) =>
    if digits.length % 2 = 0 then some (literal (.blob (Text.bytesOfHex digits)), rest) else none
  | _ => none

def afterParameter (named : Bool) : List Char → Option (List Char)
  | ':' :: ':' :: rest => afterParameter named rest
  | c :: rest =>
    if isNamePart c then afterParameter true rest
    else if !named then none
    else if c = '(' then
      match rest.span fun c => !Value.isBlank c && c != ')' with
      | (_, ')' :: rest) => some rest
      | _ => none
    else some (c :: rest)
  | [] => if named then some [] else none

def takeNamedParameter (chars : List Char) : Option (Option Token × List Char) :=
  (afterParameter false chars).map fun rest => (some (parameter none), rest)

def takeNumberedParameter (chars : List Char) : Option (Option Token × List Char) :=
  match chars.span Char.isDigit with
  | ([], rest) => some (some (parameter none), rest)
  | (digits, rest) =>
    let n := Numeral.digitsValue digits
    if 1 ≤ n ∧ n ≤ 250000 then some (some (parameter (some n)), rest) else none

def take : List Char → Option (Option Token × List Char)
  | [] => none
  | '-' :: '-' :: rest => some (none, rest.dropWhile (· != '\n'))
  | '/' :: '*' :: c :: rest => some (none, afterComment (c :: rest))
  | '<' :: '=' :: rest => some (some (sign .le), rest)
  | '<' :: '>' :: rest => some (some (sign .ne), rest)
  | '<' :: '<' :: _ | '>' :: '>' :: _ | '-' :: '>' :: _ => none
  | '<' :: rest => some (some (sign .lt), rest)
  | '>' :: '=' :: rest => some (some (sign .ge), rest)
  | '>' :: rest => some (some (sign .gt), rest)
  | '=' :: '=' :: rest => some (some (sign .eq), rest)
  | '=' :: rest => some (some (sign .eq), rest)
  | '!' :: '=' :: rest => some (some (sign .ne), rest)
  | '(' :: rest => some (some (sign .leftParen), rest)
  | ')' :: rest => some (some (sign .rightParen), rest)
  | ',' :: rest => some (some (sign .comma), rest)
  | '-' :: rest => some (some (sign .minus), rest)
  | '?' :: rest => takeNumberedParameter rest
  | '#' :: c :: rest => if c.isDigit then none else takeNamedParameter (c :: rest)
  | ':' :: rest | '@' :: rest | '$' :: rest => takeNamedParameter rest
  | '\'' :: rest => (takeQuoted '\'' rest).map fun (s, rest) => (some (text s), rest)
  | '"' :: rest => (takeQuoted '"' rest).map fun (s, rest) => (some (name ⟨s, true, false⟩), rest)
  | '`' :: rest => (takeQuoted '`' rest).map fun (s, rest) => (some (name ⟨s, false, false⟩), rest)
  | '[' :: rest =>
    match rest.span (· != ']') with
    | (s, _ :: rest) => some (some (name ⟨s, false, false⟩), rest)
    | (_, []) => none
  | 'x' :: '\'' :: rest | 'X' :: '\'' :: rest => (takeBlob rest).map fun (t, rest) => (some t, rest)
  | '0' :: 'x' :: c :: rest | '0' :: 'X' :: c :: rest =>
    match (c :: rest).span Text.isHexDigit with
    | ([], _) => none
    | (digits, rest) => (ofHex? digits).map fun t => (some t, rest)
  | '.' :: c :: rest =>
    if c.isDigit then (takeNumber ('.' :: c :: rest)).map fun (t, rest) => (some t, rest)
    else some (some (sign .dot), c :: rest)
  | ['.'] => some (some (sign .dot), [])
  | c :: rest =>
    if isSpace c then some (none, rest.dropWhile Value.isBlank)
    else if c = byteOrderMark then some (none, rest)
    else if c.isDigit then (takeNumber (c :: rest)).map fun (t, rest) => (some t, rest)
    else if isNameStart c then
      let (word, rest) := rest.span isNamePart
      some (some (unquoted (c :: word)), rest)
    else none

def namePart? : Token → Option NamePart
  | name part => some part
  | text s => some ⟨s, false, false⟩
  | keyword .like => some ⟨"like".toList, false, false⟩
  | _ => none

def join : List Token → List Token
  | a :: .sign .dot :: b :: .sign .dot :: c :: rest =>
    match namePart? a, namePart? b, namePart? c with
    | some a, some b, some c => .path [a, b, c] :: join rest
    | _, _, _ => a :: join (.sign .dot :: b :: .sign .dot :: c :: rest)
  | a :: .sign .dot :: b :: rest =>
    match namePart? a, namePart? b with
    | some a, some b => .path [a, b] :: join rest
    | _, _ => a :: join (.sign .dot :: b :: rest)
  | token :: rest => token :: join rest
  | [] => []

/-- The tokens up to a semicolon, and the text behind it. At most as many tokens and spaces are
    read as the first argument allows. -/
def lexFrom : Nat → List Char → Option (List Token × List Char)
  | _, [] => some ([], [])
  | _, ';' :: rest => some ([], rest)
  | 0, _ :: _ => none
  | n + 1, chars =>
    match take chars with
    | none => none
    | some (none, rest) => lexFrom n rest
    | some (some token, rest) => (lexFrom n rest).map fun (tokens, rest) => (token :: tokens, rest)

def lex (chars : List Char) : Option (List Token × List Char) :=
  (lexFrom chars.length chars).map fun (tokens, rest) => (join tokens, rest)

def isVoid : List Char → Bool
  | [] => true
  | '-' :: '-' :: rest => voidLine rest
  | '/' :: '*' :: rest => voidComment rest
  | c :: rest => isSpace c && isVoid rest
where
  voidLine : List Char → Bool
    | [] => true
    | c :: rest => if c = '\n' then isVoid rest else voidLine rest
  voidComment : List Char → Bool
    | '*' :: '/' :: rest => isVoid rest
    | _ :: rest => voidComment rest
    | [] => true

end Token
end Footprint.Sql
