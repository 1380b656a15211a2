import Footprint.Number.Numeral
import Footprint.Number.Word
import Footprint.Text.Blank
import Footprint.Text.Fold
import Footprint.Validation.Checked

namespace Footprint.Rule

def decodeText? (bytes : List UInt8) : Option String := String.fromUTF8? ⟨bytes.toArray⟩

def encodeText (text : String) : List UInt8 := text.toUTF8.toList

def text : Rule String
  | .text s => .ok s
  | .bytes b => match decodeText? b with
    | some s => .ok s
    | none => .error .notUnicode
  | .ragged _ => .error .notUnicode
  | _ => .error .notText

def anyText : Rule AnyText
  | .ragged r => .ok (.ragged r)
  | data => .plain <$> text data

def nonemptyText : Rule String := fun data => do
  let s ← text data
  if s.isEmpty then .error .tooShort else .ok s

def bytes : Rule (List UInt8)
  | .bytes b => .ok b
  | .text s => .ok (encodeText s)
  | .ragged _ => .error .notUnicode
  | _ => .error .notBytes

def choice {α : Type} (choices : List (String × α)) : Rule α := fun data =>
  let none := Except.error (.notOneOf (choices.map Prod.fst))
  match data with
  | .text s => match choices.lookup s with
    | some value => .ok value
    | _ => none
  | .ragged _ => .error .notUnicode
  | _ => none

def truthWords : List (String × Bool) :=
  ["0", "off", "f", "false", "n", "no"].map (·, false) ++
    ["1", "on", "t", "true", "y", "yes"].map (·, true)

def truthOfText (s : String) : Except Problem Bool :=
  match truthWords.lookup (String.ofList (s.toList.map Text.lowerAscii)) with
  | some b => .ok b
  | none => .error .unclearBoolean

def truthOfInt (n : Int) : Except Problem Bool :=
  if n == 0 then .ok false else if n == 1 then .ok true else .error .unclearBoolean

def flag : Rule Bool
  | .bool b => .ok b
  | .int n => if Word.holds n then truthOfInt n else .error .notBoolean
  | .real x => match x.toInt? with
    | some n => if -Word.bound < n ∧ n < Word.bound then truthOfInt n else .error .notBoolean
    | none => .error .notBoolean
  | .text s => truthOfText s
  | .bytes b => match decodeText? b with
    | some s => truthOfText s
    | none => .error .unclearBoolean
  | .ragged _ => .error .notUnicode
  | _ => .error .notBoolean

/-- Underscores are dropped unless one leads, ends or follows another. -/
def withoutUnderscores? (text : List Char) : Option (List Char) :=
  if text.head? == some '_' || text.getLast? == some '_' then none
  else if (text.zip (text.drop 1)).any fun (a, b) => a == '_' && b == '_' then none
  else some (text.filter (· != '_'))

def longestNumeral : Nat := 4300

/-- An optional minus sign and digits. Zeros in front do not count for the length. -/
def plainInteger (text : List Char) : Except Problem Int :=
  let (negative, unsigned) := match text with
    | '-' :: rest => (true, rest)
    | _ => (false, text)
  let (digits, rest) := (unsigned.dropWhile (· == '0')).span Char.isDigit
  if digits.length > longestNumeral then .error .oversizedInteger
  else if unsigned.isEmpty || !rest.isEmpty then .error .unclearInteger
  else
    let n : Int := Numeral.digitsValue digits
    .ok (if negative then -n else n)

def dropPlus : List Char → List Char
  | '+' :: '-' :: rest => '+' :: '-' :: rest
  | '+' :: rest => rest
  | text => text

def startsInteger (c : Char) : Bool := c == '-' || ('1' ≤ c && c ≤ '9')

/-- Drops zeros in front, with underscores among them. The last one stays if nothing but a
    fraction follows. -/
def dropZeros? : List Char → Option (List Char)
  | '0' :: rest => behind '0' rest
  | c :: rest => if startsInteger c then some (c :: rest) else none
  | [] => none
where
  behind (last : Char) : List Char → Option (List Char)
    | [] => some [last]
    | c :: rest =>
      if c == '0' || c == '_' then behind c rest
      else if startsInteger c then some (c :: rest)
      else if c == '.' then some (last :: c :: rest)
      else none

def dropFraction (text : List Char) : List Char :=
  match text.span (· != '.') with
  | (whole, _ :: zeros) => if !zeros.isEmpty && zeros.all (· == '0') then whole else text
  | _ => text

def plainForm? (text : List Char) : Option (List Char) :=
  (dropZeros? (dropPlus (Text.trim text))).bind fun text =>
    withoutUnderscores? (dropFraction text)

def integerOfText (s : String) : Except Problem Int :=
  match plainInteger s.toList with
  | .error .unclearInteger => match plainForm? s.toList with
    | some text => plainInteger text
    | none => .error .unclearInteger
  | result => result

def integer : Rule Int
  | .int n => .ok n
  | .bool b => .ok (if b then 1 else 0)
  | .real x =>
    if !x.isFinite then .error .notFinite
    else match x.toInt? with
      | some n => if -Word.bound < n ∧ n < Word.bound then .ok n else .error .oversizedInteger
      | none => .error .fractional
  | .text s => integerOfText s
  | .bytes b => match decodeText? b with
    | some s => integerOfText s
    | none => .error .unclearInteger
  | .ragged _ => .error .notUnicode
  | _ => .error .notInteger

def wordOfNumber? (unsigned : List Char) (negative : Bool) : Option Binary64 :=
  if Text.isWord "nan" unsigned then some .nan
  else if Text.isWord "inf" unsigned || Text.isWord "infinity" unsigned then
    some (.infinity negative)
  else none

def plainNumber? (text : List Char) : Option Binary64 :=
  match Numeral.readPrefix text with
  | some reading => if reading.rest.isEmpty then some reading.toBinary64 else none
  | none =>
    let (negative, unsigned) := Numeral.takeSign text
    wordOfNumber? unsigned negative

/-- Only a text without blanks around it may hold underscores. -/
def numberOfText (s : String) : Except Problem Binary64 :=
  let text := s.toList
  match (plainNumber? (Text.trim text)).or ((withoutUnderscores? text).bind plainNumber?) with
  | some x => .ok x
  | none => .error .unclearNumber

def number : Rule Binary64
  | .real x => .ok x
  | .int n =>
    let x := Binary64.ofInt n
    if x.isFinite then .ok x else .error .notNumber
  | .bool b => .ok (Binary64.ofInt (if b then 1 else 0))
  | .text s => numberOfText s
  | .bytes b => match decodeText? b with
    | some s => numberOfText s
    | none => .error .unclearNumber
  | .ragged _ => .error .notUnicode
  | _ => .error .notNumber

end Footprint.Rule
