import Footprint.Entity.Attribute
import Footprint.Number.Approximate
import Footprint.Sql.Pattern

namespace Footprint.Sql

inductive Value
  | null
  | int (n : Int)
  | real (x : Binary64)
  | text (s : String)
  | blob (b : List UInt8)
  deriving DecidableEq, Repr

namespace Value

def ofCell : Cell → Value
  | .null => null
  | .bool b => int (if b then 1 else 0)
  | .int n => int n
  | .real x => real x
  | .text s => text s
  | .ragged r => text r.shown
  | .bytes b => blob b

def ofTruth : Option Bool → Value
  | none => null
  | some b => int (if b then 1 else 0)

def isBlank (c : Char) : Bool := c == ' ' || (9 ≤ c.toNat && c.toNat ≤ 13)

def ofReading (r : Numeral.Reading) : Value :=
  if r.integral && Word.holds r.toInt then int r.toInt else real r.approximate

def ofDigits (negative : Bool) (digits : Nat) : Value :=
  ofReading
    { negative, digits, places := 0, exponent := 0, integral := true, rest := [] }

def readPrefix (text : List Char) : Option Numeral.Reading :=
  Numeral.readPrefix (text.dropWhile isBlank)

def wholeNumber? (s : String) : Option Value :=
  match readPrefix s.toList with
  | some reading => if reading.rest.all isBlank then some (ofReading reading) else none
  | none => none

def blobText (b : List UInt8) : List Char := b.map fun x => Char.ofNat x.toNat

def leadingNumber (text : List Char) : Value :=
  match readPrefix text with
  | some reading => ofReading reading
  | none => int 0

def isNonzero (text : List Char) : Bool :=
  match readPrefix text with
  | some reading => !reading.approximate.isZero
  | none => false

/-- A value holds as a condition if it is, or starts with, a number other than zero. -/
def truth? : Value → Option Bool
  | null => none
  | int n => some (n != 0)
  | real x => some !x.isZero
  | text s => some (isNonzero s.toList)
  | blob b => some (isNonzero (blobText b))

def numberText? : Value → Option (List Char)
  | int n => some (toString n).toList
  | real x => some x.brief
  | _ => none

def rank : Value → Nat
  | null => 0
  | int _ | real _ => 1
  | text _ => 2
  | blob _ => 3

def compareBytes : List UInt8 → List UInt8 → Ordering
  | [], [] => .eq
  | [], _ :: _ => .lt
  | _ :: _, [] => .gt
  | a :: as, b :: bs => (compare a b).then (compareBytes as bs)

def compareText (a b : String) : Ordering := if a = b then .eq else if a < b then .lt else .gt

/-- Numbers come before texts and texts before blobs; a null has no place in the order. -/
def compare? : Value → Value → Option Ordering
  | null, _ | _, null => none
  | int m, int n => some (compare m n)
  | int m, real y => some ((Binary64.compareInt? m y).getD .lt)
  | real x, int n => some (((Binary64.compareInt? n x).map Ordering.swap).getD .gt)
  | real x, real y => some ((x.compare? y).getD .eq)
  | text a, text b => some (compareText a b)
  | blob a, blob b => some (compareBytes a b)
  | a, b => some (compare a.rank b.rank)

def negate : Value → Value
  | null => null
  | int n => if Word.holds (-n) then int (-n) else real (Binary64.ofInt (-n))
  | real x => real x.negate
  | text s => negateNumber (leadingNumber s.toList)
  | blob b => negateNumber (leadingNumber (blobText b))
where
  negateNumber : Value → Value
    | int n => if Word.holds (-n) then int (-n) else real (Binary64.ofInt (-n))
    | real x => real x.negate
    | other => other

/-- What a pattern sees of a value: numbers as text, and a text up to its first zero character. -/
def likeText? : Value → Option (List Char)
  | text s => some (s.toList.takeWhile (· != '\x00'))
  | other => other.numberText?

def longestPattern : Nat := 50000

def isLong : Value → Bool
  | text s => longestPattern < s.utf8ByteSize
  | blob b => longestPattern < b.length
  | _ => false

def like (value pattern : Value) : Value :=
  match value, pattern with
  | blob _, _ | _, blob _ => int 0
  | value, pattern =>
    match value.likeText?, pattern.likeText? with
    | some chars, some pattern => ofTruth (some (Pattern.fits pattern chars))
    | _, _ => null

end Value

inductive Affinity
  | none
  | blob
  | text
  | numeric
  deriving DecidableEq, Repr

namespace Affinity

/-- The affinity under which two sides are compared, a side that is no column having none. -/
def ofSides : Affinity → Affinity → Affinity
  | none, right => right
  | left, none => left
  | numeric, _ | _, numeric => numeric
  | _, _ => blob

def toNumber : Value → Value
  | .text s => (Value.wholeNumber? s).getD (.text s)
  | other => other

def toText (v : Value) : Value := (v.numberText?.map fun s => .text (String.ofList s)).getD v

def isText : Value → Bool
  | .text _ => true
  | _ => false

def compare? (affinity : Affinity) (a b : Value) : Option Ordering :=
  match affinity with
  | numeric => (toNumber a).compare? (toNumber b)
  | text =>
    if isText a || isText b then (toText a).compare? (toText b) else a.compare? b
  | none | blob => a.compare? b

end Affinity
end Footprint.Sql
