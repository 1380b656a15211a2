import Footprint.Text.Digit
import Footprint.Text.Ragged

namespace Footprint.Command

inductive Flag
  | help
  | workspace
  | dataDir
  | verbose
  deriving DecidableEq, Repr

def Flag.takesValue : Flag → Bool
  | workspace | dataDir => true
  | help | verbose => false

abbrev Spellings := List (List Char × Flag)

def helpSpellings : Spellings := [("-h".toList, .help), ("--help".toList, .help)]

def mainSpellings : Spellings :=
  helpSpellings ++ [("-w".toList, .workspace), ("--workspace".toList, .workspace),
    ("--data-dir".toList, .dataDir), ("-v".toList, .verbose), ("--verbose".toList, .verbose)]

inductive Tail
  | nothing
  | value (text : List Char)
  /-- The text behind the letter of a short option, an equals sign between them apart: its value,
      or the letters of more options. -/
  | letters (text : List Char)
  deriving DecidableEq, Repr

inductive Item
  | word
  | separator
  | option (flag : Flag) (tail : Tail)
  | unknown
  deriving DecidableEq, Repr

/-- A number such as `-1` or `-.5` is a word. A line feed may end it. -/
def isNegativeNumber (text : List Char) : Bool :=
  match if text.getLast? = some '\n' then text.dropLast else text with
  | '-' :: rest =>
    let (whole, part) := rest.span Text.isDecimalDigit
    match part with
    | [] => !whole.isEmpty
    | '.' :: digits => !digits.isEmpty && digits.all Text.isDecimalDigit
    | _ => false
  | _ => false

def splitEquals (text : List Char) : List Char × Tail :=
  match text.span (· != '=') with
  | (name, _ :: value) => (name, .value value)
  | (name, []) => (name, .nothing)

def isShort : List Char → Bool
  | ['-', _] => true
  | _ => false

def spelled? (spellings : Spellings) (text : List Char) : Option Item :=
  match spellings.lookup text, splitEquals text with
  | some flag, _ => some (.option flag .nothing)
  | none, (name, .value value) =>
    let tail := if isShort name then Tail.letters value else .value value
    (spellings.lookup name).map fun flag => .option flag tail
  | none, _ => none

/-- The options that a word may mean: a long one may be cut short, a short one may have a text
    behind its letter. -/
def candidates (spellings : Spellings) : List Char → List Item
  | '-' :: '-' :: rest =>
    let (name, tail) := splitEquals ('-' :: '-' :: rest)
    (spellings.filter fun (spelling, _) => name.isPrefixOf spelling).map fun (_, flag) =>
      .option flag tail
  | '-' :: letter :: rest =>
    (spellings.filter fun (spelling, _) => spelling == ['-', letter]).map fun (_, flag) =>
      .option flag (.letters rest)
  | _ => []

/-- Nothing for a word that may mean several options. -/
def classify (spellings : Spellings) (word : AnyText) : Option Item :=
  match word.shown.toList with
  | '-' :: second :: rest =>
    let text := '-' :: second :: rest
    match spelled? spellings text with
    | some item => some item
    | none => match candidates spellings text with
      | _ :: _ :: _ => none
      | [item] => some item
      | [] => some (if isNegativeNumber text || text.contains ' ' then .word else .unknown)
  | _ => some .word

def items (spellings : Spellings) : List AnyText → Option (List (AnyText × Item))
  | [] => some []
  | .plain "--" :: rest => some ((.plain "--", .separator) :: rest.map fun word => (word, .word))
  | word :: rest =>
    match classify spellings word, items spellings rest with
    | some item, some more => some ((word, item) :: more)
    | _, _ => none

def given? (word : AnyText) : Option AnyText := if word = "--" then none else some word

abbrev Settled := List (Flag × Option String)

structure Consumed where
  found : Settled
  taken : Nat := 0
  deriving DecidableEq, Repr

namespace Consumed

def alone (found : Settled) (flag : Flag) (next : Option String) : Option Consumed :=
  if flag.takesValue then
    next.map fun value => { found := found ++ [(flag, some value)], taken := 1 }
  else some { found := found ++ [(flag, none)] }

def withValue (found : Settled) (flag : Flag) (value : List Char) : Option Consumed :=
  if flag.takesValue then
    some { found := found ++ [(flag, (given? (String.ofList value)).map AnyText.shown)] }
  else none

def cluster (spellings : Spellings) (next : Option String) (found : Settled) (flag : Flag) :
    List Char → Option Consumed
  | [] => withValue found flag []
  | letter :: rest =>
    if flag.takesValue then withValue found flag (letter :: rest)
    else
      let found := found ++ [(flag, none)]
      match spellings.lookup ['-', letter], rest with
      | none, _ => none
      | some flag, [] => alone found flag next
      | some flag, rest => cluster spellings next found flag rest

def ofOption (spellings : Spellings) (flag : Flag) (tail : Tail) (next : Option String) :
    Option Consumed :=
  match tail with
  | .nothing => alone [] flag next
  | .value text => withValue [] flag text
  | .letters text => cluster spellings next [] flag text

def asksHelp (c : Consumed) : Bool := c.found.any fun (flag, _) => flag = .help

end Consumed

end Footprint.Command
