import Footprint.Command.Option
import Footprint.Entity.Kind

namespace Footprint

inductive Request
  /-- The value is missing when a second `--` stands in its place. -/
  | add (kind : Kind) (value parent : Option AnyText)
  | list (kind : Kind) (words : List AnyText)
  | scope (kind : Kind) (words : List AnyText)
  | noscope (kind : Kind) (words : List AnyText)
  | delete (kind : Kind) (words : List AnyText)
  deriving DecidableEq, Repr

namespace Command

structure Invocation where
  /-- Missing if the option for it is there without one. -/
  workspace : Option String
  dataDir : Option (Option String)
  request : Request
  deriving DecidableEq, Repr

inductive Reading
  | help
  | usage
  | run (invocation : Invocation)
  deriving DecidableEq, Repr

inductive Detail
  | help
  | usage
  | request (request : Request)

def addableKinds : List (String × Kind) :=
  [Kind.domain, .subdomain, .address, .url, .email].map fun kind => (kind.tag, kind)

def listedKinds : List (String × Kind) := Kind.all.map fun kind => (kind.plural, kind)

def scopableKinds : List (String × Kind) := listedKinds.filter fun (_, kind) => kind.scopable

def Item.isOption : Item → Bool
  | option .. => true
  | _ => false

def leadingWords (items : List (AnyText × Item)) : List AnyText :=
  ((items.takeWhile fun (_, item) => !item.isOption).filter fun (_, item) => item = .word).map
    Prod.fst

/-- Whether help is asked for; nothing if the word that asks for it has a text with it that does
    not fit. -/
def asksHelp (items : List (AnyText × Item)) : Option Bool :=
  match items.find? fun (_, item) => item.isOption with
  | some (_, .option flag tail) =>
    (Consumed.ofOption helpSpellings flag tail none).map Consumed.asksHelp
  | _ => some false

def addRequest (kind : Kind) : List AnyText → Option Request
  | [value] => some (.add kind (given? value) none)
  | [value, parent] => some (.add kind (given? value) (given? parent))
  | _ => none

def addDetail (items : List (AnyText × Item)) : Detail :=
  match leadingWords items, asksHelp items with
  | _, none => .usage
  | [], some true => .help
  | [], some false => .usage
  | word :: given, some help => match addableKinds.lookup word.shown with
    | none => .usage
    | some kind =>
      if help then .help
      else if items.any fun (_, item) => item = .unknown then .usage
      else ((addRequest kind given).map Detail.request).getD .usage

/-- Everything behind the kind belongs to the filter, options included; one separator next to
    the kind does not. -/
def filterWords : List (AnyText × Item) → Option (AnyText × List AnyText)
  | (_, .separator) :: (kind, .word) :: rest => some (kind, rest.map Prod.fst)
  | (kind, .word) :: (_, .separator) :: rest => some (kind, rest.map Prod.fst)
  | (kind, .word) :: rest => some (kind, rest.map Prod.fst)
  | _ => none

def selectDetail (kinds : List (String × Kind)) (make : Kind → List AnyText → Request)
    (items : List (AnyText × Item)) : Detail :=
  let front := items.takeWhile fun (_, item) => item != .word && item != .separator
  match asksHelp front with
  | some true => .help
  | none => .usage
  | some false =>
    match front, filterWords items with
    | [], some (word, words) => match kinds.lookup word.shown with
      | some kind => .request (make kind words)
      | none => .usage
    | _, _ => .usage

def detail (command : String) (words : List AnyText) : Detail :=
  match items helpSpellings words with
  | none => .usage
  | some items => match command with
    | "add" => addDetail items
    | "list" => selectDetail listedKinds .list items
    | "scope" => selectDetail scopableKinds .scope items
    | "noscope" => selectDetail scopableKinds .noscope items
    | "delete" => selectDetail listedKinds .delete items
    | _ => .usage

def lastValue (found : Settled) (flag : Flag) : Option (Option String) :=
  (found.reverse.find? fun (f, _) => f = flag).map Prod.snd

def nextWord? : List (AnyText × Item) → Option String
  | (word, .word) :: _ => some word.shown
  | _ => none

def readFrom (defaultWorkspace : String) (found : Settled) (sound : Bool) :
    List (AnyText × Item) → Reading
  | [] | (_, .separator) :: _ => .usage
  | (command, .word) :: rest =>
    match detail command.shown (rest.map Prod.fst) with
    | .help => .help
    | .usage => .usage
    | .request request =>
      if sound then
        let workspace := (lastValue found .workspace).getD (some defaultWorkspace)
        .run ⟨workspace, lastValue found .dataDir, request⟩
      else .usage
  | (_, .unknown) :: rest => readFrom defaultWorkspace found false rest
  | (_, .option flag tail) :: rest =>
    match Consumed.ofOption mainSpellings flag tail (nextWord? rest) with
    | none => .usage
    | some c =>
      if c.asksHelp then .help
      else readFrom defaultWorkspace (found ++ c.found) sound (rest.drop c.taken)
termination_by items => items.length
decreasing_by all_goals simp only [List.length_cons, List.length_drop]; omega

def read (defaultWorkspace : String) (words : List AnyText) : Reading :=
  match items mainSpellings words with
  | some items => readFrom defaultWorkspace [] true items
  | none => .usage

end Command
end Footprint
