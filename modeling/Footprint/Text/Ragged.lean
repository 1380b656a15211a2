import Footprint.Text.Quoted

namespace Footprint

/-- One of the code points from `d800` to `dfff`. They stand for a character only in pairs, and then in another
    encoding. -/
structure Surrogate where
  offset : Fin 2048
  deriving DecidableEq, Repr

def Surrogate.code (s : Surrogate) : Nat := 0xd800 + s.offset

structure Ragged where
  front : String
  first : Surrogate
  behind : List (Char ⊕ Surrogate)
  deriving DecidableEq, Repr

namespace Ragged

abbrev Point := Char ⊕ Surrogate

def points (r : Ragged) : List Point := r.front.toList.map .inl ++ .inr r.first :: r.behind

def replacement : Char := '\ufffd'

def standIn : Point → Char
  | .inl c => c
  | .inr _ => replacement

def shown (r : Ragged) : String := String.ofList (r.points.map standIn)

/-- With one replacement character for each of the three bytes that a surrogate would have. -/
def lossy (r : Ragged) : String :=
  String.ofList (r.points.flatMap fun p => p.elim ([·]) fun _ => List.replicate 3 replacement)

def quoted (r : Ragged) : String :=
  let quote := Text.quoteFor r.shown.toList
  let escape := fun (p : Point) =>
    p.elim (Text.escapeChar quote) fun s => '\\' :: 'u' :: Text.hexDigits 4 s.code
  String.ofList (quote :: (r.points.flatMap escape ++ [quote]))

def complaint (r : Ragged) : String :=
  let start := r.front.length
  let more := (r.behind.takeWhile Sum.isRight).length
  let place :=
    if more = 0 then s!"character '\\u" ++ String.ofList (Text.hexDigits 4 r.first.code) ++ s!"' in position {start}"
    else s!"characters in position {start}-{start + more}"
  "'utf-8' codec can't encode " ++ place ++ ": surrogates not allowed"

end Ragged

inductive AnyText
  | plain (text : String)
  | ragged (text : Ragged)
  deriving DecidableEq, Repr

namespace AnyText

instance : Coe String AnyText := ⟨plain⟩

def points : AnyText → List Ragged.Point
  | plain s => s.toList.map .inl
  | ragged r => r.points

def shown : AnyText → String
  | plain s => s
  | ragged r => r.shown

def quoted : AnyText → String
  | plain s => Text.quoted s
  | ragged r => r.quoted

def ofPoints (points : List Ragged.Point) : AnyText :=
  let (front, rest) := points.span Sum.isLeft
  let front := String.ofList (front.filterMap Sum.getLeft?)
  match rest with
  | .inr first :: behind => ragged ⟨front, first, behind⟩
  | _ => plain front

end AnyText

inductive Misfit
  | oversizedInteger
  | unencodable (text : Ragged)
  deriving DecidableEq, Repr

def Misfit.message : Misfit → String
  | oversizedInteger => "Python int too large to convert to SQLite INTEGER"
  | unencodable text => text.complaint

end Footprint
