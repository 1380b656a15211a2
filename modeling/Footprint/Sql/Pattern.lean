import Footprint.Text.Fold

namespace Footprint.Sql.Pattern

/-- The last two code points of the first plane are read as the replacement character. -/
def readAs (c : Char) : Char := if c = '\ufffe' ∨ c = '\uffff' then '\ufffd' else Text.lowerAscii c

def same (p c : Char) : Bool := p == '_' || readAs p == readAs c

def anyFrom : List Bool → List Bool
  | [] => []
  | b :: rest =>
    let later := anyFrom rest
    (b || later.headD false) :: later

/-- Puts one character in front of a pattern. The list tells for every end of the text, the
    longest first, whether the pattern matches it. -/
def extend (chars : List Char) (p : Char) (matched : List Bool) : List Bool :=
  if p = '%' then anyFrom matched
  else List.zipWith (fun c later => same p c && later) chars (matched.drop 1) ++ [false]

def start (chars : List Char) : List Bool := List.replicate chars.length false ++ [true]

def fits (pattern chars : List Char) : Bool :=
  (pattern.foldr (extend chars) (start chars)).headD false

end Footprint.Sql.Pattern
