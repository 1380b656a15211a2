namespace Footprint.Text

def splitOn (separator : Char) : List Char → List (List Char)
  | [] => [[]]
  | c :: rest =>
    if c = separator then [] :: splitOn separator rest
    else match splitOn separator rest with
      | part :: parts => (c :: part) :: parts
      | [] => [[c]]

def lines (text : String) : List String := (splitOn '\n' text.toList).map String.ofList

def isLineEnd (c : Char) : Bool :=
  let n := c.toNat
  (0x0a ≤ n && n ≤ 0x0d) || (0x1c ≤ n && n ≤ 0x1e) || n == 0x85 || n == 0x2028 || n == 0x2029

/-- The characters up to each line end; `begun` are those of the first line, last one first. A
    return and a line feed behind it are one end. -/
def cutLines (begun : List Char) : List Char → List (List Char)
  | [] => if begun.isEmpty then [] else [begun.reverse]
  | '\r' :: '\n' :: rest => begun.reverse :: cutLines [] rest
  | c :: rest =>
    if isLineEnd c then begun.reverse :: cutLines [] rest else cutLines (c :: begun) rest

def printedLines (text : String) : List String := (cutLines [] text.toList).map String.ofList

end Footprint.Text
