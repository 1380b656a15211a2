namespace Footprint.Text

def lowerAscii (c : Char) : Char :=
  if 'A' ≤ c ∧ c ≤ 'Z' then Char.ofNat (c.toNat + 32) else c

/-- The characters whose lower-case form is a single ASCII letter are the ASCII letters and the
    Kelvin sign, so folding these alone decides equality with an ASCII word. -/
def fold (c : Char) : Char := if c = '\u212a' then 'k' else lowerAscii c

def isWord (word : String) (text : List Char) : Bool := text.map fold == word.toList

end Footprint.Text
