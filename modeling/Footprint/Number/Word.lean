namespace Footprint.Word

def bound : Int := 0x8000000000000000

def holds (n : Int) : Bool := -bound ≤ n && n < bound

end Footprint.Word
