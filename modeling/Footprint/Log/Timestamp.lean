import Footprint.Number.Word

namespace Footprint.Log

structure Date where
  year : Int
  month : Int
  day : Int
  deriving DecidableEq, Repr

/-- Counts days in eras of 400 years that start in March, so that a leap day ends its year. -/
def Date.ofDays (days : Int) : Date :=
  let shifted := days + 719468
  let era := shifted.fdiv 146097
  let dayOfEra := shifted.fmod 146097
  let yearOfEra := (dayOfEra - dayOfEra / 1460 + dayOfEra / 36524 - dayOfEra / 146096) / 365
  let dayOfYear := dayOfEra - (365 * yearOfEra + yearOfEra / 4 - yearOfEra / 100)
  let monthFromMarch := (5 * dayOfYear + 2) / 153
  let month := if monthFromMarch < 10 then monthFromMarch + 3 else monthFromMarch - 9
  { year := yearOfEra + era * 400 + (if month ≤ 2 then 1 else 0)
    month
    day := dayOfYear - (153 * monthFromMarch + 2) / 5 + 1 }

def twoDigits (n : Int) : String := if n < 10 then s!"0{n}" else s!"{n}"

inductive TimeFault
  | oversized
  /-- The years since 1900 have more than 32 bits. -/
  | noDate
  | longYear
  deriving DecidableEq, Repr

namespace TimeFault

def message? : TimeFault → Option String
  | oversized => some "timestamp out of range for platform time_t"
  | noDate => none
  | longYear => some "signed integer is greater than maximum"

end TimeFault

def yearBound : Int := 0x80000000

def timestamp (seconds : Int) : Except TimeFault String :=
  let date := Date.ofDays (seconds.fdiv 86400)
  let time := seconds.fmod 86400
  if !Word.holds seconds then .error .oversized
  else if date.year - 1900 < -yearBound || yearBound ≤ date.year - 1900 then .error .noDate
  else if yearBound ≤ date.year then .error .longYear
  else
    let day := s!"{date.year}-{twoDigits date.month}-{twoDigits date.day}"
    let clock := s!"{twoDigits (time / 3600)}:{twoDigits (time / 60 % 60)}:{twoDigits (time % 60)}"
    .ok s!"{day}T{clock}+0000"

end Footprint.Log
