import TypedSelect.Number.Decimal
import TypedSelect.Number.Power
import TypedSelect.Text.Blank
import TypedSelect.Time.Instant

/-! Reading an instant from a date, a time of day and an offset from universal time. Blanks
may stand before every number and every mark inside date and time, before the offset and at
both ends. Numbers may be shorter than they are written. -/
namespace TypedSelect.Time

open TypedSelect.Number TypedSelect.Text

/-- A number of at least one and at most so many digits, and what follows it. -/
def readDigits (width : Nat) (text : List Char) : Option (Nat × List Char) :=
  let run := (text.takeWhile Char.isDigit).take width
  if run.isEmpty then none else some (digitsValue 0 run, text.drop run.length)

def readNumber (width : Nat) (text : List Char) : Option (Nat × List Char) :=
  readDigits width (skipBlanks text)

def readMark (mark : Char) (text : List Char) : Option (List Char) :=
  match skipBlanks text with
  | c :: rest => if c = mark then some rest else none
  | [] => none

/-- A year of at most four digits, or of any length after a sign. -/
def readYear (text : List Char) : Option (Int × List Char) :=
  match skipBlanks text with
  | '-' :: rest => (readDigits rest.length rest).map fun (year, rest) => (-(year : Int), rest)
  | '+' :: rest => (readDigits rest.length rest).map fun (year, rest) => ((year : Int), rest)
  | rest => (readDigits 4 rest).map fun (year, rest) => ((year : Int), rest)

def readSeparator : List Char → Option (List Char)
  | 'T' :: rest => some rest
  | 't' :: rest => some rest
  | ' ' :: rest => some rest
  | _ => none

/-- The nanoseconds of a fraction, of which digits beyond the ninth are dropped. -/
def readFraction : List Char → Option (Nat × List Char)
  | '.' :: rest =>
    let (run, after) := splitDigits rest
    let kept := run.take 9
    if run.isEmpty then none
    else some (digitsValue 0 kept * tenPow (9 - kept.length), after)
  | rest => some (0, rest)

def readPair : List Char → Option (Nat × List Char)
  | a :: b :: rest => if a.isDigit && b.isDigit then some (digitsValue 0 [a, b], rest) else none
  | _ => none

/-- Hours and minutes, between which colons and blanks may stand, in seconds. -/
def readHoursMinutes (text : List Char) : Option (Int × List Char) := do
  let (hours, rest) ← readPair text
  let (minutes, rest) ← readPair (rest.dropWhile fun c => c == ':' || isBlank c)
  guard (minutes < 60)
  guard (hours < 24)
  some ((hours * 3600 + minutes * 60 : Nat), rest)

/-- An offset in seconds: none under its letter or its name, else signed hours and minutes. -/
def readOffset (text : List Char) : Option (Int × List Char) :=
  if (text.take 3).map Char.toLower = ['u', 't', 'c'] then some (0, text.drop 3)
  else match text with
    | 'Z' :: rest => some (0, rest)
    | 'z' :: rest => some (0, rest)
    | '+' :: rest => readHoursMinutes rest
    | sign :: rest =>
      if sign = '-' ∨ sign = '\u2212' then
        (readHoursMinutes rest).map fun (offset, rest) => (-offset, rest)
      else none
    | [] => none

/-- The instant of a local date and time at an offset. Second sixty is the leap second
after second fifty-nine. -/
def Instant.ofLocal? (d : Date) (hour minute second nano : Nat) (offset : Int) :
    Option Instant := do
  guard (d.isValid ∧ firstYear ≤ d.year ∧ d.year ≤ lastYear)
  guard (hour < 24 ∧ minute < 60 ∧ second ≤ 60)
  let leap := decide (second = 60)
  let clock : Nat := hour * 3600 + minute * 60 + (if leap then 59 else second)
  Instant.ofSecond? (d.toDayNumber * secondsPerDay + clock - offset)
    (if leap then nanosPerSecond + nano else nano)

def Instant.read (text : List Char) : Option Instant := do
  let (year, rest) ← readYear text
  let (month, rest) ← readNumber 2 (← readMark '-' rest)
  let (day, rest) ← readNumber 2 (← readMark '-' rest)
  let (hour, rest) ← readNumber 2 (← readSeparator rest)
  let (minute, rest) ← readNumber 2 (← readMark ':' rest)
  let (second, rest) ← readNumber 2 (← readMark ':' rest)
  let (nano, rest) ← readFraction rest
  let (offset, rest) ← readOffset (skipBlanks rest)
  guard (skipBlanks rest).isEmpty
  Instant.ofLocal? ⟨year, month, day⟩ hour minute second nano offset

end TypedSelect.Time
