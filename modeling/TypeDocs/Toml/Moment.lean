import TypeDocs.Decimal.Numeral

/-!
# Dates and times

The dates and times of TOML: a date, a time, or both with perhaps an offset. What is meant has to
exist, but for seconds, which go up to 60.
-/

namespace TypeDocs.Toml

/-- A number of a fixed width at the front, if it is in bounds. -/
def fixed? (width least most : Nat) (cs : List Char) : Option (Nat × List Char) :=
  let ds := cs.take width
  let n := Decimal.natOfDigits ds
  if ds.length == width && ds.all Char.isDigit && least ≤ n && n ≤ most then
    some (n, cs.drop width)
  else none

def after? (c : Char) : List Char → Option (List Char)
  | d :: cs => if c == d then some cs else none
  | [] => none

def isLeapYear (year : Nat) : Bool := year % 4 == 0 && (year % 100 != 0 || year % 400 == 0)

def daysIn (year month : Nat) : Nat :=
  if month == 2 then (if isLeapYear year then 29 else 28)
  else if [4, 6, 9, 11].contains month then 30
  else 31

/-- The characters after a date. -/
def afterDate? (cs : List Char) : Option (List Char) := do
  let (year, cs) ← fixed? 4 0 9999 cs
  let (month, cs) ← fixed? 2 1 12 (← after? '-' cs)
  return (← fixed? 2 1 (daysIn year month) (← after? '-' cs)).2

/-- The characters after a time of day. -/
def afterTime? (cs : List Char) : Option (List Char) := do
  let (_, cs) ← fixed? 2 0 23 cs
  let (_, cs) ← fixed? 2 0 59 (← after? ':' cs)
  let (_, cs) ← fixed? 2 0 60 (← after? ':' cs)
  match cs with
  | '.' :: c :: cs => if c.isDigit then some (cs.dropWhile Char.isDigit) else none
  | '.' :: _ => none
  | cs => some cs

/-- The characters after an offset. -/
def afterOffset? (cs : List Char) : Option (List Char) := do
  match cs with
  | c :: cs =>
    if c == 'Z' || c == 'z' then some cs
    else if c == '+' || c == '-' then do
      let (_, cs) ← fixed? 2 0 23 cs
      return (← fixed? 2 0 59 (← after? ':' cs)).2
    else none
  | [] => none

/-- The characters after a date with perhaps a time, or a time. -/
def afterMoment? (cs : List Char) : Option (List Char) :=
  match afterDate? cs with
  | none => afterTime? cs
  | some rest =>
    let time := match rest with
      | c :: cs => if ['T', 't', ' '].contains c then afterTime? cs else none
      | [] => none
    match time with
    | none => some rest
    | some rest => (afterOffset? rest).orElse fun _ => some rest

end TypeDocs.Toml
