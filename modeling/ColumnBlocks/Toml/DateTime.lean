import ColumnBlocks.Text.Digit

/-
Dates and times.  A date and a time may stand alone or together, and only both together take an
offset.  The seconds of a time may be left out.
-/
namespace ColumnBlocks
namespace Toml
namespace DateTime

/-- A number of exactly `n` digits. -/
def digits? (n : Nat) (t : Text) : Option (Nat × Text) := do
  let ds := t.take n
  guard (ds.length == n)
  return (← Text.decimal? ds, t.drop n)

def isLeapYear (year : Nat) : Bool := year % 4 == 0 && (year % 100 != 0 || year % 400 == 0)

def daysIn (year month : Nat) : Nat :=
  if month = 2 then (if isLeapYear year then 29 else 28)
  else if [4, 6, 9, 11].contains month then 30 else 31

def afterDate? (t : Text) : Option Text := do
  let (year, t) ← digits? 4 t
  let (month, t) ← digits? 2 (← Text.after? ['-'] t)
  let (day, t) ← digits? 2 (← Text.after? ['-'] t)
  guard (1 ≤ month && month ≤ 12 && 1 ≤ day && day ≤ daysIn year month)
  return t

/-- What follows the fraction of a second, when there is one. -/
def afterFraction? : Text → Option Text
  | '.' :: t => do
    let ds := t.takeWhile Char.isDigit
    guard !ds.isEmpty
    return t.drop ds.length
  | t => some t

/-- What follows the seconds of a time, when there are any. -/
def afterSeconds? : Text → Option Text
  | ':' :: t => do
    let (second, t) ← digits? 2 t
    guard (second ≤ 60)
    afterFraction? t
  | t => some t

def afterMinutes? (t : Text) : Option Text := do
  let (hour, t) ← digits? 2 t
  let (minute, t) ← digits? 2 (← Text.after? [':'] t)
  guard (hour ≤ 23 && minute ≤ 59)
  return t

def afterTime? (t : Text) : Option Text := do afterSeconds? (← afterMinutes? t)

/-- What follows an offset, when there is one. -/
def afterOffset? : Text → Option Text
  | c :: t =>
    if c == 'Z' || c == 'z' then some t
    else if c == '+' || c == '-' then afterMinutes? t
    else some (c :: t)
  | [] => some []

/-- What follows a date with or without a time. -/
def afterDateTime? (t : Text) : Option Text := do
  match ← afterDate? t with
  | c :: t =>
    if c == 'T' || c == 't' || c == ' ' then afterOffset? (← afterTime? t) else some (c :: t)
  | [] => some []

end DateTime

/-- Whether a text is a date, a time, or both. -/
def isDateTime (t : Text) : Bool :=
  DateTime.afterDateTime? t == some [] || DateTime.afterTime? t == some []

end Toml
end ColumnBlocks
