import SavedFilter.Date.Basic
import SavedFilter.Number.Digits
import SavedFilter.Text.Blank

/-! # Dates as text

Dates are written as year, month and day with hyphens. They are read in that order with hyphens,
or as day, month and year with slashes, or from the front of a timestamp. Blanks may stand before
each number; a stored date allows them before each hyphen and at the end as well. -/
set_option autoImplicit false
namespace SavedFilter.Date

/-- Reads one to `width` digits from the front of a text, as many as there are. -/
def digits (width : Nat) (cs : List Char) : Option (Nat × List Char) :=
  let ds := (cs.take width).takeWhile Char.isDigit
  if ds.isEmpty then none else some (valueOf ds, cs.drop ds.length)

/-- One or two digits after blanks. -/
def twoDigits (cs : List Char) : Option (Nat × List Char) := digits 2 (Text.trimStart cs)

/-- A year after blanks: up to four digits, or any number of digits after a sign. -/
def yearNumber (cs : List Char) : Option (Int × List Char) :=
  match Text.trimStart cs with
  | '-' :: rest => (digits rest.length rest).map fun (n, left) => (-(n : Int), left)
  | '+' :: rest => (digits rest.length rest).map fun (n, left) => ((n : Int), left)
  | rest => (digits 4 rest).map fun (n, left) => ((n : Int), left)

def mark (c : Char) : List Char → Option (List Char)
  | c' :: rest => if c' = c then some rest else none
  | [] => none

def frontYearMonthDay (cs : List Char) : Option (Date × List Char) := do
  let (y, cs) ← yearNumber cs
  let cs ← mark '-' cs
  let (m, cs) ← twoDigits cs
  let cs ← mark '-' cs
  let (d, cs) ← twoDigits cs
  let date ← of? y m d
  return (date, cs)

def whole (r : Option (Date × List Char)) : Option Date :=
  match r with
  | some (d, []) => some d
  | _ => none

def ofYearMonthDay? (cs : List Char) : Option Date := whole (frontYearMonthDay cs)

def ofDayMonthYear? (cs : List Char) : Option Date := do
  let (d, cs) ← twoDigits cs
  let cs ← mark '/' cs
  let (m, cs) ← twoDigits cs
  let cs ← mark '/' cs
  let (y, cs) ← yearNumber cs
  if cs.isEmpty then of? y m d else none

/-- Reads a stored date: `YYYY-MM-DD` with blanks allowed around every part. -/
def ofStored? (cs : List Char) : Option Date := do
  let (y, cs) ← yearNumber cs
  let cs ← mark '-' (Text.trimStart cs)
  let (m, cs) ← twoDigits cs
  let cs ← mark '-' (Text.trimStart cs)
  let (d, cs) ← twoDigits cs
  if (Text.trimStart cs).isEmpty then of? y m d else none

/-- Nothing, or a point with at least one digit after it. -/
def isFraction : List Char → Bool
  | [] => true
  | '.' :: ds => !ds.isEmpty && ds.all Char.isDigit
  | _ => false

/-- Reads the date of a timestamp `YYYY-MM-DDThh:mm:ss`, with an optional fraction of a second.
A second of 60 is accepted. -/
def ofTimestamp? (cs : List Char) : Option Date := do
  let (date, cs) ← frontYearMonthDay cs
  let cs ← mark 'T' cs
  let (h, cs) ← twoDigits cs
  let cs ← mark ':' cs
  let (m, cs) ← twoDigits cs
  let cs ← mark ':' cs
  let (s, cs) ← twoDigits cs
  if h < 24 ∧ m < 60 ∧ s ≤ 60 ∧ isFraction cs then return date else none

/-- The first ten bytes of a text, when they end between two characters. -/
def firstTenBytes? : Nat → List Char → Option (List Char)
  | 0, _ => some []
  | _, [] => none
  | n + 1, c :: rest =>
    if c.utf8Size ≤ n + 1 then (firstTenBytes? (n + 1 - c.utf8Size) rest).map (c :: ·) else none

/-- Reads the date of a record: a date or a timestamp with hyphens, anything that begins with
a date in ten bytes, or a date with slashes. Blanks at both ends are dropped. -/
def ofRecord? (cs : List Char) : Option Date :=
  let cs := Text.trim cs
  (ofYearMonthDay? cs).or <| (ofTimestamp? cs).or <|
    ((firstTenBytes? 10 cs).bind ofYearMonthDay?).or <| ofDayMonthYear? cs

def padded (width n : Nat) : List Char :=
  let ds := digitsOf n
  List.replicate (width - ds.length) '0' ++ ds

/-- The text `YYYY-MM-DD`; a year outside 0 to 9999 has a sign. -/
def toText (d : Date) : List Char :=
  let sign := if d.year < 0 then ['-'] else if 9999 < d.year then ['+'] else []
  sign ++ padded 4 d.year.natAbs ++ '-' :: padded 2 d.month ++ '-' :: padded 2 d.day

instance : ToString Date := ⟨fun d => String.ofList d.toText⟩

end SavedFilter.Date
