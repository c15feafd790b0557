import JavaLint.Number.Binary64
import JavaLint.Text.Digits
import JavaLint.Toml.Basic
/-!
# TOML numbers, dates and times

Each reader gives the value that a text starts with and what follows it.

## Main definitions

- `Toml.integer?`, `Toml.float?` — numbers
- `Toml.datetime?` — dates and times, in normal form
- `Toml.scalar?` — the first of these that fits
-/

namespace JavaLint.Toml

/-- The digits after the first one of a number; an underscore may stand
    between two of them. -/
def moreDigits (isDigit : Char → Bool) : List Char → List Char × List Char
  | '_' :: d :: rest =>
    if isDigit d then
      let (digits, after) := moreDigits isDigit rest
      (d :: digits, after)
    else ([], '_' :: d :: rest)
  | d :: rest =>
    if isDigit d then
      let (digits, after) := moreDigits isDigit rest
      (d :: digits, after)
    else ([], d :: rest)
  | [] => ([], [])

/-- A row of digits, where an underscore may stand between two of them. -/
def digits? (isDigit : Char → Bool) : List Char → Option (List Char × List Char)
  | d :: rest =>
    if isDigit d then
      let (digits, after) := moreDigits isDigit rest
      some (d :: digits, after)
    else none
  | [] => none

/-- An optional sign. -/
def sign : List Char → Bool × List Char
  | '-' :: rest => (true, rest)
  | '+' :: rest => (false, rest)
  | cs => (false, cs)

/-- Decimal digits without a needless leading zero. -/
def decimal? : List Char → Option (List Char × List Char)
  | '0' :: rest => some (['0'], rest)
  | cs => digits? Char.isDigit cs

/-- The integers that fit into 64 bits with a sign. -/
def inRange (n : Int) : Bool :=
  Int64.minValue.toInt ≤ n && n ≤ Int64.maxValue.toInt

/-- An integer with the given digits. -/
def based? (base : Nat) (isDigit : Char → Bool) (cs : List Char) : Option (Toml × List Char) := do
  let (digits, rest) ← digits? isDigit cs
  let n : Int := Text.digitsValue base digits
  if inRange n then some (.integer n, rest) else none

/-- An integer. -/
def integer? : List Char → Option (Toml × List Char)
  | '0' :: 'x' :: rest => based? 16 Text.isHexDigit rest
  | '0' :: 'o' :: rest => based? 8 (fun c => '0' ≤ c && c ≤ '7') rest
  | '0' :: 'b' :: rest => based? 2 (fun c => c == '0' || c == '1') rest
  | cs => do
    let (negative, cs) := sign cs
    let (digits, rest) ← decimal? cs
    let size : Int := Text.digitsValue 10 digits
    let n := if negative then -size else size
    if inRange n then some (.integer n, rest) else none

/-- An exponent with its mark. -/
def exponent? : List Char → Option (Int × List Char)
  | e :: rest =>
    if e = 'e' || e = 'E' then do
      let (negative, rest) := sign rest
      let (digits, rest) ← digits? Char.isDigit rest
      let size : Int := Text.digitsValue 10 digits
      return (if negative then -size else size, rest)
    else none
  | [] => none

/-- A number too large for the format is refused, unless it is negative. -/
def finite? (negative : Bool) (digits : List Char) (exponent : Int) : Option Toml :=
  let x := Binary64.ofDecimal negative (Text.digitsValue 10 digits) exponent
  if x.isInfinite && !negative then none else some (.float x)

/-- A number with a fraction, an exponent or both, or a special number. -/
def float? (cs : List Char) : Option (Toml × List Char) :=
  let (negative, cs) := sign cs
  match cs with
  | 'i' :: 'n' :: 'f' :: rest => some (.float (.infinity negative), rest)
  | 'n' :: 'a' :: 'n' :: rest => some (.float (.nan negative), rest)
  | _ => do
    let (whole, rest) ← decimal? cs
    match rest with
    | '.' :: rest =>
      let (fraction, rest) ← digits? Char.isDigit rest
      let (exponent, rest) := (exponent? rest).getD (0, rest)
      let value ← finite? negative (whole ++ fraction) (exponent - fraction.length)
      return (value, rest)
    | rest =>
      let (exponent, rest) ← exponent? rest
      let value ← finite? negative whole exponent
      return (value, rest)

/-- A number of exactly `count` digits from `lo` to `hi`. -/
def field? (count lo hi : Nat) (cs : List Char) : Option (Nat × List Char) :=
  let digits := cs.take count
  let n := Text.digitsValue 10 digits
  if digits.length == count && digits.all Char.isDigit && lo ≤ n && n ≤ hi then
    some (n, cs.drop count)
  else none

/-- The text after the character `c`. -/
def skip? (c : Char) : List Char → Option (List Char)
  | d :: rest => if d = c then some rest else none
  | [] => none

/-- Years in which February has 29 days. -/
def isLeapYear (year : Nat) : Bool :=
  year % 4 == 0 && (year % 100 != 0 || year % 400 == 0)

/-- The number of days of a month. -/
def daysIn (year month : Nat) : Nat :=
  if month == 2 then (if isLeapYear year then 29 else 28)
  else if month ∈ [4, 6, 9, 11] then 30
  else 31

/-- A number with leading zeros up to `width` digits. -/
def padded (width n : Nat) : String :=
  let digits := Nat.toDigits 10 n
  String.ofList (List.replicate (width - digits.length) '0' ++ digits)

/-- A date. -/
def date? (cs : List Char) : Option (String × List Char) := do
  let (year, cs) ← field? 4 0 9999 cs
  let cs ← skip? '-' cs
  let (month, cs) ← field? 2 1 12 cs
  let cs ← skip? '-' cs
  let (day, cs) ← field? 2 1 (daysIn year month) cs
  return (padded 4 year ++ "-" ++ padded 2 month ++ "-" ++ padded 2 day, cs)

/-- The part of a second after the point, to nine places and without zeros at the end. -/
def secondFraction (digits : List Char) : String :=
  match ((digits.take 9).reverse.dropWhile (· == '0')).reverse with
  | [] => ""
  | kept => String.ofList ('.' :: kept)

/-- A time of day. -/
def time? (cs : List Char) : Option (String × List Char) := do
  let (hour, cs) ← field? 2 0 23 cs
  let cs ← skip? ':' cs
  let (minute, cs) ← field? 2 0 59 cs
  let cs ← skip? ':' cs
  let (second, cs) ← field? 2 0 60 cs
  let text := padded 2 hour ++ ":" ++ padded 2 minute ++ ":" ++ padded 2 second
  match cs with
  | '.' :: d :: rest =>
    if d.isDigit then
      let digits := d :: rest.takeWhile Char.isDigit
      return (text ++ secondFraction digits, rest.dropWhile Char.isDigit)
    else return (text, cs)
  | _ => return (text, cs)

/-- The offset of a time from universal time. -/
def zone? : List Char → Option (String × List Char)
  | c :: rest =>
    if c = 'Z' || c = 'z' then some ("Z", rest)
    else if c = '+' || c = '-' then do
      let (hour, rest) ← field? 2 0 23 rest
      let rest ← skip? ':' rest
      let (minute, rest) ← field? 2 0 59 rest
      let mark := if c = '-' && 0 < hour + minute then "-" else "+"
      return (mark ++ padded 2 hour ++ ":" ++ padded 2 minute, rest)
    else none
  | [] => none

/-- A date, a time, or a date and a time with or without an offset. -/
def datetime? (cs : List Char) : Option (Toml × List Char) :=
  match date? cs with
  | some (date, rest) =>
    let timed := match rest with
      | c :: after => if c = 'T' || c = 't' || c = ' ' then time? after else none
      | [] => none
    match timed with
    | some (time, rest) =>
      let (zone, rest) := (zone? rest).getD ("", rest)
      some (.datetime (date ++ "T" ++ time ++ zone), rest)
    | none => some (.datetime date, rest)
  | none => (time? cs).map fun (time, rest) => (.datetime time, rest)

/-- A number, a date or a time. -/
def scalar? (cs : List Char) : Option (Toml × List Char) :=
  (datetime? cs).or ((float? cs).or (integer? cs))

end JavaLint.Toml
