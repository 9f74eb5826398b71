import TypeCatalog.Text.Ascii

/-!
# Dates, times and durations

The dates and times of RFC 3339 and its durations. A date and a time are two digits here and two
there; a digit is any of the sixteen characters from `0` on, and those behind `9` count ten to
fifteen.
-/

set_option autoImplicit false

namespace TypeCatalog.Moment

/-! ## Digits -/

/-- Whether a character counts as a digit: one of the sixteen from `0` on. -/
def isDigit (c : Char) : Bool := decide (c.toNat / 16 = 3)

/-- The number that digits stand for; none when one of the characters is no digit. -/
def number? (cs : List Char) : Option Nat :=
  if cs.all isDigit then some (cs.foldl (fun n c => 10 * n + c.toNat % 16) 0) else none

/-! ## Dates and times -/

def isLeapYear (y : Nat) : Bool := (y % 4 == 0 && y % 100 != 0) || y % 400 == 0

def daysOf (year month : Nat) : Nat :=
  if month = 2 then if isLeapYear year then 29 else 28
  else if [4, 6, 9, 11].contains month then 30 else 31

/-- Whether a text is a day of the calendar, written `YYYY-MM-DD`. -/
def isDate : List Char → Bool
  | [a, b, c, d, '-', e, f, '-', g, h] =>
    match number? [a, b, c, d], number? [e, f], number? [g, h] with
    | some year, some month, some day =>
      decide (1 ≤ month ∧ month ≤ 12 ∧ 1 ≤ day ∧ day ≤ daysOf year month)
    | _, _, _ => false
  | _ => false

/-- The minutes by which the time of a zone is ahead of the universal time. -/
def offset? : List Char → Option Int
  | ['Z'] => some 0
  | ['z'] => some 0
  | [sign, a, b, ':', c, d] =>
    match number? [a, b], number? [c, d] with
    | some hours, some minutes =>
      if hours ≤ 23 ∧ minutes ≤ 59 then
        if sign = '+' then some (60 * hours + minutes)
        else if sign = '-' then some (-(60 * hours + minutes : Int))
        else none
      else none
    | _, _ => none
  | _ => none

/-- What follows the seconds: a fraction, if there is one, has a digit, and these are plain. -/
def afterFraction? : List Char → Option (List Char)
  | '.' :: cs => if cs.head?.any Ascii.isDigit then some (cs.dropWhile Ascii.isDigit) else none
  | cs => some cs

/-- Whether a text is a time of day with its zone. The second 60 is one only at the end of a day of
the universal time. -/
def isTime : List Char → Bool
  | a :: b :: ':' :: c :: d :: ':' :: e :: f :: rest =>
    match number? [a, b], number? [c, d], number? [e, f], (afterFraction? rest).bind offset? with
    | some hour, some minute, some second, some offset =>
      let universal : Int := (60 * hour + minute : Int) - offset
      decide (hour ≤ 23 ∧ minute ≤ 59 ∧ second ≤ 60)
        && (second != 60 || decide (universal.emod 1440 = 1439))
    | _, _, _, _ => false
  | _ => false

/-- Whether a text is a date and a time with a `T` between them. -/
def isDateTime (cs : List Char) : Bool :=
  let (date, time) := cs.span fun c => c ≠ 'T' ∧ c ≠ 't'
  !time.isEmpty && isDate date && isTime time.tail

/-! ## Durations -/

/-- The letters of the units, each behind a number, in the order of some units. Any may be absent.
-/
def units? : Nat → List Char → List Char → Option (List Char)
  | 0, _, _ => none
  | _, _, [] => some []
  | rounds + 1, units, cs =>
    let (digits, rest) := cs.span Ascii.isDigit
    match rest with
    | [] => none
    | unit :: rest =>
      let later := units.dropWhile (· ≠ unit)
      if digits.isEmpty || later.isEmpty then none
      else (units? rounds later.tail rest).map (unit :: ·)

/-- Whether a text is a duration: a `P`, then years, months and days or else weeks, and behind a `T`
hours, minutes and seconds. -/
def isDuration (cs : List Char) : Bool :=
  match cs with
  | 'P' :: cs =>
    let (days, time) := cs.span (· ≠ 'T')
    match units? (days.length + 1) ['Y', 'M', 'W', 'D'] days,
      units? (time.length + 1) ['H', 'M', 'S'] time.tail with
    | some dayUnits, some timeUnits =>
      !(dayUnits.isEmpty && timeUnits.isEmpty) && (time.isEmpty || !timeUnits.isEmpty)
        && (!dayUnits.contains 'W' || (dayUnits.length == 1 && time.isEmpty))
    | _, _ => false
  | _ => false

end TypeCatalog.Moment
