import TypeCatalog.Toml.Basic
import TypeCatalog.Format.Moment

/-!
# Numbers, booleans, dates and times of TOML

A value that is neither a string nor a list nor a table is one word. `Scalar.read?` tells what a
word stands for.
-/

set_option autoImplicit false

namespace TypeCatalog.Toml.Scalar

/-- The characters of a word. -/
def isWordChar (c : Char) : Bool :=
  Ascii.isLetter c || Ascii.isDigit c || ['+', '-', '_', '.', ':'].contains c

/-! ## Numbers -/

/-- Digits in which single underscores may stand between two digits, without these. -/
def digits? (isDigit : Char → Bool) : List Char → Option (List Char)
  | [] => none
  | [c] => if isDigit c then some [c] else none
  | c :: '_' :: cs => if isDigit c then (digits? isDigit cs).map (c :: ·) else none
  | c :: cs => if isDigit c then (digits? isDigit cs).map (c :: ·) else none

/-- The sign of a number, and the rest. -/
def splitSign : List Char → Bool × List Char
  | '-' :: cs => (true, cs)
  | '+' :: cs => (false, cs)
  | cs => (false, cs)

/-- Decimal digits without needless zeros. -/
def whole? (cs : List Char) : Option (List Char) :=
  (digits? Ascii.isDigit cs).filter fun ds => ds.head? != some '0' || ds.length == 1

/-- An integer of 64 bits. -/
def integer? (word : List Char) : Option Int :=
  match word with
  | '0' :: 'x' :: cs => (digits? Ascii.isHexDigit cs).bind fun ds => int64? (Ascii.valueOf 16 ds)
  | '0' :: 'o' :: cs =>
    (digits? (fun c => decide ('0' ≤ c ∧ c ≤ '7')) cs).bind fun ds => int64? (Ascii.valueOf 8 ds)
  | '0' :: 'b' :: cs =>
    (digits? (fun c => c == '0' || c == '1') cs).bind fun ds => int64? (Ascii.valueOf 2 ds)
  | _ =>
    let (negative, cs) := splitSign word
    (whole? cs).bind fun ds =>
      int64? (if negative then -(Ascii.valueOf 10 ds : Int) else Ascii.valueOf 10 ds)

/-- The exponent behind the letter `e`. -/
def exponent? (cs : List Char) : Option Int :=
  let (negative, ds) := splitSign cs
  (digits? Ascii.isDigit ds).map fun ds =>
    if negative then -(Ascii.valueOf 10 ds : Int) else Ascii.valueOf 10 ds

/-- A number with a fraction, an exponent, or both. One above the range is none, and one
below it is infinite. -/
def decimal? (word : List Char) : Option Real64 :=
  let (negative, cs) := splitSign word
  let (mantissa, tail) := cs.span fun c => c ≠ 'e' ∧ c ≠ 'E'
  let (front, back) := mantissa.span (· ≠ '.')
  let exponent := if tail.isEmpty then some 0 else exponent? tail.tail
  let fraction := if back.isEmpty then some [] else digits? Ascii.isDigit back.tail
  if tail.isEmpty && back.isEmpty then none
  else
    match whole? front, fraction, exponent with
    | some ds, some fs, some e =>
      match Real64.ofDecimal negative (Ascii.valueOf 10 (ds ++ fs)) (e - fs.length) with
      | .infinite false => none
      | x => some x
    | _, _, _ => none

/-- An infinity or the undefined value. -/
def special? (word : List Char) : Option Real64 :=
  let (negative, cs) := splitSign word
  if cs = "inf".toList then some (.infinite negative)
  else if cs = "nan".toList then some .undefined
  else none

/-! ## Dates and times -/

/-- A time of day in its normal form: the fraction of a second has at most nine digits and does not
end with a zero. -/
def time? (cs : List Char) : Option (List Char) :=
  match cs with
  | a :: b :: ':' :: c :: d :: ':' :: e :: f :: rest =>
    match Ascii.decimal? [a, b], Ascii.decimal? [c, d], Ascii.decimal? [e, f] with
    | some hour, some minute, some second =>
      if hour ≤ 23 ∧ minute ≤ 59 ∧ second ≤ 60 then
        let front := [a, b, ':', c, d, ':', e, f]
        match rest with
        | [] => some front
        | '.' :: ds =>
          if ds.isEmpty || !ds.all Ascii.isDigit then none
          else
            let kept := ((ds.take 9).reverse.dropWhile (· = '0')).reverse
            some (if kept.isEmpty then front else front ++ '.' :: kept)
        | _ => none
      else none
    | _, _, _ => none
  | _ => none

/-- The offset of a zone in its normal form. -/
def offset? (cs : List Char) : Option (List Char) :=
  if cs.length = 1 then (Moment.offset? cs).map fun _ => ['Z']
  else if cs.length = 6 && cs.tail.all (fun c => Ascii.isDigit c || c == ':') then
    (Moment.offset? cs).map fun n => (if n = 0 then '+' else cs.headD '+') :: cs.tail
  else none

/-- A time of day with an offset or without one. -/
def timeOffset? (cs : List Char) : Option (List Char) :=
  let (time, zone) := cs.span fun c => ¬ ['Z', 'z', '+', '-'].contains c
  (time? time).bind fun t => if zone.isEmpty then some t else (offset? zone).map (t ++ ·)

/-- Whether characters are a day of the calendar, all in digits. -/
def isDate (cs : List Char) : Bool :=
  Moment.isDate cs && cs.all fun c => Ascii.isDigit c || c == '-'

/-- A date, a time, or both, in normal form. -/
def moment? (word : List Char) : Option (List Char) :=
  let date := word.take 10
  if isDate date then
    match word.drop 10 with
    | [] => some date
    | c :: cs =>
      if c = 'T' ∨ c = 't' ∨ c = ' ' then (timeOffset? cs).map fun t => date ++ 'T' :: t else none
  else time? word

/-! ## Words -/

/-- What a word stands for. -/
def read? (word : List Char) : Option Toml :=
  if word = "true".toList then some (.boolean true)
  else if word = "false".toList then some (.boolean false)
  else
    match integer? word, decimal? word, special? word, moment? word with
    | some n, _, _, _ => some (.integer n)
    | _, some x, _, _ => some (.float x)
    | _, _, some x, _ => some (.float x)
    | _, _, _, some m => some (.moment (String.ofList m))
    | _, _, _, _ => none

/-- The first word of a text, and what follows it. A date and a time may stand on both sides of one
blank. -/
def word (cs : List Char) : List Char × List Char :=
  let (first, rest) := cs.span isWordChar
  match rest with
  | ' ' :: c :: more =>
    if isDate first && Ascii.isDigit c then
      let (second, rest) := (c :: more).span isWordChar
      (first ++ ' ' :: second, rest)
    else (first, rest)
  | _ => (first, rest)

end TypeCatalog.Toml.Scalar
