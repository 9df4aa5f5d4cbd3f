import Synthesis.Toml.Lexical

/-!
# Numbers and dates of TOML

Digits may be grouped by single underscores between them. A whole number without a base has no
leading zero and lies between -2⁶³ and 2⁶³ - 1, as does one with a base. Of fractions and dates
only the form is checked: dates have to exist, and a fraction must not be too large for a
double-precision number.
-/
namespace Synthesis.Toml

/-! ## 1. Digits -/

/-- Digits of a base with single underscores between them, and the text after them. `digit?` says
which characters are digits and what they are worth. -/
def digitGroup (digit? : Char → Option Nat) : List Char → List Nat × List Char
  | '_' :: c :: rest =>
      match digit? c with
      | some digit =>
          let (digits, rest) := digitGroup digit? rest
          (digit :: digits, rest)
      | none => ([], '_' :: c :: rest)
  | c :: rest =>
      match digit? c with
      | some digit =>
          let (digits, rest) := digitGroup digit? rest
          (digit :: digits, rest)
      | none => ([], c :: rest)
  | [] => ([], [])

def digits1 (digit? : Char → Option Nat) : List Char → Option (List Nat × List Char)
  | c :: rest => do
      let digit ← digit? c
      let (digits, rest) := digitGroup digit? rest
      return (digit :: digits, rest)
  | [] => none

def digitIn (base : Nat) (c : Char) : Option Nat :=
  match hexDigit? c with
  | some digit => if digit < base then some digit else none
  | none => none

def ofDigits (base : Nat) (digits : List Nat) : Nat :=
  digits.foldl (fun number digit => base * number + digit) 0

/-- Whether a number is negative, and the text after its sign. -/
def sign : List Char → Bool × List Char
  | '-' :: rest => (true, rest)
  | '+' :: rest => (false, rest)
  | text => (false, text)

def decimalDigits : Reads (List Nat)
  | '0' :: rest => some ([0], rest)
  | text => digits1 (digitIn 10) text

/-! ## 2. Whole numbers -/

/-- The number with a sign, if it has a place among the signed 64-bit numbers. -/
def bounded (negative : Bool) (magnitude : Nat) : Option Int :=
  let number : Int := if negative then -magnitude else magnitude
  if Int64.minValue.toInt ≤ number ∧ number ≤ Int64.maxValue.toInt then some number else none

/-- A whole number in a base after the prefix that names it. -/
def basedInteger (base : Nat) (text : List Char) : Option (Int × List Char) := do
  let (digits, rest) ← digits1 (digitIn base) text
  return (← bounded false (ofDigits base digits), rest)

def integer : Reads Int
  | '0' :: 'x' :: rest => basedInteger 16 rest
  | '0' :: 'o' :: rest => basedInteger 8 rest
  | '0' :: 'b' :: rest => basedInteger 2 rest
  | text => do
      let (negative, rest) := sign text
      let (digits, rest) ← decimalDigits rest
      return (← bounded negative (ofDigits 10 digits), rest)

/-! ## 3. Fractions -/

def word? (word : String) (text : List Char) : Option (List Char) :=
  if word.toList.isPrefixOf text then some (text.drop word.length) else none

/-- The exponent at the start of a text, zero if there is none. -/
def exponent? : List Char → Option (Bool × Int × List Char)
  | c :: rest =>
      if c = 'e' ∨ c = 'E' then do
        let (negative, rest) := sign rest
        let (digits, rest) ← digits1 (digitIn 10) rest
        let size : Int := ofDigits 10 digits
        return (true, if negative then -size else size, rest)
      else some (false, 0, c :: rest)
  | [] => some (false, 0, [])

/-- Whether a decimal number is too large for a double-precision number: it is not below the
middle between the largest of them and 2¹⁰²⁴. -/
def tooLarge (digits : List Nat) (exponent : Int) : Bool :=
  let digits := digits.dropWhile (· == 0)
  let magnitude : Int := digits.length + exponent
  if digits.isEmpty || magnitude < 300 then false
  else if 320 < magnitude then true
  else
    let limit := Nat.pow 2 1024 - Nat.pow 2 970
    if 0 ≤ exponent then limit ≤ ofDigits 10 digits * Nat.pow 10 exponent.toNat
    else limit * Nat.pow 10 exponent.natAbs ≤ ofDigits 10 digits

/-- A number with a fraction or an exponent. -/
def decimalFraction (text : List Char) : Option (List Char) := do
  let (negative, rest) := sign text
  let (whole, rest) ← decimalDigits rest
  let (fraction, rest) ←
    match rest with
    | '.' :: rest => digits1 (digitIn 10) rest
    | rest => some ([], rest)
  let (marked, exponent, rest) ← exponent? rest
  if fraction.isEmpty && !marked then none
  else if !negative && tooLarge (whole ++ fraction) (exponent - fraction.length) then none
  else some rest

/-- The text after a number with a fraction, an infinity or an undefined number. -/
def float? (text : List Char) : Option (List Char) :=
  let unsigned := (sign text).2
  decimalFraction text <|> word? "inf" unsigned <|> word? "nan" unsigned

/-! ## 4. Dates and times -/

def fixedDigits (count : Nat) (text : List Char) : Option (Nat × List Char) :=
  let digits := text.take count
  if digits.length = count ∧ digits.all Char.isDigit then
    (digits.mapM hexDigit?).map fun digits => (ofDigits 10 digits, text.drop count)
  else none

def mark? (mark : Char) : List Char → Option (List Char)
  | c :: rest => if c = mark then some rest else none
  | [] => none

def daysIn (year month : Nat) : Nat :=
  if month = 2 then
    if year % 4 = 0 ∧ (year % 100 ≠ 0 ∨ year % 400 = 0) then 29 else 28
  else if month = 4 ∨ month = 6 ∨ month = 9 ∨ month = 11 then 30
  else 31

def date? (text : List Char) : Option (List Char) := do
  let (year, rest) ← fixedDigits 4 text
  let (month, rest) ← fixedDigits 2 (← mark? '-' rest)
  let (day, rest) ← fixedDigits 2 (← mark? '-' rest)
  if 1 ≤ month ∧ month ≤ 12 ∧ 1 ≤ day ∧ day ≤ daysIn year month then some rest else none

def hourMinute? (text : List Char) : Option (List Char) := do
  let (hour, rest) ← fixedDigits 2 text
  let (minute, rest) ← fixedDigits 2 (← mark? ':' rest)
  if hour ≤ 23 ∧ minute ≤ 59 then some rest else none

/-- The text after a time. A minute may have a leap second. -/
def time? (text : List Char) : Option (List Char) := do
  let (second, rest) ← fixedDigits 2 (← mark? ':' (← hourMinute? text))
  if 60 < second then none
  else
    match rest with
    | '.' :: c :: rest =>
        if c.isDigit then some (rest.dropWhile Char.isDigit) else some ('.' :: c :: rest)
    | rest => some rest

/-- The text after an offset from universal time, if there is one. -/
def skipOffset (text : List Char) : Option (List Char) :=
  match text with
  | 'Z' :: rest | 'z' :: rest => some rest
  | '+' :: rest | '-' :: rest => hourMinute? rest
  | text => some text

/-- The text after a date, a time, or both. -/
def dateTime? (text : List Char) : Option (List Char) :=
  match date? text with
  | none => time? text
  | some rest =>
      match rest with
      | c :: afterMark =>
          if c = 'T' ∨ c = 't' ∨ c = ' ' then
            match time? afterMark with
            | some rest => skipOffset rest
            | none => some (c :: afterMark)
          else some (c :: afterMark)
      | [] => some []

end Synthesis.Toml
