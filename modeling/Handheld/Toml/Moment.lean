import Handheld.Toml.Number

/-! # Dates and times

A date, a time of day, or both with an offset at most. Days are counted month by month; a leap
second is a time.
-/
set_option autoImplicit false
namespace Handheld.Toml

def twoDigits (low high : Nat) (a b : Char) : Bool :=
  a.isDigit && b.isDigit && decide (low ≤ numeral 10 [a, b] ∧ numeral 10 [a, b] ≤ high)

def isLeapYear (year : Nat) : Bool :=
  year % 4 == 0 && (year % 100 != 0 || year % 400 == 0)

def monthLength (year month : Nat) : Nat :=
  if month = 2 then if isLeapYear year then 29 else 28
  else if month = 4 || month = 6 || month = 9 || month = 11 then 30
  else 31

def isDate : List Char → Bool
  | [y1, y2, y3, y4, '-', m1, m2, '-', d1, d2] =>
    [y1, y2, y3, y4].all Char.isDigit && twoDigits 1 12 m1 m2 &&
      twoDigits 1 (monthLength (numeral 10 [y1, y2, y3, y4]) (numeral 10 [m1, m2])) d1 d2
  | _ => false

/-- Behind a time of day, whose seconds may be left out. -/
def dropTime? : List Char → Option (List Char)
  | h1 :: h2 :: ':' :: m1 :: m2 :: rest =>
    if twoDigits 0 23 h1 h2 && twoDigits 0 59 m1 m2 then
      match rest with
      | ':' :: s1 :: s2 :: rest =>
        if twoDigits 0 60 s1 s2 then
          match rest with
          | '.' :: fraction =>
            if (fraction.takeWhile Char.isDigit).isEmpty then none
            else some (fraction.dropWhile Char.isDigit)
          | rest => some rest
        else none
      | rest => some rest
    else none
  | _ => none

def isOffset : List Char → Bool
  | [] => true
  | [c] => c == 'Z' || c == 'z'
  | [sign, h1, h2, ':', m1, m2] =>
    (sign == '+' || sign == '-') && twoDigits 0 23 h1 h2 && twoDigits 0 59 m1 m2
  | _ => false

/-- A date, a time of day, or a date and a time with an offset at most. -/
def isMoment (cs : List Char) : Bool :=
  let date := cs.take 10
  let rest := cs.drop 10
  if isDate date then
    match rest with
    | [] => true
    | c :: time =>
      (c == 'T' || c == 't' || c == ' ') &&
        match dropTime? time with
        | some offset => isOffset offset
        | none => false
  else dropTime? cs == some []

end Handheld.Toml
