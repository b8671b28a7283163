import Handheld.Toml.Value

/-! # Numbers

The form of a number is checked where it stands, but what it denotes only where it is asked for. A
base mark may have no digits behind it, and behind its first underscore a whole number may go on
with other characters than digits, but for the space; such numbers have the right form and are
unreadable.
-/
set_option autoImplicit false
namespace Handheld.Toml

def isBinDigit (c : Char) : Bool := c == '0' || c == '1'

def isOctDigit (c : Char) : Bool := '0' ≤ c && c ≤ '7'

def isHexDigit (c : Char) : Bool :=
  c.isDigit || ('a' ≤ c && c ≤ 'f') || ('A' ≤ c && c ≤ 'F')

def underscoresFit (isDigit : Char → Bool) : List Char → Bool
  | [] => true
  | '_' :: _ => false
  | c :: '_' :: d :: rest => isDigit c && isDigit d && underscoresFit isDigit (d :: rest)
  | _ :: rest => underscoresFit isDigit rest

def digitValue (c : Char) : Nat :=
  if c.isDigit then c.toNat - 48 else if 'a' ≤ c then c.toNat - 87 else c.toNat - 55

def numeral (base : Nat) (cs : List Char) : Nat :=
  (cs.filter (· != '_')).foldl (fun n c => n * base + digitValue c) 0

/-- Integers have at most 128 bits, with or without a sign. -/
def Value.ofInteger (n : Int) : Value :=
  if -(1 <<< 127 : Nat) ≤ n ∧ n < (1 <<< 128 : Nat) then .integer n else .unreadable

/-- The smallest number that rounds to no finite double. -/
def doubleLimit : Nat := (1 <<< 1024) - (1 <<< 970)

/-- Whether a number times a power of ten is beyond the finite doubles. Far exponents are decided
by the count of digits. -/
def overflowsDouble (mantissa : Nat) (exponent : Int) : Bool :=
  let magnitude : Int := (Nat.toDigits 10 mantissa).length + exponent
  if mantissa = 0 || magnitude < 300 then false
  else if 320 < magnitude then true
  else if 0 ≤ exponent then decide (doubleLimit ≤ mantissa * Nat.pow 10 exponent.toNat)
  else decide (doubleLimit * Nat.pow 10 (-exponent).toNat ≤ mantissa)

def Value.ofFloat (mantissa : Nat) (exponent : Int) : Value :=
  if overflowsDouble mantissa exponent then .unreadable else .float

def takeSign : List Char → Option Char × List Char
  | '+' :: rest => (some '+', rest)
  | '-' :: rest => (some '-', rest)
  | cs => (none, cs)

def signed (sign : Option Char) (n : Nat) : Int := if sign = some '-' then -n else n

def based? (base : Nat) (isDigit : Char → Bool) (digits : List Char) : Option Value :=
  if digits.all (fun c => isDigit c || c == '_') && underscoresFit isDigit digits then
    some (if digits.isEmpty then .unreadable else .ofInteger (numeral base digits))
  else none

def whole? (sign : Option Char) (body : List Char) : Option Value :=
  if (body.head? = some '0' && body != ['0']) || !underscoresFit isHexDigit body then none
  else
    match body.dropWhile Char.isDigit with
    | [] => if body.isEmpty then none else some (.ofInteger (signed sign (numeral 10 body)))
    | '_' :: _ =>
      if body.contains ' ' then none
      else
        some (if body.all fun c => c.isDigit || c == '_' then
            .ofInteger (signed sign (numeral 10 body))
          else .unreadable)
    | _ => none

def inFloat (c : Char) : Bool := c.isDigit || c == '_'

def exponent? : List Char → Option Int
  | [] => some 0
  | c :: rest =>
    let (sign, digits) := takeSign rest
    if (c = 'e' || c = 'E') && digits.all inFloat && digits.any Char.isDigit then
      some (signed sign (numeral 10 digits))
    else none

def float? (body : List Char) : Option Value :=
  let whole := body.takeWhile inFloat
  let digits := whole.filter Char.isDigit
  if digits.isEmpty || (whole.head? = some '0' && digits != ['0']) ||
      !underscoresFit Char.isDigit body then none
  else
    match body.dropWhile inFloat with
    | '.' :: rest =>
      let fraction := (rest.takeWhile inFloat).filter Char.isDigit
      if fraction.isEmpty then none
      else
        (exponent? (rest.dropWhile inFloat)).map fun exponent =>
          .ofFloat (numeral 10 (whole ++ fraction)) (exponent - fraction.length)
    | rest => (exponent? rest).map (.ofFloat (numeral 10 whole))

def number? (word : List Char) : Option Value :=
  let (sign, body) := takeSign word
  if body = "inf".toList || body = "nan".toList then some .float
  else
    match sign, body with
    | none, '0' :: 'x' :: digits => based? 16 isHexDigit digits
    | none, '0' :: 'o' :: digits => based? 8 isOctDigit digits
    | none, '0' :: 'b' :: digits => based? 2 isBinDigit digits
    | _, _ =>
      if body.any fun c => c == '.' || c == 'e' || c == 'E' then float? body
      else whole? sign body

end Handheld.Toml
