import ServiceCatalog.Number.Double
import ServiceCatalog.Text.Digit

/-!
# Written numbers

A number may be written in more ways than the formats of this library print.  `Text.integerInBase?`
reads an integer in base two, eight, ten or sixteen, and `Double.ofText?` reads a decimal with or
without a point and an exponent, or the name of what is not finite.  Both admit blanks around the
number and a sign in front of it, and digits of every script; neither admits anything between the
digits.
-/

namespace ServiceCatalog
namespace Text

/-- The value of a digit in a base of at most sixteen. -/
def digitInBase? (base : Nat) (c : Char) : Option Nat :=
  let letter := if 'a' ≤ c ∧ c ≤ 'f' then some (c.toNat - 87)
    else if 'A' ≤ c ∧ c ≤ 'F' then some (c.toNat - 55)
    else none
  ((digitValue? c).or letter).filter (· < base)

/-- The letter that may stand, behind a zero, in front of the digits of a base. -/
def baseLetter? : Nat → Option Char
  | 2 => some 'b'
  | 8 => some 'o'
  | 16 => some 'x'
  | _ => none

/-- The digits of a base without what may announce it. -/
def withoutBase (base : Nat) : List Char → List Char
  | '0' :: c :: cs => if (baseLetter? base).any fun l => c = l || c = l.toUpper then cs
    else '0' :: c :: cs
  | cs => cs

/-- The natural number that digits of a base write. -/
def naturalInBase? (base : Nat) (cs : List Char) : Option Nat :=
  match withoutBase base cs with
  | [] => none
  | ds => ds.foldlM (fun n c => (digitInBase? base c).map fun d => base * n + d) 0

/-- The text is cut into its sign and what follows it. -/
def signAndRest : List Char → Bool × List Char
  | '-' :: cs => (true, cs)
  | '+' :: cs => (false, cs)
  | cs => (false, cs)

/-- The integer that a text writes in a base. -/
def integerInBase? (base : Nat) (cs : List Char) : Option Int :=
  let (negative, ds) := signAndRest (trimNumber cs)
  (naturalInBase? base ds).map fun n => if negative then -(n : Int) else n

end Text

namespace Double

/-- The names of what is not finite. -/
def named? (negative : Bool) (cs : List Char) : Option Double :=
  match String.ofList (cs.map Char.toLower) with
  | "inf" => some (.infinite negative)
  | "infinity" => some (.infinite negative)
  | "nan" => some .nan
  | _ => none

/-- The exponent at the end of a decimal. -/
def exponent? : List Char → Option Int
  | [] => some 0
  | c :: cs =>
    if c = 'e' ∨ c = 'E' then
      let (negative, ds) := Text.signAndRest cs
      (Text.naturalInBase? 10 ds).map fun n => if negative then -(n : Int) else n
    else none

/-- A decimal without a sign: digits, a point, digits and an exponent, of which one digit at least
has to be there. -/
def magnitudeOfText? (negative : Bool) (cs : List Char) : Option Double :=
  let (whole, behind) := Text.leadingDigits 0 cs
  let (all, last) := match behind with
    | '.' :: ds => Text.leadingDigits whole ds
    | _ => (whole, behind)
  let places : Nat := match behind with
    | '.' :: ds => ds.length - last.length
    | _ => 0
  if (cs.length - behind.length) + places = 0 then none
  else (exponent? last).map fun e => .ofDecimal negative all (e - places)

/-- The double nearest to the number that a text writes. -/
def ofText? (cs : List Char) : Option Double :=
  let (negative, ds) := Text.signAndRest (Text.trimNumber cs)
  (named? negative ds).or (magnitudeOfText? negative ds)

end Double
end ServiceCatalog
