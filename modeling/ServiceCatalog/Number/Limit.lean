/-!
# How long a written integer may be

Reading an integer from decimal digits, or writing one, takes time that grows faster than its
length.  Both are therefore refused beyond 4300 digits, and whoever needs the integer fails
(`Overlong`).

What is counted differs.  Where an integer is read, the digits count as they stand, zeros at the
front included; where one is written, its own digits count.  Signs count in neither case.
-/

namespace ServiceCatalog

/-- The number of decimal digits up to which integers are read and written. -/
def digitLimit : Nat := 4300

/-- Why an integer is not read, or not written. -/
inductive Overlong where
  /-- A text has too many digits to be read. -/
  | read (digits : Nat)
  /-- An integer has too many digits to be written. -/
  | written
  deriving DecidableEq, Repr

/-- What is said about an integer that is not read, or not written. -/
def Overlong.message (o : Overlong) : String :=
  let found := match o with
    | .read digits => s!": value has {digits} digits"
    | .written => ""
  s!"Exceeds the limit ({digitLimit} digits) for integer string conversion{found}; " ++
    "use sys.set_int_max_str_digits() to increase the limit"

/-- An integer has no more digits than can be written. -/
def isShortInt (n : Int) : Bool := (Nat.toDigits 10 n.natAbs).length ≤ digitLimit

end ServiceCatalog
