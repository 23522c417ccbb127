/-!
# Double-precision numbers, exactly

Documents hold floating-point numbers, and the library never computes with them: it reads them,
compares them and writes them down again.  For that the type of the machine is the wrong one, since
a proof cannot look inside it.  Here a double is what it denotes.

## Ranks

The non-negative finite doubles form a chain `0 = d₀ < d₁ < d₂ < …`, and the index of a double in
this chain, its *rank*, is all one needs to know of it: the next double has the next rank, and
rounding to nearest is a question between two neighbouring ranks, which the even one wins when both
are equally near.  The value of a rank is an integer number of *units*, the unit being the least
positive double, `1 / 2 ^ 1074`; so every comparison below is one between natural numbers.
-/

namespace ServiceCatalog

/-- How many non-negative finite doubles there are. -/
def Double.finiteRanks : Nat := 0x7FF0000000000000

/-- A double-precision number: not a number, an infinity, or a signed finite magnitude given by its
place among the finite magnitudes. -/
inductive Double where
  | nan
  | infinite (negative : Bool)
  | finite (negative : Bool) (rank : Fin Double.finiteRanks)
  deriving DecidableEq

namespace Double

/-- How many units make one. -/
def unitsPerOne : Nat := Nat.pow 2 1074

/-- The value of a rank in units.  The first `2 ^ 53` ranks are spaced by one unit, and from then on
the spacing doubles after every `2 ^ 52` ranks. -/
def units (rank : Nat) : Nat :=
  let period := Nat.pow 2 52
  if rank < 2 * period then rank
  else (period + rank % period) * Nat.pow 2 (rank / period - 1)

/-- The largest rank whose value is at most a number of units. -/
def floorRank (u : Nat) : Nat :=
  let shift := u.log2 - 52
  shift * Nat.pow 2 52 + u / Nat.pow 2 shift

/-- The rank nearest to `num / den` units; of two equally near ranks the even one. -/
def nearestRank (num den : Nat) : Nat :=
  let low := floorRank (num / den)
  let below := 2 * (num - units low * den)
  let gap := (units (low + 1) - units low) * den
  if below < gap then low
  else if gap < below then low + 1
  else if low % 2 = 0 then low else low + 1

/-- The double nearest to `num / den` units, with a sign.  Beyond the last finite double lies
infinity. -/
def ofUnits (negative : Bool) (num den : Nat) : Double :=
  if h : nearestRank num den < finiteRanks then .finite negative ⟨nearestRank num den, h⟩
  else .infinite negative

/-- Zero. -/
def zero : Double := .finite false ⟨0, by decide⟩

instance : Inhabited Double := ⟨zero⟩

/-- The number with the opposite sign. -/
def negate : Double → Double
  | .nan => .nan
  | .infinite s => .infinite !s
  | .finite s r => .finite (!s) r

/-- A finite number, as opposed to an infinity or to what is not a number. -/
def isFinite : Double → Bool
  | .finite _ _ => true
  | _ => false

/-- The integer that a double is equal to, if it is equal to one.  Both zeros are equal to the
integer zero. -/
def toInt? : Double → Option Int
  | .finite negative rank =>
    if units rank % unitsPerOne = 0 then
      let n : Int := (units rank / unitsPerOne : Nat)
      some (if negative then -n else n)
    else none
  | _ => none

/-! ## Reading decimals -/

/-- The double nearest to `digits * 10 ^ exponent`, with a sign.

A number of more than 310 digits before its point is beyond every finite double, and one that starts
more than 330 places behind its point rounds to zero.  Both are decided from the number of digits,
so that an absurd exponent costs nothing. -/
def ofDecimal (negative : Bool) (digits : Nat) (exponent : Int) : Double :=
  let point : Int := (Nat.toDigits 10 digits).length + exponent
  if digits = 0 then ofUnits negative 0 1
  else if 310 < point then .infinite negative
  else if point < -330 then ofUnits negative 0 1
  else match exponent with
    | .ofNat e => ofUnits negative (digits * Nat.pow 10 e * unitsPerOne) 1
    | .negSucc e => ofUnits negative (digits * unitsPerOne) (Nat.pow 10 (e + 1))

/-! ## Arithmetic

A number in base sixty is the only one that is computed and not read: each of its parts is
multiplied by a power of sixty and added to the rest, with a rounding after each of the two. -/

/-- The number of units, if it is finite. -/
def units? : Double → Option Int
  | .finite negative rank => some (if negative then -(units rank : Int) else units rank)
  | _ => none

/-- The rounded sum.  What is not finite absorbs everything else, and two opposite infinities give
no number. -/
def add (x y : Double) : Double :=
  match x.units?, y.units? with
  | some a, some b => ofUnits (a + b < 0) (a + b).natAbs 1
  | some _, none => y
  | none, some _ => x
  | none, none => if x = y then x else .nan

/-- The rounded product with a natural number, which is rounded itself first; one that is beyond
every finite double has none. -/
def scale? (x : Double) (n : Nat) : Option Double :=
  match x.units?, (ofUnits false (n * unitsPerOne) 1).units? with
  | some a, some b => some (ofUnits (a < 0) (a.natAbs * b.natAbs) unitsPerOne)
  | none, some _ => some x
  | _, none => none

end Double
end ServiceCatalog
