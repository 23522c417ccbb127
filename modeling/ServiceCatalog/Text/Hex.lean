/-!
# Hexadecimal digits

Escapes name a character by its code point in base sixteen, with a fixed number of digits.  The two
directions stand side by side: `hexDigits` writes, `hexValue?` reads, and reading what was written
gives the number back (`hexValue?_hexDigits`).
-/

namespace ServiceCatalog
namespace Text

/-- The digit in base sixteen with a given value, in lower case. -/
def hexDigit (d : Nat) : Char :=
  if d < 10 then Char.ofNat (48 + d) else Char.ofNat (87 + d)

/-- The value of a digit in base sixteen, in either case. -/
def hexDigitValue? (c : Char) : Option Nat :=
  if '0' ≤ c ∧ c ≤ '9' then some (c.toNat - 48)
  else if 'a' ≤ c ∧ c ≤ 'f' then some (c.toNat - 87)
  else if 'A' ≤ c ∧ c ≤ 'F' then some (c.toNat - 55)
  else none

/-- The last `width` digits of a number in base sixteen. -/
def hexDigits : (width n : Nat) → List Char
  | 0, _ => []
  | width + 1, n => hexDigits width (n / 16) ++ [hexDigit (n % 16)]

/-- The number that a list of digits in base sixteen writes on top of a number already read. -/
def hexValueFrom? (n : Nat) : List Char → Option Nat
  | [] => some n
  | c :: cs => (hexDigitValue? c).bind fun d => hexValueFrom? (16 * n + d) cs

/-- The number that a list of digits in base sixteen writes. -/
def hexValue? (cs : List Char) : Option Nat := hexValueFrom? 0 cs

theorem hexDigitValue?_hexDigit {d : Nat} (h : d < 16) : hexDigitValue? (hexDigit d) = some d := by
  have all : ∀ e < 16, hexDigitValue? (hexDigit e) = some e := by decide
  exact all d h

theorem hexValueFrom?_append (n : Nat) (cs ds : List Char) :
    hexValueFrom? n (cs ++ ds) = (hexValueFrom? n cs).bind fun m => hexValueFrom? m ds := by
  induction cs generalizing n with
  | nil => rfl
  | cons c cs ih =>
    simp only [List.cons_append, hexValueFrom?]
    cases hexDigitValue? c with
    | none => rfl
    | some d => exact ih _

/-- Reading the digits of a number that fits into them gives the number back. -/
theorem hexValue?_hexDigits {width n : Nat} (h : n < Nat.pow 16 width) :
    hexValue? (hexDigits width n) = some n := by
  unfold hexValue?
  induction width generalizing n with
  | zero =>
    obtain rfl : n = 0 := Nat.lt_one_iff.mp h
    rfl
  | succ width ih =>
    have hrest : n / 16 < Nat.pow 16 width :=
      Nat.div_lt_of_lt_mul (Nat.mul_comm (Nat.pow 16 width) 16 ▸ h)
    rw [hexDigits, hexValueFrom?_append, ih hrest]
    simp only [Option.bind_some, hexValueFrom?,
      hexDigitValue?_hexDigit (Nat.mod_lt n (by decide))]
    congr 1
    omega

end Text
end ServiceCatalog
