import ServiceCatalog.Text.Blank

/-!
# Decimal digits and written integers

Every script that writes numbers in base ten has its own ten digits, and they stand in order: the
class is therefore given by the zeros alone.  A written integer may use any of them, as a status
code may (`٢٠٠` is 200), and an index into a list as well.

## The written form of an integer

`integer?` reads the free form that an index may have: blanks around it, an optional sign, and
digits that single underscores may keep apart.  The four separating control characters are not blank
here, although they are elsewhere; a written integer has never admitted them.
-/

namespace ServiceCatalog
namespace Text

/-- The code points of the digits zero. -/
def zeros : List Nat :=
  [0x0030, 0x0660, 0x06F0, 0x07C0, 0x0966, 0x09E6, 0x0A66, 0x0AE6, 0x0B66, 0x0BE6, 0x0C66, 0x0CE6,
   0x0D66, 0x0DE6, 0x0E50, 0x0ED0, 0x0F20, 0x1040, 0x1090, 0x17E0, 0x1810, 0x1946, 0x19D0, 0x1A80,
   0x1A90, 0x1B50, 0x1BB0, 0x1C40, 0x1C50, 0xA620, 0xA8D0, 0xA900, 0xA9D0, 0xA9F0, 0xAA50, 0xABF0,
   0xFF10, 0x104A0, 0x10D30, 0x11066, 0x110F0, 0x11136, 0x111D0, 0x112F0, 0x11450, 0x114D0,
   0x11650, 0x116C0, 0x11730, 0x118E0, 0x11950, 0x11C50, 0x11D50, 0x11DA0, 0x16A60, 0x16AC0,
   0x16B50, 0x1D7CE, 0x1D7D8, 0x1D7E2, 0x1D7EC, 0x1D7F6, 0x1E140, 0x1E2F0, 0x1E950, 0x1FBF0]

/-- The value of a digit of any script. -/
def digitValue? (c : Char) : Option Nat :=
  zeros.findSome? fun z => if z ≤ c.toNat ∧ c.toNat ≤ z + 9 then some (c.toNat - z) else none

/-- A decimal digit of any script. -/
def isDigit (c : Char) : Bool := (digitValue? c).isSome

/-- Every digit of the core library is a digit here. -/
theorem isDigit_of_isDigit {c : Char} (h : c.isDigit) : isDigit c := by
  simp only [Char.isDigit, Bool.and_eq_true, decide_eq_true_eq, ge_iff_le, UInt32.le_iff_toNat_le]
    at h
  have hz : 0x0030 ≤ c.toNat ∧ c.toNat ≤ 0x0030 + 9 := h
  simp [isDigit, digitValue?, zeros, hz]

/-- Appends a digit to a number in base ten. -/
def pushDigit (n d : Nat) : Nat := 10 * n + d

/-- Reads digits to the end of the text on top of a number already read; a single underscore may
stand between two digits. -/
def digitsToEnd? (n : Nat) : List Char → Option Nat
  | [] => some n
  | '_' :: c :: cs => (digitValue? c).bind fun d => digitsToEnd? (pushDigit n d) cs
  | c :: cs => (digitValue? c).bind fun d => digitsToEnd? (pushDigit n d) cs

/-- A number without a sign: at least one digit, and nothing else. -/
def natural? : List Char → Option Nat
  | [] => none
  | c :: cs => (digitValue? c).bind fun d => digitsToEnd? d cs

/-- A number with an optional sign. -/
def signed? : List Char → Option Int
  | '-' :: cs => (natural? cs).map fun n => -(n : Int)
  | '+' :: cs => (natural? cs).map fun n => (n : Int)
  | cs => (natural? cs).map fun n => (n : Int)

/-- The control characters that separate are blank in a text, but not around a number. -/
def isNumberBlank (c : Char) : Bool :=
  isBlank c && !(0x1C ≤ c.toNat && c.toNat ≤ 0x1F)

/-- The text without the blanks around a number. -/
def trimNumber (cs : List Char) : List Char :=
  ((cs.dropWhile isNumberBlank).reverse.dropWhile isNumberBlank).reverse

/-- The integer that a text writes.  It may have blanks around it, a sign, and underscores between
its digits. -/
def integer? (cs : List Char) : Option Int := signed? (trimNumber cs)

/-- The longest run of digits at the start of a text as a number, and the rest. -/
def leadingDigits (n : Nat) : List Char → Nat × List Char
  | [] => (n, [])
  | c :: cs =>
    match digitValue? c with
    | some d => leadingDigits (pushDigit n d) cs
    | none => (n, c :: cs)

end Text
end ServiceCatalog
