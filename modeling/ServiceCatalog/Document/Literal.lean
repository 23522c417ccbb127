import ServiceCatalog.Document.Value
import ServiceCatalog.Number.Layout
import ServiceCatalog.Number.Limit
import ServiceCatalog.Text.Quoted

/-!
# Values as texts

A name, a status code or a version may be any value, and where a text is needed the value is written
out.  There are two written forms.  The *plain* form of a text is the text itself; it is what a name
becomes.  The *literal* form shows what kind of value it is: texts are quoted and dates are spelled
by their numbers.  A list, a mapping, a pair or a set is written with the literal forms of its
parts, in both forms.  A list or a mapping that stands inside of itself is not written out again
there, but as brackets around three points.

Both forms are defined for every value.  Where one is asked for, it is only made of values that hold
no integer beyond the limit (`Value.isWritable`).
-/

namespace ServiceCatalog

/-- Doubles in written values: an exponent below `-4` or from `16` on is written out. -/
def writtenDouble : Double.Layout := { nanName := "nan", infinityName := "inf" }

/-- A written integer. -/
def writtenInt (n : Int) : List Char :=
  (if n < 0 then ['-'] else []) ++ Nat.toDigits 10 n.natAbs

namespace Scalar

/-- The literal form of a scalar. -/
def literal : Scalar → List Char
  | .null => "None".toList
  | .bool b => if b then "True".toList else "False".toList
  | .int n => writtenInt n
  | .float x => writtenDouble.write x
  | .text s => Text.quoted s.toList
  | .date d =>
    "datetime.date(".toList ++ Nat.toDigits 10 d.year ++ ", ".toList ++ Nat.toDigits 10 d.month
      ++ ", ".toList ++ Nat.toDigits 10 d.day ++ [')']
  | .moment m => m.literal
  | .bytes bs => Text.quotedBytes bs

/-- The plain form of a scalar: a text, a date and a moment are written without marks. -/
def plain : Scalar → List Char
  | .text s => s.toList
  | .date d => d.iso
  | .moment m => m.plain
  | s => s.literal

/-- A scalar is written without an integer beyond the limit. -/
def isWritable : Scalar → Bool
  | .int n => isShortInt n
  | _ => true

end Scalar

namespace Value

/-- What stands for a value where it stands inside of itself. -/
def again : Value → List Char
  | .mapping _ => "\x7b...\x7d".toList
  | .knot _ v => v.again
  | _ => "[...]".toList

/-- The literal form of a set: in braces, or by a name if it is empty. -/
def literalSet (members : List Scalar) : List Char :=
  if members.isEmpty then "set()".toList
  else '\x7b' :: List.intercalate [',', ' '] (members.map Scalar.literal) ++ ['\x7d']

mutual

/-- The literal form of a value inside of some marked values. -/
def literalWithin (around : List Nat) : Value → List Char
  | .scalar s => s.literal
  | .list items => '[' :: literalItems around items ++ [']']
  | .mapping es => '\x7b' :: literalEntries around es ++ ['\x7d']
  | .pair first second =>
    '(' :: literalWithin around first ++ ',' :: ' ' :: literalWithin around second ++ [')']
  | .set members => literalSet members
  | .knot place v => if place ∈ around then v.again else literalWithin (place :: around) v

/-- The literal forms of items, separated by commas. -/
def literalItems (around : List Nat) : List Value → List Char
  | [] => []
  | [v] => literalWithin around v
  | v :: vs => literalWithin around v ++ ',' :: ' ' :: literalItems around vs

/-- The literal forms of entries, separated by commas. -/
def literalEntries (around : List Nat) : List (Scalar × Value) → List Char
  | [] => []
  | [(k, v)] => k.literal ++ ':' :: ' ' :: literalWithin around v
  | (k, v) :: es =>
    k.literal ++ ':' :: ' ' :: literalWithin around v ++ ',' :: ' ' :: literalEntries around es

end

/-- The literal form of a value. -/
def literal (v : Value) : List Char := v.literalWithin []

/-- The plain form of a value. -/
def plain : Value → List Char
  | .scalar s => s.plain
  | v => v.literal

@[simp] theorem plain_text (s : String) : plain (.text s) = s.toList := rfl

mutual

/-- A value is written without an integer beyond the limit. -/
def isWritable : Value → Bool
  | .scalar s => s.isWritable
  | .list items => allWritable items
  | .mapping es => entriesWritable es
  | .pair first second => first.isWritable && second.isWritable
  | .set members => members.all Scalar.isWritable
  | .knot _ v => v.isWritable

/-- Items are written without an integer beyond the limit. -/
def allWritable : List Value → Bool
  | [] => true
  | v :: vs => v.isWritable && allWritable vs

/-- Entries are written without an integer beyond the limit. -/
def entriesWritable : List (Scalar × Value) → Bool
  | [] => true
  | (k, v) :: es => k.isWritable && v.isWritable && entriesWritable es

end

@[simp] theorem isWritable_text (s : String) : (Value.text s).isWritable = true := rfl

/-- What a message calls the kind of a value. -/
def kindName : Value → String
  | .scalar .null => "NoneType"
  | .scalar (.bool _) => "bool"
  | .scalar (.int _) => "int"
  | .scalar (.float _) => "float"
  | .scalar (.text _) => "str"
  | .scalar (.date _) => "date"
  | .scalar (.moment _) => "datetime"
  | .scalar (.bytes _) => "bytes"
  | .list _ => "list"
  | .mapping _ => "dict"
  | .pair _ _ => "tuple"
  | .set _ => "set"
  | .knot _ v => v.kindName

end Value

/-- The plain form of a scalar as a string. -/
def Scalar.plainText (s : Scalar) : String := String.ofList s.plain

/-- The plain form of a value as a string. -/
def Value.plainText (v : Value) : String := String.ofList v.plain

end ServiceCatalog
