import ServiceCatalog.Text.Halves

/-!
# Decoding from the left

A character set says which characters some bytes mean.  Its decoder works from the left: at every
place it takes a number of bytes, at least one, and gives the code points of characters for them;
some sets can also write halves of pairs one by one.  Bytes that mean nothing give a hole, so that a
reader may refuse the text (`wholeText?`) or put the replacement character in the place of each hole
(`replacedText`).

A set whose bytes mean different things after a switch has a state; the others have the state `()`.
-/

namespace ServiceCatalog
namespace Charset

/-- The code points that bytes mean, with a hole for each fault. -/
abbrev Decoded : Type := List (Option Nat)

/-- The code points of characters. -/
def decoded (cs : List Char) : Decoded := cs.map fun c => some c.toNat

/-- What is taken at one place: the code points, and the number of bytes behind the first one. -/
structure Taken where
  points : Decoded
  more : Nat

namespace Taken

/-- One byte is one character. -/
def char (c : Char) : Taken := ⟨[some c.toNat], 0⟩

/-- One byte means nothing. -/
def fault : Taken := ⟨[none], 0⟩

/-- All bytes up to the end mean nothing, because others are missing behind them. -/
def unfinished (rest : List UInt8) : Taken := ⟨[none], rest.length⟩

/-- A number of bytes behind the first one, and this one, are one character; if there is no such
character, the first byte means nothing. -/
def some? (more : Nat) : Option Char → Taken
  | some c => ⟨[some c.toNat], more⟩
  | none => fault

end Taken

/-- Decodes bytes in a state, behind code points that are already decoded, the last one first.  A
step takes the first byte and knows those behind it. -/
def decodeOnto {σ : Type} (step : σ → UInt8 → List UInt8 → σ × Taken) (done : Decoded) (s : σ) :
    List UInt8 → Decoded
  | [] => done.reverse
  | b :: bs =>
    let (next, t) := step s b bs
    decodeOnto step (t.points.reverse ++ done) next (bs.drop t.more)
termination_by bs => bs.length
decreasing_by
  simp only [List.length_drop, List.length_cons]
  omega

/-- Decodes bytes in a state. -/
def decodeFrom {σ : Type} (step : σ → UInt8 → List UInt8 → σ × Taken) (s : σ) :
    List UInt8 → Decoded :=
  decodeOnto step [] s

/-- Decodes bytes without a state. -/
def decodeWith (step : UInt8 → List UInt8 → Taken) : List UInt8 → Decoded :=
  decodeFrom (fun (_ : Unit) b bs => ((), step b bs)) ()

/-- The character of a number. -/
def charOf? (n : Nat) : Option Char := if h : n.isValidChar then some (Char.ofNatAux n h) else none

/-- The number that two bytes write. -/
def pairNumber (a b : UInt8) : Nat := 256 * a.toNat + b.toNat

/-- The text, if nothing in it is faulty. -/
def wholeText? (ps : Decoded) : Option String :=
  (ps.mapM id).map fun ns => String.ofList (ns.flatMap Text.spell)

/-- The text, with the replacement character for each fault. -/
def replacedText (ps : Decoded) : String :=
  String.ofList (ps.flatMap fun n => Text.spell (n.getD 0xFFFD))

end Charset
end ServiceCatalog
