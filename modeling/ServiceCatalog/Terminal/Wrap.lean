import ServiceCatalog.Terminal.Cell
import ServiceCatalog.Text.Blank
import ServiceCatalog.Text.Pieces

/-!
# Lines that fit

A remark is cut into lines of at most `width` cells.  A line takes words as long as they fit, each
word with the blanks behind it; a word that is longer than a line is cut wherever a line is full.
Blanks that would stand behind the end of a line are dropped, and what still does not fit is cropped
there.
-/

namespace ServiceCatalog
namespace Terminal

/-- The number of cells of a line. -/
def width : Nat := 80

/-- The distance of the tab stops. -/
def tabStop : Nat := 8

/-- Puts spaces for tabs, in a line that is cut at its tabs and starts at some cell. -/
def expanded (start : Nat) : List (List Char) → List Char
  | [] => []
  | [last] => last
  | part :: parts =>
    let here := start + size part
    let next := (here / tabStop + 1) * tabStop
    part ++ List.replicate (next - here) ' ' ++ expanded next parts

/-- A line with spaces for its tabs: each one leads to the next tab stop. -/
def withoutTabs (line : List Char) : List Char := expanded 0 (Text.split '\t' line)

/-- The words of a line, each with the blanks behind it; the first also has those before it. -/
def spacedWords (line : List Char) : List (List Char) :=
  let blanks := line.takeWhile Text.isBlank
  match _h : line.dropWhile Text.isBlank with
  | [] => []
  | c :: cs =>
    let rest := cs.dropWhile fun d => !Text.isBlank d
    (blanks ++ c :: cs.takeWhile (fun d => !Text.isBlank d) ++ rest.takeWhile Text.isBlank)
      :: spacedWords (rest.dropWhile Text.isBlank)
termination_by line.length
decreasing_by
  have h₁ := (List.dropWhile_suffix (l := line) Text.isBlank).length_le
  have h₂ := (List.dropWhile_suffix (l := cs) fun d => !Text.isBlank d).length_le
  have h₃ := (List.dropWhile_suffix (l := cs.dropWhile fun d => !Text.isBlank d)
    Text.isBlank).length_le
  rw [_h, List.length_cons] at h₁
  omega

/-- The full lines of a word that is too long for one, and what is left of it behind them.  The line
that is being filled is given in reverse order, with its number of cells. -/
def chopped (full : Nat) (line : List Char) : List Char → List (List Char) × List Char
  | [] => ([], line.reverse)
  | c :: cs =>
    if full + cells c ≤ width then chopped (full + cells c) (c :: line) cs
    else
      let (lines, last) := chopped (cells c) [c] cs
      (line.reverse :: lines, last)

/-- Fills lines with words, on top of a line that is begun. -/
def filled (line : List Char) : List (List Char) → List (List Char)
  | [] => [line]
  | word :: words =>
    let needed := size (Text.trimEnd word)
    if size line + needed ≤ width then filled (line ++ word) words
    else if needed ≤ width then line :: filled word words
    else
      let (lines, last) := chopped 0 [] word
      (if line.isEmpty then [] else [line]) ++ lines ++ filled last words

/-- A line without the blanks at its end that stand behind the last place of the width. -/
def trimmed (line : List Char) : List Char :=
  let blanks := (line.reverse.takeWhile Text.isBlank).length
  line.take (line.length - min blanks (line.length - width))

/-- A line that is too long, cropped to the width.  Of a character that would cross the end a space
is left.  The end is sought between two places by halving, and the number bounds the steps. -/
def croppedBetween (line : List Char) : (steps low high : Nat) → List Char
  | 0, _, _ => line
  | steps + 1, low, high =>
    let middle := (low + high) / 2
    let head := line.take (middle + 1)
    if size head = width + 1 ∧ (head.getLast?.map cells) = some 2 then head.dropLast ++ [' ']
    else if size head = width then head
    else if size head > width then croppedBetween line steps low middle
    else croppedBetween line steps middle high

/-- A line cropped to the width. -/
def cropped (line : List Char) : List Char :=
  if size line ≤ width then line else croppedBetween line line.length 0 line.length

/-- The lines of a line. -/
def wrapped (line : List Char) : List (List Char) :=
  let plain := withoutTabs line
  let lines := match spacedWords plain with
    | [] => [plain]
    | words => filled [] words
  lines.map fun l => cropped (trimmed l)

/-- A text cut into lines that fit. -/
def fitted (cs : List Char) : List Char :=
  Text.join ['\n'] ((Text.split '\n' cs).flatMap wrapped)

end Terminal
end ServiceCatalog
