import ServiceCatalog.Yaml.Block
import ServiceCatalog.Yaml.Plain
import ServiceCatalog.Yaml.Property
import ServiceCatalog.Yaml.Quoted

/-!
# The tokens of a text

Most tokens stand for characters of the text.  The others come from its layout: a block opens where
an entry or a key is indented more than the block around it, and all blocks close that are indented
more than the next token.

## Keys without a mark

Whether a scalar is a key is only known when the colon behind it is found.  So a place where a key
may start is remembered (`Candidate`), one for every level of brackets, and when the colon comes the
key token is put in front of what was read since, together with the start of a block if one opens
there.  A candidate lapses at the end of its line, or after 1024 characters.  One at the indentation
of its block has to become a key, because nothing else can stand there.

## Where a key may start

At the start of a line, behind an opening bracket or a comma, and behind the mark of an entry; not
behind a scalar.  A block scalar ends at the start of a line, and a plain scalar may
(`plainScalar`).
-/

namespace ServiceCatalog
namespace Yaml

/-- A place where a key may have started. -/
structure Candidate where
  /-- The number of tokens in front of it. -/
  tokens : Nat
  /-- Nothing else can stand there. -/
  required : Bool
  index : Nat
  line : Nat
  column : Nat

/-- A candidate has lapsed at a place. -/
def Candidate.hasLapsed (k : Candidate) (c : Cursor) : Bool :=
  k.line ≠ c.line || 1024 < c.index - k.index

/-- The state of reading tokens. -/
structure Layout where
  cursor : Cursor
  /-- The tokens that have been read, the last one first, and their number. -/
  tokens : List Token := []
  size : Nat := 0
  /-- The indentation of the current block, and those of the blocks around it. -/
  indent : Int := -1
  outer : List Int := []
  /-- A key may start here. -/
  mayStartKey : Bool := true
  /-- The candidate at the current level of brackets, and those at the levels around it. -/
  candidate : Option Candidate := none
  candidates : List (Option Candidate) := []

namespace Layout

/-- The text goes on inside of brackets. -/
def inFlow (s : Layout) : Bool := !s.candidates.isEmpty

/-- The column of the next character. -/
def column (s : Layout) : Int := s.cursor.column

/-- Adds a token. -/
def push (t : Token) (s : Layout) : Layout :=
  { s with tokens := t :: s.tokens, size := s.size + 1 }

/-- Puts a token behind the first tokens. -/
def insertAt (place : Nat) (t : Token) (s : Layout) : Layout :=
  let later := s.size - place
  { s with tokens := s.tokens.take later ++ t :: s.tokens.drop later, size := s.size + 1 }

/-- Closes the blocks that are indented more than a column, given the indentations around them. -/
def closeFrom (column : Int) : List Int → Layout → Layout
  | [], s => s
  | i :: is, s =>
    if column < s.indent then closeFrom column is { s.push .blockEnd with indent := i, outer := is }
    else s

/-- Closes the blocks that are indented more than a column; inside of brackets there are none. -/
def closeBlocks (column : Int) (s : Layout) : Layout :=
  if s.inFlow then s else closeFrom column s.outer s

/-- Opens a block at a column if it is indented more than the current one. -/
def openBlock (column : Int) (s : Layout) : Option Layout :=
  if s.indent < column then some { s with indent := column, outer := s.indent :: s.outer } else none

/-- Opens a block at the current column, with its token. -/
def openBlockHere (t : Token) (s : Layout) : Layout :=
  match s.openBlock s.column with
  | some s' => s'.push t
  | none => s

/-- A candidate at a place, unless it has lapsed. -/
def current (c : Cursor) : Option Candidate → Except Fault (Option Candidate)
  | none => .ok none
  | some k =>
    if k.hasLapsed c then
      if k.required then malformed .missingColon else .ok none
    else .ok (some k)

/-- Drops the candidates that have lapsed. -/
def dropLapsed (s : Layout) : Except Fault Layout := do
  let k ← current s.cursor s.candidate
  let ks ← s.candidates.mapM (current s.cursor)
  return { s with candidate := k, candidates := ks }

/-- Drops the candidate at the current level. -/
def dropCandidate (s : Layout) : Except Fault Layout :=
  if s.candidate.any fun k => k.required then malformed .missingColon
  else .ok { s with candidate := none }

/-- The current place as a candidate. -/
def here (s : Layout) : Candidate where
  tokens := s.size
  required := !s.inFlow && s.indent = s.column
  index := s.cursor.index
  line := s.cursor.line
  column := s.cursor.column

/-- Remembers the current place, if a key may start there. -/
def remember (s : Layout) : Except Fault Layout :=
  if s.mayStartKey then s.dropCandidate.map fun s' => { s' with candidate := some s.here }
  else .ok s

/-- The place of the next token.  Outside of brackets a key may start on every new line.  The text
that is left bounds the number of rounds, since every round reads a character of it. -/
def skipToToken (inFlow : Bool) :
    (bound : List Char) → (mayStartKey : Bool) → Cursor → Bool × Cursor
  | [], mayStartKey, c => (mayStartKey, c)
  | _ :: bound, mayStartKey, c =>
    let d := c.skipSpaces
    let e := if d.rest.head? = some '#' then d.skipLine else d
    match e.lineBreak? with
    | some (_, f) => skipToToken inFlow bound (mayStartKey || !inFlow) f
    | none => (mayStartKey, e)

/-- Goes to the next token.  A byte order mark may open the text. -/
def toToken (s : Layout) : Layout :=
  let c := if s.cursor.index = 0 && s.cursor.rest.head? = some '\uFEFF' then s.cursor.advance
    else s.cursor
  let (mayStartKey, d) := skipToToken s.inFlow c.rest s.mayStartKey c
  { s with cursor := d, mayStartKey := mayStartKey }

/-! ## One token -/

/-- Reads a mark of some characters. -/
def mark (width : Nat) (t : Token) (s : Layout) : Layout :=
  { s.push t with cursor := s.cursor.skip width }

/-- A directive or a mark between documents: it closes all blocks. -/
def betweenDocuments (s : Layout) : Except Fault Layout :=
  (s.closeBlocks (-1)).dropCandidate.map fun s' => { s' with mayStartKey := false }

/-- A directive. -/
def fetchDirective (s : Layout) : Except Fault Layout := do
  let s ← s.betweenDocuments
  let (d, c) ← directive s.cursor
  let c ← endOfLine c .directive
  return { s.push (.directive d) with cursor := c }

/-- A mark between documents. -/
def fetchDocumentMark (t : Token) (s : Layout) : Except Fault Layout :=
  s.betweenDocuments.map (mark 3 t)

/-- An opening bracket, which may start a key itself. -/
def fetchOpening (t : Token) (s : Layout) : Except Fault Layout :=
  s.remember.map fun s =>
    { s.mark 1 t with
      mayStartKey := true, candidate := none, candidates := s.candidate :: s.candidates }

/-- A closing bracket. -/
def fetchClosing (t : Token) (s : Layout) : Except Fault Layout :=
  s.dropCandidate.bind fun s =>
    match s.candidates with
    | [] => malformed .unexpectedToken
    | k :: ks => .ok { s.mark 1 t with mayStartKey := false, candidate := k, candidates := ks }

/-- A comma between brackets. -/
def fetchComma (s : Layout) : Except Fault Layout :=
  s.dropCandidate.map fun s => { s.mark 1 .comma with mayStartKey := true }

/-- Something that opens a block may stand here. -/
def mayOpenBlock (s : Layout) : Bool := s.inFlow || s.mayStartKey

/-- The mark of an entry. -/
def fetchEntry (s : Layout) : Except Fault Layout :=
  if !s.mayOpenBlock then malformed .misplaced
  else
    (if s.inFlow then s else s.openBlockHere .blockSequence).dropCandidate.map fun s =>
      { s.mark 1 .entry with mayStartKey := true }

/-- The mark of a key. -/
def fetchKey (s : Layout) : Except Fault Layout :=
  if !s.mayOpenBlock then malformed .misplaced
  else
    (if s.inFlow then s else s.openBlockHere .blockMapping).dropCandidate.map fun s =>
      { s.mark 1 .key with mayStartKey := !s.inFlow }

/-- The mark of a value, which makes a key of the candidate. -/
def fetchValue (s : Layout) : Except Fault Layout :=
  match s.candidate with
  | some k =>
    let s := { s with candidate := none, mayStartKey := false }
    let s := s.insertAt k.tokens .key
    let s := if s.inFlow then s else
      match s.openBlock k.column with
      | some s' => s'.insertAt k.tokens .blockMapping
      | none => s
    .ok (s.mark 1 .value)
  | none =>
    if !s.mayOpenBlock then malformed .misplaced
    else
      let s := if s.inFlow then s else s.openBlockHere .blockMapping
      .ok { s.mark 1 .value with mayStartKey := !s.inFlow }

/-- Something that may be a key or the start of one: it is remembered, and no key starts right
behind it. -/
def fetchStart (read : Cursor → Except Fault (Token × Cursor)) (s : Layout) :
    Except Fault Layout := do
  let s ← s.remember
  let (t, c) ← read s.cursor
  return { s.push t with cursor := c, mayStartKey := false }

/-- A block scalar, which is never a key. -/
def fetchBlock (folded : Bool) (s : Layout) : Except Fault Layout := do
  let s ← s.dropCandidate
  let (text, c) ← blockScalar folded s.indent s.cursor
  return { s.push (.scalar (String.ofList text) false) with cursor := c, mayStartKey := true }

/-- A quoted scalar. -/
def fetchQuoted (style : QuoteStyle) : Layout → Except Fault Layout :=
  fetchStart fun c => do
    let (text, d) ← quotedScalar style c
    return (.scalar (String.ofList text) false, d)

/-- A plain scalar. -/
def fetchPlain (s : Layout) : Except Fault Layout := do
  let s ← s.remember
  let (text, crossed, c) := plainScalar s.inFlow (s.indent + 1) s.cursor
  return { s.push (.scalar (String.ofList text) true) with cursor := c, mayStartKey := crossed }

/-- A character that cannot start a plain scalar. -/
def isIndicator (c : Char) : Bool :=
  isGap c || isBreak c || isFlowMark c || "-?:#&*!|>'\"%@\x60".toList.contains c

/-- A plain scalar starts here: with an ordinary character, or with a mark that no blank follows. -/
def startsPlain (inFlow : Bool) : List Char → Bool
  | [] => false
  | c :: cs =>
    !isIndicator c || (!atBlankOrEnd cs && (c = '-' || (!inFlow && (c = '?' || c = ':'))))

/-- The token that starts with a character. -/
def fetchToken (ch : Char) (cs : List Char) (s : Layout) : Except Fault Layout :=
  if ch = '%' && s.column = 0 then s.fetchDirective
  else if s.column = 0 && isDocumentStart (ch :: cs) then s.fetchDocumentMark .documentStart
  else if s.column = 0 && isDocumentEnd (ch :: cs) then s.fetchDocumentMark .documentEnd
  else match ch with
    | '[' => s.fetchOpening .openSequence
    | '\x7b' => s.fetchOpening .openMapping
    | ']' => s.fetchClosing .closeSequence
    | '\x7d' => s.fetchClosing .closeMapping
    | ',' => s.fetchComma
    | '*' => s.fetchStart fun c => (anchorName c).map fun p => (.alias p.1, p.2)
    | '&' => s.fetchStart fun c => (anchorName c).map fun p => (.anchor p.1, p.2)
    | '!' => s.fetchStart fun c => (writtenTag c).map fun p => (.tag p.1, p.2)
    | '\'' => s.fetchQuoted .single
    | '"' => s.fetchQuoted .double
    | _ =>
      if ch = '-' && atBlankOrEnd cs then s.fetchEntry
      else if ch = '?' && (s.inFlow || atBlankOrEnd cs) then s.fetchKey
      else if ch = ':' && (s.inFlow || atBlankOrEnd cs) then s.fetchValue
      else if ch = '|' && !s.inFlow then s.fetchBlock false
      else if ch = '>' && !s.inFlow then s.fetchBlock true
      else if startsPlain s.inFlow (ch :: cs) then s.fetchPlain
      else malformed .noToken

/-- Reads the next token, and says whether the text has ended. -/
def next (s : Layout) : Except Fault (Layout × Bool) := do
  let s ← s.toToken.dropLapsed
  let s := s.closeBlocks s.column
  match s.cursor.rest with
  | [] => return (← (s.closeBlocks (-1)).dropCandidate, true)
  | ch :: cs => return (← s.fetchToken ch cs, false)

/-- The tokens in front of the first candidate: nothing that follows can change them. -/
def settled (s : Layout) : List Token :=
  let candidates := (s.candidate :: s.candidates).filterMap fun k =>
    k.filter fun k => !k.hasLapsed s.cursor
  let size := candidates.foldl (fun n k => min n k.tokens) s.size
  s.tokens.reverse.take size

/-- All tokens from some place on.  Every token takes a character of the text, so the length of the
text is fuel enough. -/
def fetchAll : (fuel : Nat) → Layout → Tokens
  | 0, s => ⟨s.settled, some (.malformed .noToken)⟩
  | fuel + 1, s =>
    match s.next with
    | .error f => ⟨s.settled, some f⟩
    | .ok (t, true) => ⟨t.tokens.reverse, none⟩
    | .ok (t, false) => fetchAll fuel t

end Layout

/-- The tokens of a text. -/
def tokens (text : List Char) : Tokens :=
  Layout.fetchAll (text.length + 1) { cursor := ⟨text, 0, 0, 0⟩ }

end Yaml
end ServiceCatalog
