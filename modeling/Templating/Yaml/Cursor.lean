/-!
# Reading position in a document

A document is read as characters in which every line break is one character. `Cursor.ofText?` makes
them out of a text: the usual breaks become line feeds, and characters that may not stand in a
document are refused.
-/

namespace Templating.Yaml

def isBreak (c : Char) : Bool :=
  c == '\n' || c == '\u2028' || c == '\u2029'

def isBlank (c : Char) : Bool :=
  c == ' ' || c == '\t'

/-- What may stand in a document. -/
def isPrintable (c : Char) : Bool :=
  let n := c.toNat
  n == 0x9 || n == 0xa || n == 0xd || (0x20 ≤ n && n ≤ 0x7e) || n == 0x85 ||
    (0xa0 ≤ n && n ≤ 0xfffd) || 0x10000 ≤ n

/-- Line breaks of two characters, and the less usual ones, as line feeds. -/
def unifyBreaks : List Char → List Char
  | '\r' :: '\n' :: s => '\n' :: unifyBreaks s
  | c :: s => (if c == '\r' || c == '\u0085' then '\n' else c) :: unifyBreaks s
  | [] => []

structure Cursor where
  rest : List Char
  line : Nat := 0
  column : Nat := 0
  /-- Counts the bytes that were passed, and every line break as one. -/
  index : Nat := 0
  deriving Repr, Inhabited

namespace Cursor

def ofText? (text : String) : Option Cursor :=
  if text.toList.all isPrintable then some { rest := unifyBreaks text.toList } else none

def next (c : Cursor) : Cursor :=
  match c.rest with
  | [] => c
  | x :: rest =>
    if isBreak x then { rest, line := c.line + 1, column := 0, index := c.index + 1 }
    else { rest, line := c.line, column := c.column + 1, index := c.index + x.utf8Size }

def skip (c : Cursor) : Nat → Cursor
  | 0 => c
  | n + 1 => c.next.skip n

def peek? (c : Cursor) : Option Char :=
  c.rest.head?

/-- The character that many places on is `x`. -/
def sees (c : Cursor) (offset : Nat) (x : Char) : Bool :=
  c.rest[offset]? == some x

/-- A blank, a line break or the end of the document stands that many places on. -/
def gapAt (c : Cursor) (offset : Nat) : Bool :=
  match c.rest[offset]? with
  | some x => isBlank x || isBreak x
  | none => true

def atBreakOrEnd (c : Cursor) : Bool :=
  match c.peek? with
  | some x => isBreak x
  | none => true

/-- Three marks at the start of a line that begin or end a document. -/
def atMarker (c : Cursor) (mark : Char) : Bool :=
  c.column == 0 && c.sees 0 mark && c.sees 1 mark && c.sees 2 mark && c.gapAt 3

def atDocumentMarker (c : Cursor) : Bool :=
  c.atMarker '-' || c.atMarker '.'

/-- Collects characters while `p` holds. -/
def span (c : Cursor) (p : Char → Bool) : List Char × Cursor :=
  let taken := c.rest.takeWhile p
  (taken, c.skip taken.length)

def skipWhile (c : Cursor) (p : Char → Bool) : Cursor :=
  (c.span p).2

/-- Skips blanks, and a comment up to the end of the line. -/
def skipComment (c : Cursor) : Cursor :=
  let c := c.skipWhile isBlank
  if c.sees 0 '#' then c.skipWhile fun x => !isBreak x else c

end Cursor

end Templating.Yaml
