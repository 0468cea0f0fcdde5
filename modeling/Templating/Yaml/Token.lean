import Templating.Yaml.Tag

/-!
# Tokens

A document as a list of tokens. Indentation becomes pairs of tokens around blocks. Whether a text is
a key is known only at the colon behind it, so the lexer keeps the place of the last token that may
turn out to be one, and puts the tokens that open a mapping in front of it later. Such a key stands
on one line, and is no longer than 1024 bytes.
-/

namespace Templating.Yaml

inductive Token where
  | versionDirective
  | tagDirective (handle : String) (address : Address)
  | documentStart
  | documentEnd
  | blockSequenceStart
  | blockMappingStart
  | blockEnd
  | flowSequenceStart
  | flowSequenceEnd
  | flowMappingStart
  | flowMappingEnd
  | blockEntry
  | flowEntry
  | key
  | value
  | alias (name : String)
  | anchor (name : String)
  | tag (handle : String) (address : Address)
  | scalar (style : ScalarStyle) (text : String)
  deriving DecidableEq, Repr, Inhabited

/-- A token that may turn out to be a key. -/
structure KeyMark where
  /-- It starts a line of a block, where nothing but a key fits. -/
  required : Bool
  /-- Its place in the list of tokens. -/
  place : Nat
  line : Nat
  column : Nat
  index : Nat
  deriving Repr

structure Lexer where
  cursor : Cursor
  tokens : Array Token := #[]
  /-- The column of the innermost block; `-1` outside all blocks. -/
  indent : Int := -1
  outerIndents : List Int := []
  /-- The key marks of the flow collections around, innermost first, and of the block last. -/
  marks : List (Option KeyMark) := [none]
  keyAllowed : Bool := true
  deriving Repr

namespace Lexer

def inFlow (l : Lexer) : Bool :=
  1 < l.marks.length

def push (t : Token) (l : Lexer) : Lexer :=
  { l with tokens := l.tokens.push t }

def skip (n : Nat) (l : Lexer) : Lexer :=
  { l with cursor := l.cursor.skip n }

def allowKey (allowed : Bool) (l : Lexer) : Lexer :=
  { l with keyAllowed := allowed }

/-- Gives up a mark that is too far behind, unless a key has to be there. -/
def dropStale (c : Cursor) : Option KeyMark → Option (Option KeyMark)
  | none => some none
  | some k =>
    if k.line < c.line || k.index + 1024 < c.index then
      if k.required then none else some none
    else some (some k)

def dropStaleMarks (l : Lexer) : Option Lexer :=
  (l.marks.mapM (dropStale l.cursor)).map fun marks => { l with marks }

/-- Gives up the innermost mark, unless a key has to be there. -/
def dropMark (l : Lexer) : Option Lexer :=
  match l.marks with
  | some k :: outer => if k.required then none else some { l with marks := none :: outer }
  | _ => some l

/-- Marks the next token as a possible key. -/
def mark (l : Lexer) : Option Lexer :=
  if !l.keyAllowed then some l
  else
    (dropMark l).map fun l =>
      let c := l.cursor
      let required := !l.inFlow && l.indent == c.column
      { l with
        marks := some ⟨required, l.tokens.size, c.line, c.column, c.index⟩ :: l.marks.tail }

/-- Opens a block at a column if it is deeper than the block around; its token goes to a place in
the list. -/
def indentTo (column place : Nat) (t : Token) (l : Lexer) : Lexer :=
  if !l.inFlow && l.indent < column then
    { l with
      indent := column
      outerIndents := l.indent :: l.outerIndents
      tokens := l.tokens.insertIdxIfInBounds place t }
  else l

/-- Closes blocks that are deeper than a column. -/
def outdentTo (column : Int) (l : Lexer) : Lexer :=
  if l.inFlow then l else close l.outerIndents l
where
  close : List Int → Lexer → Lexer
    | [], l => l
    | outer :: rest, l =>
      if column < l.indent then
        close rest { l with
          indent := outer
          outerIndents := rest
          tokens := l.tokens.push .blockEnd }
      else l

/-- Skips blanks, comments and line breaks before the next token. A tab does not indent. A mark for
the byte order may start a line, and counts as a column of it. -/
def skipGaps : (fuel : Nat) → Lexer → Lexer
  | 0, l => l
  | fuel + 1, l =>
    match l.cursor.peek? with
    | some x =>
      if x == ' ' || (x == '\t' && (l.inFlow || !l.keyAllowed)) then skipGaps fuel (l.skip 1)
      else if x == '#' then
        skipGaps fuel { l with cursor := l.cursor.skipWhile fun y => !isBreak y }
      else if isBreak x then
        let l := l.skip 1
        skipGaps fuel (if l.inFlow then l else l.allowKey true)
      else if x == '\ufeff' && l.cursor.column == 0 then skipGaps fuel (l.skip 1)
      else l
    | none => l

/-- Ends every block. What comes next is a directive or a mark around a document. -/
def leaveBlocks (l : Lexer) : Option Lexer :=
  (l.outdentTo (-1)).dropMark.map (·.allowKey false)

/-- What follows a directive on its line may only be a comment. The line ends with the directive, so
that blanks at the start of the next one are no indentation. -/
def endLine (l : Lexer) : Option Lexer :=
  let c := l.cursor.skipComment
  if c.atBreakOrEnd then some { l with cursor := c.next } else none

/-- A part of a version number, of nine digits at most. -/
def readVersionPart (c : Cursor) : Option (Nat × Cursor) :=
  let (digits, c) := c.span Char.isDigit
  if digits.isEmpty || 9 < digits.length then none
  else some (digits.foldl (fun n d => n * 10 + (d.toNat - '0'.toNat)) 0, c)

/-- Reads a version, which is 1.1 or 1.2. -/
def readVersion (c : Cursor) : Option Cursor := do
  let (major, c) ← readVersionPart (c.skipWhile isBlank)
  if !c.sees 0 '.' then none
  let (minor, c) ← readVersionPart c.next
  if major == 1 && (minor == 1 || minor == 2) then some c else none

def readTagDirective (c : Cursor) : Option (Token × Cursor) := do
  let (handle, closed, c) ← readHandle (c.skipWhile isBlank)
  if !closed && handle != "!" then none
  if !c.gapAt 0 then none
  let (address, c) ← readAddress true false (c.skipWhile isBlank)
  if !c.gapAt 0 then none
  some (.tagDirective handle address, c)

def lexDirective (l : Lexer) : Option Lexer := do
  let l ← l.leaveBlocks
  let (name, c) := l.cursor.next.span isNameChar
  if !c.gapAt 0 then none
  match String.ofList name with
  | "YAML" =>
    let c ← readVersion c
    endLine { l.push .versionDirective with cursor := c }
  | "TAG" =>
    let (token, c) ← readTagDirective c
    endLine { l.push token with cursor := c }
  | _ => none

def lexMarker (token : Token) (l : Lexer) : Option Lexer :=
  l.leaveBlocks.map fun l => (l.push token).skip 3

def openFlow (token : Token) (l : Lexer) : Option Lexer :=
  l.mark.map fun l =>
    ({ l.push token with marks := none :: l.marks, keyAllowed := true }).skip 1

def closeFlow (token : Token) (l : Lexer) : Option Lexer :=
  l.dropMark.map fun l =>
    let marks := if l.inFlow then l.marks.tail else l.marks
    ({ l.push token with marks, keyAllowed := false }).skip 1

def lexFlowEntry (l : Lexer) : Option Lexer :=
  l.dropMark.map fun l => ((l.push .flowEntry).allowKey true).skip 1

def lexBlockEntry (l : Lexer) : Option Lexer :=
  if !l.inFlow && !l.keyAllowed then none
  else
    (l.indentTo l.cursor.column l.tokens.size .blockSequenceStart).dropMark.map fun l =>
      ((l.push .blockEntry).allowKey true).skip 1

def lexKey (l : Lexer) : Option Lexer :=
  if !l.inFlow && !l.keyAllowed then none
  else
    (l.indentTo l.cursor.column l.tokens.size .blockMappingStart).dropMark.map fun l =>
      ((l.push .key).allowKey !l.inFlow).skip 1

/-- A colon: what was marked is a key. Without a mark it stands for an empty key. -/
def lexValue (l : Lexer) : Option Lexer :=
  match l.marks with
  | some k :: outer =>
    let l := { l with marks := none :: outer, tokens := l.tokens.insertIdxIfInBounds k.place .key }
    let l := l.indentTo k.column k.place .blockMappingStart
    some (((l.push .value).allowKey false).skip 1)
  | _ =>
    if !l.inFlow && !l.keyAllowed then none
    else
      let l := l.indentTo l.cursor.column l.tokens.size .blockMappingStart
      some (((l.push .value).allowKey !l.inFlow).skip 1)

/-- The name of an anchor or an alias, behind its sign. -/
def lexName (make : String → Token) (l : Lexer) : Option Lexer := do
  let l ← l.mark
  let (name, c) := l.cursor.next.span isNameChar
  let ended := c.gapAt 0 || "?:,]\x7d%@`".toList.any (c.sees 0 ·)
  if name.isEmpty || !ended then none
  some { (l.push (make (String.ofList name))).allowKey false with cursor := c }

def lexTag (l : Lexer) : Option Lexer := do
  let l ← l.mark
  let (handle, address, c) ← readTag l.cursor
  if !(c.gapAt 0 || (l.inFlow && c.sees 0 ',')) then none
  some { (l.push (.tag handle address)).allowKey false with cursor := c }

def lexBlockScalar (literal : Bool) (l : Lexer) : Option Lexer := do
  let l ← l.dropMark
  let (text, c) ← readBlock literal l.indent l.cursor.next
  let style := if literal then ScalarStyle.literal else .folded
  some { (l.push (.scalar style text)).allowKey true with cursor := c }

def lexQuoted (quote : Char) (l : Lexer) : Option Lexer := do
  let l ← l.mark
  let c := l.cursor.next
  let (text, c) ← readQuoted quote [] .none (c.rest.length + 1) c
  some { (l.push (.scalar .quoted text)).allowKey false with cursor := c }

def lexPlain (l : Lexer) : Option Lexer := do
  let l ← l.mark
  let (text, passedBreak, c) ←
    readPlain l.inFlow (l.indent + 1) [] .none (l.cursor.rest.length + 1) l.cursor
  some { (l.push (.scalar .plain text)).allowKey passedBreak with cursor := c }

/-- Whether a plain scalar can begin with this character here. -/
def startsPlain (l : Lexer) (x : Char) : Bool :=
  let c := l.cursor
  !(isBlank x || isBreak x || "-?:,[]\x7b\x7d#&*!|>'\"%@`".toList.contains x) ||
    (x == '-' && !(match c.rest[1]? with | some y => isBlank y | none => false)) ||
    (!l.inFlow && (x == '?' || x == ':') && !c.gapAt 1)

/-- Reads one token, or the tokens that one place of the text stands for. -/
def lexOne (x : Char) (l : Lexer) : Option Lexer :=
  let c := l.cursor
  if c.column == 0 && x == '%' then l.lexDirective
  else if c.atMarker '-' then l.lexMarker .documentStart
  else if c.atMarker '.' then l.lexMarker .documentEnd
  else if x == '[' then l.openFlow .flowSequenceStart
  else if x == '\x7b' then l.openFlow .flowMappingStart
  else if x == ']' then l.closeFlow .flowSequenceEnd
  else if x == '\x7d' then l.closeFlow .flowMappingEnd
  else if x == ',' then l.lexFlowEntry
  else if x == '-' && c.gapAt 1 then l.lexBlockEntry
  else if x == '?' && (l.inFlow || c.gapAt 1) then l.lexKey
  else if x == ':' && (l.inFlow || c.gapAt 1) then l.lexValue
  else if x == '*' then l.lexName .alias
  else if x == '&' then l.lexName .anchor
  else if x == '!' then l.lexTag
  else if x == '|' && !l.inFlow then l.lexBlockScalar true
  else if x == '>' && !l.inFlow then l.lexBlockScalar false
  else if x == '\'' || x == '"' then l.lexQuoted x
  else if l.startsPlain x then l.lexPlain
  else none

def lexAll : (fuel : Nat) → Lexer → Option (Array Token)
  | 0, _ => none
  | fuel + 1, l =>
    match (l.skipGaps (l.cursor.rest.length + 1)).dropStaleMarks with
    | none => none
    | some l =>
      match l.cursor.peek? with
      | none => (l.outdentTo (-1)).dropMark.map (·.tokens)
      | some x =>
        match (l.outdentTo l.cursor.column).lexOne x with
        | none => none
        | some l => lexAll fuel l

end Lexer

/-- The tokens of a document. -/
def Token.ofText? (text : String) : Option (List Token) := do
  let cursor ← Cursor.ofText? text
  let tokens ← Lexer.lexAll (cursor.rest.length + 1) { cursor }
  some tokens.toList

end Templating.Yaml
