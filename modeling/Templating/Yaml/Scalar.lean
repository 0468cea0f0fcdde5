import Templating.Yaml.Cursor

/-!
# Scalars

The texts of a document: plain, between quotes, or as a block of lines. A line break inside a plain
or a quoted scalar is folded: one break becomes a space, and of more the first is dropped. Reading
functions return the text and the cursor behind it, or nothing if the scalar is malformed.
-/

namespace Templating.Yaml

/-- How a scalar is written. Whether a text may stand for a number depends on it. -/
inductive ScalarStyle where
  | plain | quoted
  /-- A block that keeps its line breaks. -/
  | literal
  /-- A block that folds its line breaks. -/
  | folded
  deriving DecidableEq, Repr, Inhabited

/-- The blanks and breaks between two words of a scalar, latest first. -/
inductive Gap where
  | blanks (run : List Char)
  /-- The first break, unless it was escaped, and the breaks after it. -/
  | breaks (first? : Option Char) (more : List Char)
  deriving Repr

namespace Gap

def none : Gap :=
  blanks []

def isNone : Gap → Bool
  | blanks [] => true
  | _ => false

def hasBreak : Gap → Bool
  | blanks _ => false
  | breaks .. => true

/-- What the gap becomes in the text. -/
def fold : Gap → List Char
  | blanks run => run.reverse
  | breaks (some '\n') [] => [' ']
  | breaks (some '\n') more => more.reverse
  | breaks (some c) more => c :: more.reverse
  | breaks .none more => more.reverse

/-- Takes one more blank or break. Blanks at the start of a line do not count. -/
def add (c : Char) : Gap → Gap
  | blanks run => if isBreak c then breaks (some c) [] else blanks (c :: run)
  | breaks first? more => if isBreak c then breaks first? (c :: more) else breaks first? more

end Gap

/-- The text read so far, latest first, with a gap and then one more character. -/
def extend (text : List Char) (gap : Gap) (c : Char) : List Char :=
  c :: gap.fold.reverse ++ text

def isFlowIndicator (c : Char) : Bool :=
  c == ',' || c == '[' || c == ']' || c == '\x7b' || c == '\x7d'

/-- Whether a plain scalar ends before its next character. -/
def endsPlain (flow : Bool) (c : Cursor) (x : Char) : Bool :=
  (x == ':' && c.gapAt 1) || (flow && isFlowIndicator x)

/-- A colon that may not stand in a flow collection. -/
def strayColon (flow : Bool) (c : Cursor) (x : Char) : Bool :=
  flow && x == ':' &&
    match c.rest[1]? with
    | some y => isFlowIndicator y || y == '?'
    | none => false

/-- Reads a plain scalar whose lines are indented by `indent` at least. The value also says whether
a line break was passed at the end. -/
def readPlain (flow : Bool) (indent : Int) (text : List Char) (gap : Gap) :
    (fuel : Nat) → Cursor → Option (String × Bool × Cursor)
  | 0, _ => none
  | fuel + 1, c =>
    let stop := some (String.ofList text.reverse, gap.hasBreak, c)
    match c.peek? with
    | none => stop
    | some x =>
      if isBlank x || isBreak x then
        if gap.hasBreak && x == '\t' && c.column < indent then none
        else readPlain flow indent text (gap.add x) fuel c.next
      else if !flow && !gap.isNone && c.column < indent then stop
      else if c.atDocumentMarker then stop
      else if x == '#' && !gap.isNone then stop
      else if strayColon flow c x then none
      else if endsPlain flow c x then stop
      else readPlain flow indent (extend text gap x) .none fuel c.next

def hexDigit? (c : Char) : Option Nat :=
  if '0' ≤ c && c ≤ '9' then some (c.toNat - '0'.toNat)
  else if 'a' ≤ c && c ≤ 'f' then some (c.toNat - 'a'.toNat + 10)
  else if 'A' ≤ c && c ≤ 'F' then some (c.toNat - 'A'.toNat + 10)
  else none

/-- The character with this code point, written in that many hexadecimal digits. -/
def codeChar? (digits : List Char) (width : Nat) : Option Char := do
  let values ← (digits.take width).mapM hexDigit?
  let code := values.foldl (fun n d => n * 16 + d) 0
  if values.length = width && code.isValidChar then some (Char.ofNat code) else none

def simpleEscape? : Char → Option Char
  | '0' => some '\x00'
  | 'a' => some '\x07'
  | 'b' => some '\x08'
  | 't' | '\t' => some '\t'
  | 'n' => some '\n'
  | 'v' => some '\x0b'
  | 'f' => some '\x0c'
  | 'r' => some '\r'
  | 'e' => some '\x1b'
  | ' ' => some ' '
  | '"' => some '"'
  | '/' => some '/'
  | '\\' => some '\\'
  | 'N' => some '\u0085'
  | '_' => some '\u00a0'
  | 'L' => some '\u2028'
  | 'P' => some '\u2029'
  | _ => none

/-- The character of an escape behind its backslash, and how many characters it takes there. -/
def escape? (s : List Char) : Option (Char × Nat) :=
  match s with
  | 'x' :: digits => (codeChar? digits 2).map (·, 3)
  | 'u' :: digits => (codeChar? digits 4).map (·, 5)
  | 'U' :: digits => (codeChar? digits 8).map (·, 9)
  | c :: _ => (simpleEscape? c).map (·, 1)
  | [] => none

/-- Reads a quoted scalar behind its opening quote. Only double quotes know escapes; a single quote
is written twice. -/
def readQuoted (quote : Char) (text : List Char) (gap : Gap) :
    (fuel : Nat) → Cursor → Option (String × Cursor)
  | 0, _ => none
  | fuel + 1, c =>
    match c.peek? with
    | none => none
    | some x =>
      if c.atDocumentMarker then none
      else if isBlank x || isBreak x then readQuoted quote text (gap.add x) fuel c.next
      else if x == quote then
        if quote == '\'' && c.sees 1 '\'' then
          readQuoted quote (extend text gap x) .none fuel (c.skip 2)
        else some (String.ofList (gap.fold.reverse ++ text).reverse, c.next)
      else if quote == '"' && x == '\\' then
        if c.next.atBreakOrEnd then
          readQuoted quote (gap.fold.reverse ++ text) (.breaks .none []) fuel (c.skip 2)
        else
          match escape? c.next.rest with
          | some (y, size) => readQuoted quote (extend text gap y) .none fuel (c.skip (size + 1))
          | none => none
      else readQuoted quote (extend text gap x) .none fuel c.next

/-- What becomes of the line breaks at the end of a block. -/
inductive Chomping where
  | strip | clip | keep
  deriving DecidableEq, Repr

/-- The signs behind the mark of a block: how it ends, and its indentation, in either order. -/
def readBlockSigns (c : Cursor) : Option (Chomping × Nat × Cursor) :=
  let chomping? (c : Cursor) : Option Chomping :=
    if c.sees 0 '+' then some .keep else if c.sees 0 '-' then some .strip else none
  let width? (c : Cursor) : Option Nat := do
    let x ← c.peek?
    if x.isDigit then some (x.toNat - '0'.toNat) else none
  match chomping? c, width? c with
  | some chomping, _ =>
    match width? c.next with
    | some 0 => none
    | some width => some (chomping, width, c.skip 2)
    | none => some (chomping, 0, c.next)
  | none, some 0 => none
  | none, some width =>
    match chomping? c.next with
    | some chomping => some (chomping, width, c.skip 2)
    | none => some (.clip, width, c.next)
  | none, none => some (.clip, 0, c)

/-- Skips the indentation of a line and empty lines. Returns the breaks passed, latest first, and
the widest indentation seen; `indent` is `0` while it is not known. A tab may not indent. -/
def skipIndentation (indent : Nat) (breaks : List Char) (widest : Nat) :
    (fuel : Nat) → Cursor → Option (List Char × Nat × Cursor)
  | 0, _ => none
  | fuel + 1, c =>
    let inside := indent == 0 || c.column < indent
    match c.peek? with
    | some ' ' =>
      if inside then skipIndentation indent breaks widest fuel c.next
      else some (breaks, max widest c.column, c)
    | some '\t' => if inside then none else some (breaks, max widest c.column, c)
    | some x =>
      if isBreak x then skipIndentation indent (x :: breaks) (max widest c.column) fuel c.next
      else some (breaks, max widest c.column, c)
    | none => some (breaks, max widest c.column, c)

/-- Reads the lines of a block. `last` is the break behind the line before, `breaks` the empty
lines after it, both latest first, and `indented` says that the line before began with a blank. -/
def readBlockLines (literal : Bool) (chomping : Chomping) (indent : Nat) (text : List Char)
    (last breaks : List Char) (indented : Bool) : (fuel : Nat) → Cursor → Option (String × Cursor)
  | 0, _ => none
  | fuel + 1, c =>
    match c.peek? with
    | some x =>
      if c.column == indent then
        let blank := isBlank x
        let joint :=
          if !literal && last == ['\n'] && !indented && !blank then
            if breaks.isEmpty then [' '] else []
          else last
        let (line, c) := c.span fun x => !isBreak x
        let text := line.reverse ++ (breaks ++ (joint ++ text))
        let last := (c.peek?).toList
        match skipIndentation indent [] 0 (c.rest.length + 1) c.next with
        | some (breaks, _, c) =>
          readBlockLines literal chomping indent text last breaks blank fuel c
        | none => none
      else finish c
    | none => finish c
where
  finish (c : Cursor) : Option (String × Cursor) :=
    let tail :=
      match chomping with
      | .strip => []
      | .clip => last
      | .keep => breaks ++ last
    some (String.ofList (tail ++ text).reverse, c)

/-- Reads a block behind its mark, inside a collection at the column `parent`. -/
def readBlock (literal : Bool) (parent : Int) (c : Cursor) : Option (String × Cursor) :=
  match readBlockSigns c with
  | none => none
  | some (chomping, width, c) =>
    let c := c.skipComment
    if !c.atBreakOrEnd then none
    else
      let c := c.next
      let fuel := c.rest.length + 1
      let known := if width = 0 then 0 else (max parent 0).toNat + width
      match skipIndentation known [] 0 fuel c with
      | none => none
      | some (breaks, widest, c) =>
        let indent := if known = 0 then max (max widest (parent + 1).toNat) 1 else known
        readBlockLines literal chomping indent [] [] breaks false (fuel + 1) c

end Templating.Yaml
