import Templating.Destination
import Templating.Escape
import Templating.Text.Slice

/-!
# Escaped text

Text is escaped in place, by the byte offsets of its characters. `EscapedText.of?` borrows text
that has nothing to escape and else copies it from the first special character on.
`Action.writeEscaped` copies nothing: it hands over slices of the text and the entities between
them. Both cut the text, so both could cut it where it cannot be cut; `of?` has no result then, and
`writeEscaped` ends with a misuse.
-/

namespace Templating

inductive EscapedText where
  | borrowed (text : String)
  | owned (text : String)
  deriving DecidableEq, Repr, Inhabited

namespace EscapedText

def text : EscapedText → String
  | borrowed text | owned text => text

def isBorrowed : EscapedText → Bool
  | borrowed _ => true
  | owned _ => false

/-- Appends a character, or its entity. -/
def pushEscaped (output : String) (c : Char) : String :=
  match Escape.entity? c with
  | some entity => output ++ entity
  | none => output.push c

def of? (text : String) : Option EscapedText :=
  match (Text.charOffsets 0 text.toList).find? (Escape.isSpecial ·.2) with
  | none => some (borrowed text)
  | some (first, _) => do
    let clean ← Text.slice? text 0 first
    let rest ← Text.slice? text first text.utf8ByteSize
    pure (owned (rest.toList.foldl pushEscaped clean))

end EscapedText

namespace Action

variable {σ : Type} [Destination σ]

def writeSlice (text : String) (start stop : Nat) : Action σ Unit :=
  match Text.slice? text start stop with
  | some part => write part
  | none => misuse (.offsetOutsideText start)

/-- Walks over the characters of the text. What starts at the offset `last` was not handed over
yet. -/
def writeEscapedFrom (text : String) (last : Nat) : List (Nat × Char) → Action σ Unit
  | [] => if last < text.utf8ByteSize then writeSlice text last text.utf8ByteSize else pure ()
  | (offset, c) :: rest =>
    match Escape.entity? c with
    | some entity => do
      if last < offset then writeSlice text last offset
      write entity
      writeEscapedFrom text (offset + c.utf8Size) rest
    | none => writeEscapedFrom text last rest

def writeEscaped (text : String) : Action σ Unit :=
  writeEscapedFrom text 0 (Text.charOffsets 0 text.toList)

def writeEncoded (encoding : Encoding) (text : String) : Action σ Unit :=
  match encoding with
  | .html => writeEscaped text
  | .raw => write text

end Action

end Templating
