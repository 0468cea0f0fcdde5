import Templating.Yaml.Scalar

/-!
# Tags

A tag says of what kind a node is. It is written in full, or as an address behind a handle that
stands for its first part. An address is made of bytes: a percent sign and two hexadecimal digits
spell any byte, and other characters stand for themselves. Spelled bytes follow each other in the
pattern of UTF-8, but need not be valid; a zero byte ends the address.
-/

namespace Templating.Yaml

abbrev Address := List UInt8

/-- The bytes of a text. -/
def Address.ofText (text : String) : Address :=
  text.toList.flatMap String.utf8EncodeChar

/-- The address of the tag that is only a mark. -/
def Address.mark : Address :=
  .ofText "!"

/-- How many bytes go on with a character after its first byte. -/
def followers? (byte : Nat) : Option Nat :=
  if byte < 0x80 then some 0
  else if byte < 0xc0 then none
  else if byte < 0xe0 then some 1
  else if byte < 0xf0 then some 2
  else if byte < 0xf8 then some 3
  else none

/-- The bytes that characters of an address stand for, when `missing` bytes are to come first that
go on with a spelled character. -/
def spelledBytes? (missing : Nat) : List Char → Option (List UInt8)
  | '%' :: a :: b :: s => do
    let byte := 16 * (← hexDigit? a) + (← hexDigit? b)
    let missing ←
      match missing with
      | 0 => followers? byte
      | more + 1 => if 0x80 ≤ byte && byte < 0xc0 then some more else none
    let rest ← spelledBytes? missing s
    some (UInt8.ofNat byte :: rest)
  | c :: s => do
    if missing != 0 || c == '%' then none
    let rest ← spelledBytes? 0 s
    some (UInt8.ofNat c.toNat :: rest)
  | [] => if missing = 0 then some [] else none

def Address.ofSpelling? (s : List Char) : Option Address :=
  (spelledBytes? 0 s).map fun bytes => bytes.takeWhile (· != 0)

def isNameChar (c : Char) : Bool :=
  c.isAlphanum || c == '_' || c == '-'

/-- The characters of an address; indicators of flow collections only in a verbatim one. -/
def isAddressChar (verbatim : Bool) (c : Char) : Bool :=
  isNameChar c || ";/?:@&=+$.%!~*'()".toList.contains c ||
    (verbatim && (c == ',' || c == '[' || c == ']'))

/-- Reads an address, which may be empty only if `mayBeEmpty` holds. -/
def readAddress (verbatim mayBeEmpty : Bool) (c : Cursor) : Option (Address × Cursor) := do
  let (spelling, c) := c.span (isAddressChar verbatim)
  if spelling.isEmpty && !mayBeEmpty then none
  let address ← Address.ofSpelling? spelling
  some (address, c)

/-- A handle: an exclamation mark, or a name between two of them. The value says whether it is
closed. -/
def readHandle (c : Cursor) : Option (String × Bool × Cursor) :=
  if !c.sees 0 '!' then none
  else
    let (name, c) := c.next.span isNameChar
    if c.sees 0 '!' then some (String.ofList ('!' :: name ++ ['!']), true, c.next)
    else some (String.ofList ('!' :: name), false, c)

/-- Reads a tag: verbatim, by a handle and an address, or local. There is no handle in front of a
verbatim one. -/
def readTag (c : Cursor) : Option (String × Address × Cursor) := do
  if c.sees 1 '<' then
    let (address, c) ← readAddress true false (c.skip 2)
    if !c.sees 0 '>' then none
    some ("", address, c.next)
  else
    let (handle, closed, d) ← readHandle c
    if closed then
      let (address, d) ← readAddress false false d
      some (handle, address, d)
    else
      let (address, d) ← readAddress false true c.next
      if address.isEmpty then some ("", .mark, d) else some ("!", address, d)

end Templating.Yaml
