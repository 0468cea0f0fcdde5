import Templating.Json.Basic

/-!
# Reading JSON

A document is read from characters; a reading function returns the rest of the text. Whole numbers
that fit 64 bits are read exactly. Any other number is read as floating point in the following way:
the digits are collected for as long as they fit 64 bits, and the result is scaled once by a power
of ten, so the last bit may differ from that of the nearest value.
-/

namespace Templating.Json

/-- What is left to read. -/
abbrev Rest := List Char

def isBlank (c : Char) : Bool :=
  c == ' ' || c == '\n' || c == '\r' || c == '\t'

def skipBlanks (s : Rest) : Rest :=
  s.dropWhile isBlank

def wordLimit : Nat :=
  Nat.pow 2 64

def digitValue (c : Char) : Nat :=
  c.toNat - '0'.toNat

/-- Collects digits for as long as the value fits a word. Returns their value, how many there
were, and the rest, which starts with the digit that did not fit, if there is one. -/
def collect (value count : Nat) : Rest → Nat × Nat × Rest
  | c :: s =>
    if c.isDigit then
      let next := value * 10 + digitValue c
      if next < wordLimit then collect next (count + 1) s else (value, count, c :: s)
    else (value, count, c :: s)
  | [] => (value, count, [])

/-- The number of leading digits, and the rest. -/
def skipDigits (s : Rest) : Nat × Rest :=
  ((s.takeWhile Char.isDigit).length, s.dropWhile Char.isDigit)

def atDigit : Rest → Bool
  | c :: _ => c.isDigit
  | [] => false

/-- `value * 10 ^ exponent`, scaled in steps that a power of ten allows. There is no value beyond
the greatest finite one. -/
def scale (value : Float) : Nat → Int → Option Float
  | 0, _ => some value
  | fuel + 1, exponent =>
    if exponent.natAbs ≤ 308 then
      let power := Float.ofScientific 1 false exponent.natAbs
      if 0 ≤ exponent then
        let product := value * power
        if product.isInf then none else some product
      else some (value / power)
    else if value == 0 then some value
    else if 0 ≤ exponent then none
    else scale (value / Float.ofScientific 1 false 308) fuel (exponent + 308)

/-- The number made of collected digits and a power of ten. -/
def ofParts (negative : Bool) (digits : Nat) (exponent : Int) : Option JsonNumber :=
  (scale (Float.ofNat digits) 12 exponent).map fun value =>
    .real (if negative then -value else value).toBits

/-- Exponents beyond this are out of range. -/
def exponentLimit : Nat :=
  Nat.pow 2 31

/-- Reads an exponent behind its letter. -/
def readExponent (negative : Bool) (digits : Nat) (start : Int) (s : Rest) :
    Option (JsonNumber × Rest) :=
  let (down, s) :=
    match s with
    | '+' :: s => (false, s)
    | '-' :: s => (true, s)
    | s => (false, s)
  if !atDigit s then none
  else
    let size := (s.takeWhile Char.isDigit).foldl (fun n c => n * 10 + digitValue c) 0
    let rest := s.dropWhile Char.isDigit
    let exponent : Int := if down then start - size else start + size
    if size < exponentLimit then (ofParts negative digits exponent).map (·, rest)
    else if digits = 0 || down then (ofParts negative 0 0).map (·, rest)
    else none

/-- Goes on behind the digits before or after the point. -/
def readScaled (negative : Bool) (digits : Nat) (exponent : Int) (s : Rest) :
    Option (JsonNumber × Rest) :=
  match s with
  | 'e' :: s | 'E' :: s => readExponent negative digits exponent s
  | s => (ofParts negative digits exponent).map (·, s)

/-- Reads what follows the point. Digits that do not fit are dropped. -/
def readFraction (negative : Bool) (digits : Nat) (exponent : Int) (s : Rest) :
    Option (JsonNumber × Rest) :=
  if !atDigit s then none
  else
    let (digits, count, s) := collect digits 0 s
    readScaled negative digits (exponent - count) (skipDigits s).2

/-- The whole number of these digits. Zero with a sign, and what does not fit, is no whole
number. -/
def ofDigits (negative : Bool) (digits : Nat) : Option JsonNumber :=
  if !negative then some (.whole digits)
  else if digits = 0 || Nat.pow 2 63 < digits then ofParts true digits 0
  else some (.whole (-digits))

def readUnsigned (negative : Bool) (s : Rest) : Option (JsonNumber × Rest) :=
  match s with
  | '0' :: s => if atDigit s then none else behindDigits 0 0 s
  | s =>
    if !atDigit s then none
    else
      let (digits, _, s) := collect 0 0 s
      let (dropped, s) := skipDigits s
      behindDigits digits dropped s
where
  behindDigits (digits dropped : Nat) (s : Rest) : Option (JsonNumber × Rest) :=
    match s with
    | '.' :: s => readFraction negative digits dropped s
    | 'e' :: _ | 'E' :: _ => readScaled negative digits dropped s
    | s =>
      if dropped = 0 then (ofDigits negative digits).map (·, s)
      else (ofParts negative digits dropped).map (·, s)

def readNumber (s : Rest) : Option (JsonNumber × Rest) :=
  match s with
  | '-' :: s => readUnsigned true s
  | s => readUnsigned false s

def hexValue? (c : Char) : Option Nat :=
  if c.isDigit then some (digitValue c)
  else if 'a' ≤ c && c ≤ 'f' then some (c.toNat - 'a'.toNat + 10)
  else if 'A' ≤ c && c ≤ 'F' then some (c.toNat - 'A'.toNat + 10)
  else none

/-- Reads four hexadecimal digits. -/
def readUnit : Rest → Option (Nat × Rest)
  | a :: b :: c :: d :: s => do
    let a ← hexValue? a
    let b ← hexValue? b
    let c ← hexValue? c
    let d ← hexValue? d
    some (((a * 16 + b) * 16 + c) * 16 + d, s)
  | _ => none

/-- Reads the character of an escape behind its `u`. A character outside the basic plane takes two
escapes. -/
def readCodeEscape (s : Rest) : Option (Char × Rest) := do
  let (high, s) ← readUnit s
  if 0xd800 ≤ high && high < 0xdc00 then
    match s with
    | '\\' :: 'u' :: s =>
      let (low, s) ← readUnit s
      if 0xdc00 ≤ low && low < 0xe000 then
        some (Char.ofNat (0x10000 + (high - 0xd800) * 0x400 + (low - 0xdc00)), s)
      else none
    | _ => none
  else if 0xdc00 ≤ high && high < 0xe000 then none
  else some (Char.ofNat high, s)

def simpleEscape? : Char → Option Char
  | '"' => some '"'
  | '\\' => some '\\'
  | '/' => some '/'
  | 'b' => some '\x08'
  | 'f' => some '\x0c'
  | 'n' => some '\n'
  | 'r' => some '\r'
  | 't' => some '\t'
  | _ => none

/-- Reads a string behind its opening quote; `text` holds what was read, latest first. -/
def readString (text : List Char) : (fuel : Nat) → Rest → Option (String × Rest)
  | 0, _ => none
  | fuel + 1, s =>
    match s with
    | [] => none
    | '"' :: s => some (String.ofList text.reverse, s)
    | '\\' :: 'u' :: s =>
      match readCodeEscape s with
      | some (c, s) => readString (c :: text) fuel s
      | none => none
    | '\\' :: c :: s =>
      match simpleEscape? c with
      | some c => readString (c :: text) fuel s
      | none => none
    | c :: s => if c.toNat < 0x20 then none else readString (c :: text) fuel s

mutual

/-- Reads a value at the start of the text. -/
def readValue : (fuel : Nat) → Rest → Option (Json × Rest)
  | 0, _ => none
  | fuel + 1, s =>
    match skipBlanks s with
    | 'n' :: 'u' :: 'l' :: 'l' :: s => some (.null, s)
    | 't' :: 'r' :: 'u' :: 'e' :: s => some (.bool true, s)
    | 'f' :: 'a' :: 'l' :: 's' :: 'e' :: s => some (.bool false, s)
    | '"' :: s => (readString [] fuel s).map fun (text, s) => (.string text, s)
    | '[' :: s =>
      match skipBlanks s with
      | ']' :: s => some (.array [], s)
      | s => readItems fuel [] s
    | '\x7b' :: s =>
      match skipBlanks s with
      | '\x7d' :: s => some (.object [], s)
      | s => readFields fuel [] s
    | s => (readNumber s).map fun (value, s) => (.number value, s)

/-- Reads the items of an array, of which there is at least one more. -/
def readItems : (fuel : Nat) → List Json → Rest → Option (Json × Rest)
  | 0, _, _ => none
  | fuel + 1, items, s =>
    match readValue fuel s with
    | none => none
    | some (item, s) =>
      match skipBlanks s with
      | ',' :: s => readItems fuel (item :: items) s
      | ']' :: s => some (.array (item :: items).reverse, s)
      | _ => none

/-- Reads the fields of an object, of which there is at least one more. -/
def readFields : (fuel : Nat) → List (String × Json) → Rest → Option (Json × Rest)
  | 0, _, _ => none
  | fuel + 1, fields, s =>
    match skipBlanks s with
    | '"' :: s =>
      match readString [] fuel s with
      | none => none
      | some (key, s) =>
        match skipBlanks s with
        | ':' :: s =>
          match readValue fuel s with
          | none => none
          | some (value, s) =>
            let fields := insert key value fields
            match skipBlanks s with
            | ',' :: s => readFields fuel fields s
            | '\x7d' :: s => some (.object fields, s)
            | _ => none
        | _ => none
    | _ => none

end

/-- Reads a whole document. -/
def read? (text : String) : Option Json :=
  let s := text.toList
  match readValue (s.length + 1) s with
  | some (value, s) => if (skipBlanks s).isEmpty then some value else none
  | none => none

end Templating.Json
