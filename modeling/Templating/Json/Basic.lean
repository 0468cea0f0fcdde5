import Templating.Decimal.Style

/-!
# JSON values

JSON documents and their compact text. Numbers are whole numbers, or binary floating point by its
bits; the keys of an object are in ascending order and differ from each other when the object was
made by `insert`.
-/

namespace Templating

inductive JsonNumber where
  | whole (value : Int)
  | real (bits : UInt64)
  deriving DecidableEq, Repr, Inhabited

inductive Json where
  | null
  | bool (value : Bool)
  | number (value : JsonNumber)
  | string (text : String)
  | array (items : List Json)
  | object (fields : List (String × Json))
  deriving Inhabited

namespace JsonNumber

/-- The fewest digits, with a point or an exponent. -/
def style : Decimal.NumberStyle :=
  { tie := .toEven, positional? := some (-5, 15), wholeEnd := ".0" }

def write : JsonNumber → String
  | whole (.ofNat n) => n.repr
  | whole (.negSucc n) => "-" ++ (n + 1).repr
  | real bits => style.write (Decimal.double.decode bits.toNat)

end JsonNumber

namespace Json

def escapeChar (c : Char) : List Char :=
  match c with
  | '"' => ['\\', '"']
  | '\\' => ['\\', '\\']
  | '\x08' => ['\\', 'b']
  | '\x0c' => ['\\', 'f']
  | '\n' => ['\\', 'n']
  | '\r' => ['\\', 'r']
  | '\t' => ['\\', 't']
  | c =>
    if c.toNat < 0x20 then
      '\\' :: 'u' :: '0' :: '0' :: Nat.digitChar (c.toNat / 16) :: [Nat.digitChar (c.toNat % 16)]
    else [c]

def writeString (text : String) : String :=
  String.ofList ('"' :: text.toList.flatMap escapeChar ++ ['"'])

mutual

/-- The text of a document, without blanks. -/
def write : Json → String
  | null => "null"
  | bool value => if value then "true" else "false"
  | number value => value.write
  | string text => writeString text
  | array items => "[" ++ ",".intercalate (writeItems items) ++ "]"
  | object fields => "\x7b" ++ ",".intercalate (writeFields fields) ++ "\x7d"

def writeItems : List Json → List String
  | [] => []
  | item :: items => write item :: writeItems items

def writeFields : List (String × Json) → List String
  | [] => []
  | (key, value) :: fields => (writeString key ++ ":" ++ write value) :: writeFields fields

end

/-- Puts a field in its place by the order of the keys. A key that is there gets the new value. -/
def insert (key : String) (value : Json) : List (String × Json) → List (String × Json)
  | [] => [(key, value)]
  | (k, v) :: fields =>
    if key = k then (key, value) :: fields
    else if key < k then (key, value) :: (k, v) :: fields
    else (k, v) :: insert key value fields

def field? (key : String) : Json → Option Json
  | object fields => fields.lookup key
  | _ => none

end Json

end Templating
