import Templating.Config.Basic
import Templating.Yaml.Node

/-!
# Configuration documents

A configuration is written as a mapping of four keys. Read from a document, a key that is missing
has its default, a key that is not known is passed over, and a known key that comes twice is an
error. What was read is validated.
-/

namespace Templating.Config

open Yaml (Address Node)

/-- The words for truth values in a plain scalar. -/
def readBool? : String → Option Bool
  | "true" | "True" | "TRUE" => some true
  | "false" | "False" | "FALSE" => some false
  | _ => none

/-- The value of a digit below a base. -/
def digit? (base : Nat) (c : Char) : Option Nat :=
  let value :=
    if c.isDigit then c.toNat - '0'.toNat
    else if 'a' ≤ c && c ≤ 'f' then c.toNat - 'a'.toNat + 10
    else if 'A' ≤ c && c ≤ 'F' then c.toNat - 'A'.toNat + 10
    else base
  if value < base then some value else none

/-- A word of 64 bits, written in a base. -/
def readDigits? (base : Nat) (digits : List Char) : Option Nat := do
  let values ← digits.mapM (digit? base)
  let n := values.foldl (fun n d => n * base + d) 0
  if values.isEmpty || Nat.pow 2 64 ≤ n then none else some n

/-- A number without a sign: decimal without leading zeros, or behind `0x`, `0o` or `0b`. -/
def readNumeral? : List Char → Option Nat
  | '0' :: 'x' :: s => readDigits? 16 s
  | '0' :: 'o' :: s => readDigits? 8 s
  | '0' :: 'b' :: s => readDigits? 2 s
  | ['0'] => some 0
  | '0' :: _ => none
  | s => readDigits? 10 s

/-- A number in a plain scalar. A plus sign may stand in front. -/
def readNat? (text : String) : Option Nat :=
  match text.toList with
  | '+' :: s => readNumeral? s
  | s => readNumeral? s

def isNullWord (text : String) : Bool :=
  text == "" || text == "~" || text == "null" || text == "Null" || text == "NULL"

/-- A tag of the document's own, without its mark. What is no text does not count. -/
def localTag? (tag? : Option Address) : Option String :=
  match tag? with
  | some (0x21 :: name) =>
    if name.isEmpty then some "!" else String.fromUTF8? ⟨name.toArray⟩
  | _ => none

/-- An encoding is a scalar of any kind, or the tag of a missing value. -/
def readEncoding? : Node → Option Encoding
  | .scalar style tag? text =>
    match localTag? tag? with
    | some name => if style = .plain && isNullWord text then Encoding.ofName? name else none
    | none => Encoding.ofName? text
  | _ => none

/-- The text of a scalar that may stand for more than a text: of a plain one, or of a literal block
whose tag says so. -/
def wordOf? (tag : String) : Node → Option String
  | .scalar .plain _ text => some text
  | .scalar .literal tag? text =>
    if tag? = some (.ofText ("tag:yaml.org,2002:" ++ tag)) then some text else none
  | _ => none

/-- What a document sets. -/
structure Settings where
  encoding? : Option Encoding := none
  bufferCapacity? : Option Nat := none
  strictAttributeCount? : Option Bool := none
  requireLayoutBody? : Option Bool := none
  deriving DecidableEq, Repr, Inhabited

namespace Settings

/-- Sets a value that was not set before. -/
def once {α : Type} (before : Option α) (value? : Option α) : Option (Option α) :=
  match before with
  | some _ => none
  | none => value?.map some

def set (key : String) (value : Node) (s : Settings) : Option Settings :=
  match key with
  | "encoding" =>
    (once s.encoding? (readEncoding? value)).map fun encoding? => { s with encoding? }
  | "buffer_capacity" =>
    (once s.bufferCapacity? ((wordOf? "int" value).bind readNat?)).map fun bufferCapacity? =>
      { s with bufferCapacity? }
  | "strict_attribute_count" =>
    (once s.strictAttributeCount? ((wordOf? "bool" value).bind readBool?)).map
      fun strictAttributeCount? => { s with strictAttributeCount? }
  | "require_layout_body" =>
    (once s.requireLayoutBody? ((wordOf? "bool" value).bind readBool?)).map
      fun requireLayoutBody? => { s with requireLayoutBody? }
  | _ => some s

/-- Keys are scalars. -/
def ofFields (fields : List (Node × Node)) : Option Settings :=
  fields.foldlM (fun s (key, value) =>
    match key with
    | .scalar _ _ name => s.set name value
    | _ => none) {}

def config (s : Settings) : Config :=
  let c : Config := {}
  { encoding := s.encoding?.getD c.encoding
    bufferCapacity := s.bufferCapacity?.getD c.bufferCapacity
    strictAttributeCount := s.strictAttributeCount?.getD c.strictAttributeCount
    requireLayoutBody := s.requireLayoutBody?.getD c.requireLayoutBody }

end Settings

/-- The fields of a document. A document without content has none. -/
def fields? (text : String) : Option (List (Node × Node)) :=
  match Yaml.Document.ofText? text with
  | some none => some []
  | some (some document) =>
    match document.root with
    | .scalar .plain _ "" => some []
    | .mapping _ fields =>
      some (fields.map fun (key, value) => (document.follow key, document.follow value))
    | _ => none
  | none => none

/-- Reads and validates a document. -/
def ofYaml (text : String) : Except ConfigFault Config :=
  match (fields? text).bind Settings.ofFields with
  | none => .error .malformed
  | some settings =>
    match settings.config.validate with
    | .ok () => .ok settings.config
    | .error fault => .error fault

/-- Reads the content of a file; there is none if the file is missing. -/
def ofFile (content? : Option ByteArray) : Except ConfigFault Config :=
  match content? with
  | none => .error .fileMissing
  | some content =>
    match String.fromUTF8? content with
    | none => .error .fileNotText
    | some text => ofYaml text

def boolWord (b : Bool) : String :=
  if b then "true" else "false"

/-- A line of a document. -/
def yamlLine (key value : String) : String :=
  key ++ ": " ++ value ++ "\n"

/-- The document of a configuration, in the order of its fields. -/
def toYaml (c : Config) : String :=
  yamlLine "encoding" c.encoding.name ++ yamlLine "buffer_capacity" c.bufferCapacity.repr ++
    yamlLine "strict_attribute_count" (boolWord c.strictAttributeCount) ++
    yamlLine "require_layout_body" (boolWord c.requireLayoutBody)

end Templating.Config
