import Templating.Encoding

/-!
# Escaping

Five characters have an entity. `escape` replaces them one by one; `pieces` cuts the same text
into the portions in which it is handed to a destination: every entity on its own, and every
longest run of other characters. `flatten_pieces` says that the two agree.
-/

namespace Templating.Escape

def entity? : Char → Option String
  | '&' => some "&amp;"
  | '<' => some "&lt;"
  | '>' => some "&gt;"
  | '"' => some "&quot;"
  | '\'' => some "&#x27;"
  | _ => none

def isSpecial (c : Char) : Bool :=
  (entity? c).isSome

/-- No character of the text needs an entity. -/
def isClean (text : String) : Bool :=
  text.toList.all fun c => !isSpecial c

/-- A character as it stands in escaped text. -/
def escapeChar (c : Char) : List Char :=
  match entity? c with
  | some entity => entity.toList
  | none => [c]

def escape (text : String) : String :=
  String.ofList (text.toList.flatMap escapeChar)

/-- A run of plain characters that is ready to be handed over, unless it is empty. -/
def portion (run : List Char) : List (List Char) :=
  if run.isEmpty then [] else [run]

/-- Cuts `text` into portions; `run` holds the plain characters since the last entity, latest
first. -/
def cut (run : List Char) : List Char → List (List Char)
  | [] => portion run.reverse
  | c :: text =>
    match entity? c with
    | some entity => portion run.reverse ++ entity.toList :: cut [] text
    | none => cut (c :: run) text

/-- The portions of the escaped text. -/
def pieces (text : String) : List String :=
  (cut [] text.toList).map String.ofList

/-- The portions in which text of unknown safety is written: raw text is one portion, even when
it is empty. -/
def portions (encoding : Encoding) (text : String) : List String :=
  match encoding with
  | .html => pieces text
  | .raw => [text]

theorem flatten_portion (run : List Char) : (portion run).flatten = run := by
  cases run <;> simp [portion]

theorem flatten_cut (run text : List Char) :
    (cut run text).flatten = run.reverse ++ text.flatMap escapeChar := by
  induction text generalizing run with
  | nil => simp [cut, flatten_portion]
  | cons c text ih =>
    cases h : entity? c with
    | none => simp [cut, escapeChar, h, ih]
    | some entity => simp [cut, escapeChar, h, ih, flatten_portion]

theorem flatten_pieces (text : String) :
    ((pieces text).map String.toList).flatten = (escape text).toList := by
  have h : (pieces text).map String.toList = cut [] text.toList := by
    simp [pieces, Function.comp_def]
  rw [h, flatten_cut]
  simp [escape]

end Templating.Escape
