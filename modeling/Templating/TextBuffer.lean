/-!
# Text buffer

Text that only grows, except that it can be emptied. Lengths and offsets count the bytes of the
text in UTF-8; an offset that falls inside a character, or behind the end, is no position of the
text. `since?_push` says that the text behind an earlier length is what was pushed since.
-/

namespace Templating

structure TextBuffer where
  text : String := ""
  deriving DecidableEq, Repr, Inhabited

namespace TextBuffer

def length (b : TextBuffer) : Nat :=
  b.text.utf8ByteSize

def isEmpty (b : TextBuffer) : Bool :=
  b.text.isEmpty

def push (b : TextBuffer) (text : String) : TextBuffer :=
  ⟨b.text ++ text⟩

def clear (_ : TextBuffer) : TextBuffer :=
  {}

@[simp] theorem push_text (b : TextBuffer) (text : String) :
    (b.push text).text = b.text ++ text := rfl

@[simp] theorem push_empty (b : TextBuffer) : b.push "" = b := by
  rw [push, String.append_empty]

@[simp] theorem push_push (b : TextBuffer) (text more : String) :
    (b.push text).push more = b.push (text ++ more) := by
  rw [push, push, push, String.append_assoc]

/-- Drops characters that take `offset` bytes together, if there are such. -/
def dropBytes? (offset : Nat) : List Char → Option (List Char)
  | [] => if offset = 0 then some [] else none
  | c :: text =>
    if offset = 0 then some (c :: text)
    else if c.utf8Size ≤ offset then dropBytes? (offset - c.utf8Size) text
    else none

/-- The text from a byte offset on. -/
def since? (b : TextBuffer) (offset : Nat) : Option String :=
  (dropBytes? offset b.text.toList).map String.ofList

theorem utf8ByteSize_ofList_cons (c : Char) (text : List Char) :
    (String.ofList (c :: text)).utf8ByteSize = c.utf8Size + (String.ofList text).utf8ByteSize := by
  have h : String.ofList (c :: text) = String.singleton c ++ String.ofList text := by
    simp
  rw [h, String.utf8ByteSize_append, String.utf8ByteSize_singleton]

theorem dropBytes?_append (text rest : List Char) :
    dropBytes? (String.ofList text).utf8ByteSize (text ++ rest) = some rest := by
  induction text with
  | nil => cases rest <;> rfl
  | cons c text ih =>
    have hc := c.utf8Size_pos
    rw [utf8ByteSize_ofList_cons, List.cons_append, dropBytes?, if_neg (by omega),
      if_pos (Nat.le_add_right _ _), Nat.add_sub_cancel_left]
    exact ih

theorem since?_push (b : TextBuffer) (text : String) :
    (b.push text).since? b.length = some text := by
  have h : b.length = (String.ofList b.text.toList).utf8ByteSize := by
    rw [String.ofList_toList]
    rfl
  rw [since?, push, h, String.toList_append, dropBytes?_append, Option.map_some,
    String.ofList_toList]

end TextBuffer

end Templating
