import Templating.TextBuffer

/-!
# Slices of a text

The part of a text between two byte offsets. There is one only where both offsets are positions of
the text, that is, where neither falls inside a character (`slice?_eq_some_iff`).
-/

namespace Templating.Text

open TextBuffer

/-- The characters that take the first `size` bytes together, if there are such. -/
def takeBytes? (size : Nat) : List Char → Option (List Char)
  | [] => if size = 0 then some [] else none
  | c :: text =>
    if size = 0 then some []
    else if c.utf8Size ≤ size then (takeBytes? (size - c.utf8Size) text).map (c :: ·)
    else none

/-- The text between two byte offsets, if they are positions of it and in order. -/
def slice? (text : String) (start stop : Nat) : Option String :=
  if start ≤ stop then
    (dropBytes? start text.toList).bind fun rest =>
      (takeBytes? (stop - start) rest).map String.ofList
  else none

/-- The characters, each with the byte offset at which it starts. -/
def charOffsets (start : Nat) : List Char → List (Nat × Char)
  | [] => []
  | c :: text => (start, c) :: charOffsets (start + c.utf8Size) text

theorem utf8ByteSize_ofList_append (text rest : List Char) :
    (String.ofList (text ++ rest)).utf8ByteSize =
      (String.ofList text).utf8ByteSize + (String.ofList rest).utf8ByteSize := by
  rw [String.ofList_append, String.utf8ByteSize_append]

theorem dropBytes?_eq_some_iff {offset : Nat} {text rest : List Char} :
    dropBytes? offset text = some rest ↔
      ∃ before, text = before ++ rest ∧ offset = (String.ofList before).utf8ByteSize := by
  constructor
  · intro dropped
    induction text generalizing offset with
    | nil =>
      obtain ⟨rfl, empty⟩ := Option.ite_none_right_eq_some.mp dropped
      cases empty
      exact ⟨[], rfl, rfl⟩
    | cons c text ih =>
      rw [dropBytes?] at dropped
      split at dropped
      next none =>
        cases dropped
        exact ⟨[], rfl, none⟩
      next some =>
        obtain ⟨fits, later⟩ := Option.ite_none_right_eq_some.mp dropped
        obtain ⟨before, rfl, size⟩ := ih later
        refine ⟨c :: before, rfl, ?_⟩
        rw [utf8ByteSize_ofList_cons]
        omega
  · rintro ⟨before, rfl, rfl⟩
    exact dropBytes?_append before rest

theorem takeBytes?_eq_some_iff {size : Nat} {text part : List Char} :
    takeBytes? size text = some part ↔
      ∃ rest, text = part ++ rest ∧ size = (String.ofList part).utf8ByteSize := by
  induction text generalizing size part with
  | nil => cases part <;> simp [takeBytes?, eq_comm]
  | cons c text ih =>
    have positive := c.utf8Size_pos
    rw [takeBytes?]
    constructor
    · intro taken
      split at taken
      next none =>
        cases taken
        exact ⟨c :: text, rfl, none⟩
      next some =>
        obtain ⟨fits, taken⟩ := Option.ite_none_right_eq_some.mp taken
        obtain ⟨part, later, rfl⟩ := Option.map_eq_some_iff.mp taken
        obtain ⟨rest, rfl, size⟩ := ih.mp later
        refine ⟨rest, rfl, ?_⟩
        rw [utf8ByteSize_ofList_cons]
        omega
    · rintro ⟨rest, same, rfl⟩
      cases part with
      | nil => rfl
      | cons d part =>
        obtain ⟨rfl, rfl⟩ := List.cons.inj same
        rw [utf8ByteSize_ofList_cons, if_neg (by omega), if_pos (by omega), Nat.add_sub_cancel_left,
          ih.mpr ⟨rest, rfl, rfl⟩]
        rfl

theorem slice?_between (before part after : String) :
    slice? (before ++ part ++ after) before.utf8ByteSize (before ++ part).utf8ByteSize =
      some part := by
  have dropped : dropBytes? before.utf8ByteSize (before ++ part ++ after).toList =
      some (part.toList ++ after.toList) :=
    dropBytes?_eq_some_iff.mpr ⟨before.toList, by simp, by simp⟩
  have taken : takeBytes? part.utf8ByteSize (part.toList ++ after.toList) = some part.toList :=
    takeBytes?_eq_some_iff.mpr ⟨after.toList, rfl, by simp⟩
  rw [slice?, String.utf8ByteSize_append, if_pos (by omega), Nat.add_sub_cancel_left, dropped,
    Option.bind_some, taken, Option.map_some, String.ofList_toList]

/-- A slice is cut at positions of the text. -/
theorem slice?_eq_some_iff {text part : String} {start stop : Nat} :
    slice? text start stop = some part ↔
      ∃ before after, text = before ++ part ++ after ∧ start = before.utf8ByteSize ∧
        stop = (before ++ part).utf8ByteSize := by
  constructor
  · intro sliced
    obtain ⟨ordered, sliced⟩ := Option.ite_none_right_eq_some.mp sliced
    obtain ⟨rest, dropped, sliced⟩ := Option.bind_eq_some_iff.mp sliced
    obtain ⟨part, taken, rfl⟩ := Option.map_eq_some_iff.mp sliced
    obtain ⟨before, whole, size⟩ := dropBytes?_eq_some_iff.mp dropped
    obtain ⟨after, rfl, length⟩ := takeBytes?_eq_some_iff.mp taken
    refine ⟨String.ofList before, String.ofList after, ?_, size, ?_⟩
    · apply String.toList_injective
      simp [whole]
    · rw [String.utf8ByteSize_append]
      omega
  · rintro ⟨before, after, rfl, rfl, rfl⟩
    exact slice?_between before part after

theorem find?_charOffsets_eq_none {p : Char → Bool} {text : List Char} (start : Nat)
    (absent : ∀ c ∈ text, p c = false) : (charOffsets start text).find? (p ·.2) = none := by
  induction text generalizing start with
  | nil => rfl
  | cons c text ih =>
    rw [charOffsets, List.find?_cons_of_neg (by simp [absent c List.mem_cons_self])]
    exact ih _ fun d member => absent d (List.mem_cons_of_mem c member)

theorem charOffsets_append (start : Nat) (text rest : List Char) :
    charOffsets start (text ++ rest) =
      charOffsets start text ++ charOffsets (start + (String.ofList text).utf8ByteSize) rest := by
  induction text generalizing start with
  | nil => rfl
  | cons c text ih =>
    rw [List.cons_append, charOffsets, ih, charOffsets, utf8ByteSize_ofList_cons, Nat.add_assoc,
      List.cons_append]

end Templating.Text
