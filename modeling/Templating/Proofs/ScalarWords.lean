import Mathlib.Data.List.Induction
import Mathlib.Tactic.IntervalCases
import Templating.Config.Document

/-!
# Words of plain scalars

The values that a plain scalar stands for, said without the reader: positional notation for the
numbers of 64 bits, and the words for truth values. Each is an inductive description with an iff
for the function that reads it, and the words that are written for a value denote it.
-/

namespace Templating.Config

/-- The digit `d` of a base, where a letter has either case. -/
def IsDigit (base : Nat) (c : Char) (d : Nat) : Prop :=
  d < base ∧ (c = d.digitChar ∨ c = d.digitChar.toUpper)

/-- The digits of a number in positional notation, the lowest last. -/
inductive Positional (base : Nat) : List Char → Nat → Prop
  | digit {c : Char} {d : Nat} (digit : IsDigit base c d) : Positional base [c] d
  | snoc {s : List Char} {n : Nat} {c : Char} {d : Nat} (upper : Positional base s n)
      (lowest : IsDigit base c d) : Positional base (s ++ [c]) (n * base + d)

/-- A number without a sign. A decimal one has no leading zeros. -/
inductive Numeral : List Char → Nat → Prop
  | zero : Numeral ['0'] 0
  | decimal {s : List Char} {n : Nat} (digits : Positional 10 s n) (plain : s.head? ≠ some '0') :
      Numeral s n
  | hexadecimal {s : List Char} {n : Nat} (digits : Positional 16 s n) : Numeral ('0' :: 'x' :: s) n
  | octal {s : List Char} {n : Nat} (digits : Positional 8 s n) : Numeral ('0' :: 'o' :: s) n
  | binary {s : List Char} {n : Nat} (digits : Positional 2 s n) : Numeral ('0' :: 'b' :: s) n

/-- The word is a number of 64 bits. A plus sign may stand in front. -/
def DenotesNat (word : String) (n : Nat) : Prop :=
  n < 2 ^ 64 ∧ (Numeral word.toList n ∨ ∃ s, word.toList = '+' :: s ∧ Numeral s n)

/-- The words for truth values: in lower case, with a capital, or in upper case. -/
def DenotesBool (word : String) : Bool → Prop
  | true => word ∈ ["true", "True", "TRUE"]
  | false => word ∈ ["false", "False", "FALSE"]

theorem digit?_digitChar :
    ∀ base ≤ 16, ∀ d < base,
      digit? base d.digitChar = some d ∧ digit? base d.digitChar.toUpper = some d := by
  decide

/-- Where the digits of a base stand among the characters. -/
theorem toNat_of_digit? {base d : Nat} {c : Char} (small : base ≤ 16)
    (read : digit? base c = some d) :
    d < base ∧
      (c.toNat = d + 48 ∧ d < 10 ∨ c.toNat = d + 87 ∧ 10 ≤ d ∨ c.toNat = d + 55 ∧ 10 ≤ d) := by
  simp only [digit?, Option.ite_none_right_eq_some, Option.some.injEq, Bool.and_eq_true,
    decide_eq_true_eq, Char.isDigit_iff_toNat, Char.le_def, UInt32.le_iff_toNat_le,
    Char.toNat_val, Char.reduceToNat] at read
  split_ifs at read <;> omega

theorem digit?_eq_some_iff {base : Nat} (small : base ≤ 16) (c : Char) (d : Nat) :
    digit? base c = some d ↔ IsDigit base c d := by
  constructor
  · intro read
    obtain ⟨below, code⟩ := toNat_of_digit? small read
    refine ⟨below, ?_⟩
    rw [← c.ofNat_toNat]
    have bound : d < 16 := by omega
    clear read
    rcases code with ⟨code, bound⟩ | ⟨code, least⟩ | ⟨code, least⟩ <;> rw [code] <;>
      clear code below <;> interval_cases d <;> decide
  · rintro ⟨below, rfl | rfl⟩
    · exact (digit?_digitChar base small d below).1
    · exact (digit?_digitChar base small d below).2

theorem positional_iff {base : Nat} (small : base ≤ 16) (s : List Char) (n : Nat) :
    Positional base s n ↔
      s ≠ [] ∧ ∃ ds, s.mapM (digit? base) = some ds ∧ ds.foldl (fun n d => n * base + d) 0 = n := by
  constructor
  · intro positional
    induction positional with
    | digit digit =>
      rw [← digit?_eq_some_iff small] at digit
      simp [digit]
    | snoc upper lowest ih =>
      rw [← digit?_eq_some_iff small] at lowest
      obtain ⟨-, ds, read, value⟩ := ih
      simp [read, lowest, value]
  · rintro ⟨nonempty, ds, read, value⟩
    -- from the right end, where positional notation adds a digit
    induction s using List.reverseRecOn generalizing ds n with
    | nil => exact absurd rfl nonempty
    | append_singleton s c ih =>
      simp only [List.mapM_append, List.mapM_cons, List.mapM_nil, Option.bind_eq_bind,
        Option.bind_eq_some_iff, Option.pure_def, Option.some.injEq] at read
      obtain ⟨upper, readUpper, _, ⟨d, readLowest, _, rfl, rfl⟩, rfl⟩ := read
      rw [digit?_eq_some_iff small] at readLowest
      rw [List.foldl_append] at value
      subst value
      rcases s.eq_nil_or_concat with rfl | ⟨_, _, rfl⟩
      · cases readUpper
        simpa using Positional.digit readLowest
      · exact .snoc (ih _ (by simp) upper readUpper rfl) readLowest

theorem readDigits?_eq_some_iff {base : Nat} (small : base ≤ 16) (s : List Char) (n : Nat) :
    readDigits? base s = some n ↔ Positional base s n ∧ n < 2 ^ 64 := by
  rw [positional_iff small]
  simp only [readDigits?, Option.bind_eq_bind, Option.bind_eq_some_iff,
    Option.ite_none_left_eq_some, Option.some.injEq, Bool.or_eq_true, List.isEmpty_iff,
    decide_eq_true_eq, not_or]
  constructor
  · rintro ⟨ds, read, ⟨nonempty, fits⟩, rfl⟩
    refine ⟨⟨?_, ds, read, rfl⟩, by simpa using fits⟩
    rintro rfl
    cases read
    exact nonempty rfl
  · rintro ⟨⟨nonempty, ds, read, rfl⟩, fits⟩
    refine ⟨ds, read, ⟨?_, by simpa using fits⟩, rfl⟩
    rintro rfl
    cases s with
    | nil => exact nonempty rfl
    | cons c s => simp [Option.bind_eq_some_iff] at read

theorem readNumeral?_eq_some_iff (s : List Char) (n : Nat) :
    readNumeral? s = some n ↔ Numeral s n ∧ n < 2 ^ 64 := by
  constructor
  · intro read
    unfold readNumeral? at read
    split at read
    · obtain ⟨digits, fits⟩ := (readDigits?_eq_some_iff (by decide) _ n).mp read
      exact ⟨.hexadecimal digits, fits⟩
    · obtain ⟨digits, fits⟩ := (readDigits?_eq_some_iff (by decide) _ n).mp read
      exact ⟨.octal digits, fits⟩
    · obtain ⟨digits, fits⟩ := (readDigits?_eq_some_iff (by decide) _ n).mp read
      exact ⟨.binary digits, fits⟩
    · obtain rfl : 0 = n := by simpa using read
      exact ⟨.zero, by decide⟩
    · cases read
    · rename_i zero
      obtain ⟨digits, fits⟩ := (readDigits?_eq_some_iff (by decide) _ n).mp read
      refine ⟨.decimal digits fun head => ?_, fits⟩
      obtain ⟨r, rfl⟩ := List.head?_eq_some_iff.mp head
      exact zero r rfl
  · rintro ⟨numeral, fits⟩
    cases numeral with
    | zero => rfl
    | decimal digits plain =>
      have read := (readDigits?_eq_some_iff (by decide) s n).mpr ⟨digits, fits⟩
      unfold readNumeral?
      split <;> simp_all
    | hexadecimal digits => exact (readDigits?_eq_some_iff (by decide) _ n).mpr ⟨digits, fits⟩
    | octal digits => exact (readDigits?_eq_some_iff (by decide) _ n).mpr ⟨digits, fits⟩
    | binary digits => exact (readDigits?_eq_some_iff (by decide) _ n).mpr ⟨digits, fits⟩

/-- No number begins with a sign. -/
theorem not_numeral_plus (s : List Char) (n : Nat) : ¬ Numeral ('+' :: s) n := by
  intro numeral
  cases numeral with
  | decimal digits _ =>
    obtain ⟨-, ds, read, -⟩ := (positional_iff (by decide) _ n).mp digits
    have plus : digit? 10 '+' = none := by decide
    simp [plus] at read

theorem readNat?_eq_some_iff (word : String) (n : Nat) :
    readNat? word = some n ↔ DenotesNat word n := by
  unfold readNat? DenotesNat
  split
  · rename_i s plus
    simp [plus, readNumeral?_eq_some_iff, not_numeral_plus, and_comm]
  · rename_i unsigned
    have noPlus : ¬ ∃ s, word.toList = '+' :: s ∧ Numeral s n :=
      fun ⟨s, plus, _⟩ => unsigned s plus
    simp [readNumeral?_eq_some_iff, noPlus, and_comm]

theorem readBool?_eq_some_iff (word : String) (b : Bool) :
    readBool? word = some b ↔ DenotesBool word b := by
  unfold readBool?
  split <;> cases b <;> simp_all [DenotesBool]

theorem ofName?_eq_some_iff (word : String) (e : Encoding) :
    Encoding.ofName? word = some e ↔ word = e.name := by
  constructor
  · intro read
    unfold Encoding.ofName? at read
    split at read <;> cases read <;> rfl
  · rintro rfl
    exact e.ofName?_name

/-- The decimal digits of a number stand for it. -/
theorem positional_toDigits (n : Nat) : Positional 10 (Nat.toDigits 10 n) n := by
  induction n using Nat.strongRecOn with
  | ind n ih =>
    by_cases single : n < 10
    · rw [Nat.toDigits_of_lt_base single]
      exact .digit ⟨single, .inl rfl⟩
    · have below : n % 10 < 10 := Nat.mod_lt _ (by decide)
      have snoc := Positional.snoc (ih (n / 10) (by omega)) ⟨below, .inl rfl⟩
      rwa [Nat.div_add_mod', ← Nat.toDigits_of_base_le (by decide) (by omega)] at snoc

theorem head?_toDigits {n : Nat} (pos : 0 < n) : (Nat.toDigits 10 n).head? ≠ some '0' := by
  induction n using Nat.strongRecOn with
  | ind n ih =>
    by_cases single : n < 10
    · simpa [Nat.toDigits_of_lt_base single] using Nat.ne_of_gt pos
    · have nonempty : Nat.toDigits 10 (n / 10) ≠ [] := Nat.toDigits_ne_nil
      obtain ⟨c, s, upper⟩ := List.exists_cons_of_ne_nil nonempty
      have head := ih (n / 10) (by omega) (by omega)
      rw [upper] at head
      rw [Nat.toDigits_of_base_le (by decide) (by omega), upper]
      exact head

/-- A number of 64 bits is written as a word for it. -/
theorem denotesNat_repr {n : Nat} (fits : n < 2 ^ 64) : DenotesNat n.repr n := by
  refine ⟨fits, .inl ?_⟩
  rw [Nat.toList_repr]
  rcases Nat.eq_zero_or_pos n with rfl | pos
  · rw [Nat.toDigits_zero]
    exact .zero
  · exact .decimal (positional_toDigits n) (head?_toDigits pos)

theorem denotesBool_boolWord (b : Bool) : DenotesBool (boolWord b) b := by
  cases b <;> simp [DenotesBool, boolWord]

end Templating.Config
