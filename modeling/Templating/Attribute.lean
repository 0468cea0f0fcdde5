import Templating.Destination
import Templating.MarkedText

/-!
# Attributes

An attribute is written in steps: it is opened, receives fragments, and is closed. Nothing of it
is written before it is closed; only then is it decided whether it is written whole or left out.
It is left out when it has fragments and every one of them is a dynamic value that is absent.
Opening it keeps room for as many fragments as it declares.

`AttributeWriter` is the state between the steps; a step that does not fit is a `Misuse` and
changes nothing. Closing an open attribute closes it whatever comes of it.
-/

namespace Templating

/-- What is known of a part of an attribute's value besides the value: the separator before it,
and whether it is literal markup. Offsets and lengths point into the template and are only carried
along. -/
structure FragmentHead where
  lead : String := ""
  leadOffset : Nat := 0
  valueOffset : Nat := 0
  valueLength : Nat := 0
  literal : Bool := false
  deriving DecidableEq, Repr, Inhabited

structure Fragment where
  head : FragmentHead
  value : MarkedText
  deriving DecidableEq, Repr, Inhabited

namespace Fragment

/-- A literal fragment counts even when it is empty. -/
def isPresent (f : Fragment) : Bool :=
  f.head.literal || !f.value.isAbsent

/-- A literal value is written as it is, as one portion. -/
def valuePortions (f : Fragment) (encoding : Encoding) : List String :=
  if f.head.literal then [f.value.text] else f.value.portions encoding

def portions (f : Fragment) (encoding : Encoding) : List String :=
  (if f.head.lead.isEmpty then [] else [f.head.lead]) ++ f.valuePortions encoding

end Fragment

/-- How an attribute is opened: `opening` holds its name and the quote before the value, `closing`
the quote behind it, and `declared` is the number of fragments to come. -/
structure AttributeHead where
  name : String
  opening : String := ""
  openingOffset : Nat := 0
  closing : String := ""
  closingOffset : Nat := 0
  declared : Nat := 0
  deriving DecidableEq, Repr, Inhabited

namespace AttributeHead

/-- The most fragments that one piece of memory can hold: it has at most 2^63 - 8 bytes, and a
fragment takes 88. -/
def mostDeclared : Nat :=
  (Nat.pow 2 63 - 8) / 88

/-- Whether one piece of memory can hold the declared fragments. Whether so much is free is not
asked. -/
def hasRoom (h : AttributeHead) : Bool :=
  h.declared ≤ mostDeclared

end AttributeHead

structure Attribute where
  head : AttributeHead
  fragments : List Fragment := []
  deriving DecidableEq, Repr, Inhabited

namespace Attribute

def isWritten (a : Attribute) : Bool :=
  a.fragments.isEmpty || a.fragments.any Fragment.isPresent

def portions (a : Attribute) (encoding : Encoding) : List String :=
  a.head.opening :: a.fragments.flatMap (·.portions encoding) ++ [a.head.closing]

def miscounted (a : Attribute) : Bool :=
  a.fragments.length != a.head.declared

end Attribute

/-- What closing an attribute comes to. -/
inductive Closing where
  | refused (misuse : Misuse)
  | leftOut (span : Attribute)
  | written (span : Attribute)
  deriving DecidableEq, Repr, Inhabited

structure AttributeWriter where
  /-- A miscounted attribute is a misuse, and not only reported. -/
  strict : Bool := false
  pending : Option Attribute := none
  deriving DecidableEq, Repr, Inhabited

namespace AttributeWriter

def start (head : AttributeHead) (w : AttributeWriter) : Except Misuse AttributeWriter :=
  match w.pending with
  | some a => .error (.attributeStillOpen head.name a.head.name)
  | none => if head.hasRoom then .ok { w with pending := some { head } } else .error .noRoom

def add (f : Fragment) (w : AttributeWriter) : Except Misuse AttributeWriter :=
  match w.pending with
  | some a => .ok { w with pending := some { a with fragments := a.fragments ++ [f] } }
  | none => .error .fragmentWithoutAttribute

def close (w : AttributeWriter) : Closing × AttributeWriter :=
  let closed := { w with pending := none }
  match w.pending with
  | none => (.refused .endWithoutAttribute, closed)
  | some a =>
    if w.strict && a.miscounted then
      (.refused (.fragmentCount a.head.name a.head.declared a.fragments.length), closed)
    else if a.isWritten then (.written a, closed)
    else (.leftOut a, closed)

end AttributeWriter

namespace Closing

variable {σ : Type}

def reportCount (a : Attribute) : Action σ Unit :=
  if a.miscounted then
    .log (.fragmentsMiscounted a.head.name a.head.declared a.fragments.length)
  else pure ()

/-- Writes the closed attribute, unless it is left out. The value says whether it is written. -/
def write [Destination σ] (encoding : Encoding) : Closing → Action σ Bool
  | refused m => .misuse m
  | leftOut a => do
    reportCount a
    .log (.attributeLeftOut a.head.name)
    pure false
  | written a => do
    reportCount a
    .log (.attributeWritten a.head.name a.fragments.length)
    .writeAll (a.portions encoding)
    pure true

end Closing

end Templating
