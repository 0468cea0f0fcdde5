import Templating.Yaml.Token

/-!
# Nodes

A document as a tree. An alias stands for a node that was anchored; which one it is can be told only
at the end of the document, so the tree keeps the number of the anchor, and `Document.follow` finds
the node. `Document.ofText?` reads a text that holds one document, or none.
-/

namespace Templating.Yaml

inductive Node where
  | scalar (style : ScalarStyle) (tag? : Option Address) (text : String)
  | sequence (tag? : Option Address) (items : List Node)
  | mapping (tag? : Option Address) (fields : List (Node × Node))
  | alias (number : Nat)
  deriving Inhabited

namespace Node

def empty : Node :=
  scalar .plain none ""

end Node

/-- A name that was given to a node. Its number says how many different names there were before;
when a name is given again, a later anchor may get the same number. -/
structure Anchor where
  name : String
  number : Nat
  /-- Missing while the node is being read. -/
  node? : Option Node := none

/-- What is known of the names in a document. -/
structure Scope where
  /-- In the order of the document. -/
  anchors : Array Anchor := #[]
  /-- How many different names there are. -/
  names : Nat := 0
  handles : List (String × Address) := []

namespace Scope

def standardHandles : List (String × Address) :=
  [("!", .mark), ("!!", .ofText "tag:yaml.org,2002:")]

/-- The whole tag; there is none if the handle is not known. -/
def tag? (s : Scope) (handle : String) (address : Address) : Option Address :=
  if handle.isEmpty then some address
  else ((s.handles ++ standardHandles).lookup handle).map (· ++ address)

/-- The number of the latest anchor of this name. -/
def number? (s : Scope) (name : String) : Option Nat :=
  (s.anchors.toList.reverse.find? fun a => a.name == name).map Anchor.number

def announce (name? : Option String) (s : Scope) : Scope :=
  match name? with
  | some name =>
    { s with
      anchors := s.anchors.push { name, number := s.names }
      names := if (s.number? name).isSome then s.names else s.names + 1 }
  | none => s

/-- Gives the node to the anchor at a place. -/
def complete (name? : Option String) (place : Nat) (node : Node) (s : Scope) : Scope :=
  match name? with
  | some _ => { s with anchors := s.anchors.modify place fun a => { a with node? := some node } }
  | none => s

end Scope

structure Document where
  root : Node
  anchors : List Anchor

namespace Document

/-- The node itself, or the one that an alias stands for: the last that was anchored under the
number. -/
def follow (d : Document) : Node → Node
  | .alias number =>
    match d.anchors.reverse.find? fun a => a.number == number with
    | some { node? := some node, .. } => node
    | _ => .alias number
  | node => node

end Document

namespace Node

abbrev Tokens := List Token

/-- A node, what is known behind it, and the tokens behind it. -/
abbrev Read := Node × Scope × Tokens

/-- The anchor and the tag in front of a node, in either order. -/
def readProperties (s : Scope) (ts : Tokens) :
    Option (Option String × Option Address × Tokens) :=
  match ts with
  | .anchor name :: .tag handle address :: ts | .tag handle address :: .anchor name :: ts =>
    (s.tag? handle address).map fun tag => (some name, some tag, ts)
  | .anchor name :: ts => some (some name, none, ts)
  | .tag handle address :: ts => (s.tag? handle address).map fun tag => (none, some tag, ts)
  | ts => some (none, none, ts)

/-- What ends an entry of a block without a node. -/
def endsBlockEntry : Tokens → Bool
  | .blockEntry :: _ | .blockEnd :: _ => true
  | _ => false

def endsBlockField : Tokens → Bool
  | .key :: _ | .value :: _ | .blockEnd :: _ => true
  | _ => false

/-- What ends an entry of a sequence that is not indented. -/
def endsLooseEntry (ts : Tokens) : Bool :=
  endsBlockEntry ts || endsBlockField ts

def endsFlowKey : Tokens → Bool
  | .value :: _ | .flowEntry :: _ | .flowMappingEnd :: _ => true
  | _ => false

def endsFlowValue : Tokens → Bool
  | .flowEntry :: _ | .flowMappingEnd :: _ => true
  | _ => false

def endsPairValue : Tokens → Bool
  | .flowEntry :: _ | .flowSequenceEnd :: _ => true
  | _ => false

/-- A node of a collection, or the empty one where there is none. -/
def orEmpty (ended : Tokens → Bool) (read : Scope → Tokens → Option Read) (s : Scope)
    (ts : Tokens) : Option Read :=
  if ended ts then some (empty, s, ts) else read s ts

mutual

/-- Reads a node. Only a `block` node may be a block, and only a `loose` one a sequence that is not
indented. -/
def read (block loose : Bool) : (fuel : Nat) → Scope → Tokens → Option Read
  | 0, _, _ => none
  | _ + 1, s, .alias name :: ts => (s.number? name).map fun number => (.alias number, s, ts)
  | fuel + 1, s, ts => do
    let (anchor?, tag?, ts) ← readProperties s ts
    let place := s.anchors.size
    let (node, s, ts) ← readContent block loose (anchor?.isSome || tag?.isSome) tag? fuel
      (s.announce anchor?) ts
    some (node, s.complete anchor? place node, ts)

/-- Reads a node behind its properties. -/
def readContent (block loose marked : Bool) (tag? : Option Address) :
    (fuel : Nat) → Scope → Tokens → Option Read
  | 0, _, _ => none
  | fuel + 1, s, ts =>
    match ts with
    | .scalar style text :: ts => some (.scalar style tag? text, s, ts)
    | .flowSequenceStart :: ts => readFlowItems tag? true [] fuel s ts
    | .flowMappingStart :: ts => readFlowFields tag? true [] fuel s ts
    | .blockEntry :: _ =>
      if loose then readLooseItems tag? [] fuel s ts
      else if marked then some (.scalar .plain tag? "", s, ts) else none
    | .blockSequenceStart :: rest =>
      if block then readBlockItems tag? [] fuel s rest
      else if marked then some (.scalar .plain tag? "", s, ts) else none
    | .blockMappingStart :: rest =>
      if block then readBlockFields tag? [] fuel s rest
      else if marked then some (.scalar .plain tag? "", s, ts) else none
    | _ => if marked then some (.scalar .plain tag? "", s, ts) else none

def readBlockItems (tag? : Option Address) (items : List Node) :
    (fuel : Nat) → Scope → Tokens → Option Read
  | 0, _, _ => none
  | _ + 1, s, .blockEnd :: ts => some (.sequence tag? items.reverse, s, ts)
  | fuel + 1, s, .blockEntry :: ts => do
    let (item, s, ts) ← orEmpty endsBlockEntry (read true false fuel) s ts
    readBlockItems tag? (item :: items) fuel s ts
  | _ + 1, _, _ => none

def readLooseItems (tag? : Option Address) (items : List Node) :
    (fuel : Nat) → Scope → Tokens → Option Read
  | 0, _, _ => none
  | fuel + 1, s, .blockEntry :: ts => do
    let (item, s, ts) ← orEmpty endsLooseEntry (read true false fuel) s ts
    readLooseItems tag? (item :: items) fuel s ts
  | _ + 1, s, ts => some (.sequence tag? items.reverse, s, ts)

def readBlockFields (tag? : Option Address) (fields : List (Node × Node)) :
    (fuel : Nat) → Scope → Tokens → Option Read
  | 0, _, _ => none
  | _ + 1, s, .blockEnd :: ts => some (.mapping tag? fields.reverse, s, ts)
  | fuel + 1, s, .key :: ts => do
    let (key, s, ts) ← orEmpty endsBlockField (read true true fuel) s ts
    match ts with
    | .value :: ts =>
      let (value, s, ts) ← orEmpty endsBlockField (read true true fuel) s ts
      readBlockFields tag? ((key, value) :: fields) fuel s ts
    | ts => readBlockFields tag? ((key, empty) :: fields) fuel s ts
  | _ + 1, _, _ => none

/-- Reads the items of a flow sequence. An item that is marked as a key is a mapping of one field;
if there is no key behind the mark, the sign that stands in its place is passed over. -/
def readFlowItems (tag? : Option Address) (first : Bool) (items : List Node) :
    (fuel : Nat) → Scope → Tokens → Option Read
  | 0, _, _ => none
  | fuel + 1, s, ts =>
    match ts with
    | .flowSequenceEnd :: ts => some (.sequence tag? items.reverse, s, ts)
    | ts => do
      let ts ←
        match first, ts with
        | true, ts => some ts
        | false, .flowEntry :: ts => some ts
        | false, _ => none
      match ts with
      | .flowSequenceEnd :: ts => some (.sequence tag? items.reverse, s, ts)
      | .key :: ts =>
        let (key, s, ts) ←
          match ts with
          | .value :: ts | .flowEntry :: ts | .flowSequenceEnd :: ts => some (empty, s, ts)
          | ts => read false false fuel s ts
        let (value, s, ts) ← readFlowValue endsPairValue fuel s ts
        readFlowItems tag? false (.mapping none [(key, value)] :: items) fuel s ts
      | ts =>
        let (item, s, ts) ← read false false fuel s ts
        readFlowItems tag? false (item :: items) fuel s ts

def readFlowFields (tag? : Option Address) (first : Bool) (fields : List (Node × Node)) :
    (fuel : Nat) → Scope → Tokens → Option Read
  | 0, _, _ => none
  | fuel + 1, s, ts =>
    match ts with
    | .flowMappingEnd :: ts => some (.mapping tag? fields.reverse, s, ts)
    | ts => do
      let ts ←
        match first, ts with
        | true, ts => some ts
        | false, .flowEntry :: ts => some ts
        | false, _ => none
      match ts with
      | .flowMappingEnd :: ts => some (.mapping tag? fields.reverse, s, ts)
      | .key :: ts =>
        let (key, s, ts) ← orEmpty endsFlowKey (read false false fuel) s ts
        let (value, s, ts) ← readFlowValue endsFlowValue fuel s ts
        readFlowFields tag? false ((key, value) :: fields) fuel s ts
      | ts =>
        let (key, s, ts) ← read false false fuel s ts
        readFlowFields tag? false ((key, empty) :: fields) fuel s ts

/-- Reads the value of a field of a flow collection, if there is one. -/
def readFlowValue (ended : Tokens → Bool) : (fuel : Nat) → Scope → Tokens → Option Read
  | 0, _, _ => none
  | fuel + 1, s, .value :: ts => orEmpty ended (read false false fuel) s ts
  | _ + 1, s, ts => some (empty, s, ts)

end

end Node

namespace Document

open Node (Tokens orEmpty)

/-- Reads the directives in front of a document. The value says whether there were any. -/
def readDirectives (versioned : Bool) (handles : List (String × Address)) :
    Tokens → Option (Bool × List (String × Address) × Tokens)
  | .versionDirective :: ts => if versioned then none else readDirectives true handles ts
  | .tagDirective handle address :: ts =>
    if (handles.lookup handle).isSome then none
    else readDirectives versioned ((handle, address) :: handles) ts
  | ts => some (versioned || !handles.isEmpty, handles, ts)

def endsDocument : Tokens → Bool
  | [] | .versionDirective :: _ | .tagDirective .. :: _ | .documentStart :: _
  | .documentEnd :: _ => true
  | _ => false

/-- Reads the one document of a list of tokens; `none` inside for no document at all. -/
def ofTokens? (ts : Tokens) : Option (Option Document) := do
  let (directed, handles, ts) ← readDirectives false [] ts
  let read := Node.read true false (4 * ts.length + 8)
  let document : Node × Scope × Tokens → Option Document × Tokens
    | (root, s, ts) => (some { root, anchors := s.anchors.toList }, ts)
  let (document?, ts) ←
    match ts with
    | .documentStart :: ts => (orEmpty endsDocument read { handles } ts).map document
    | [] => if directed then none else some (none, [])
    | ts => if directed then none else (read { handles } ts).map document
  if ts.all (· == .documentEnd) then some document? else none

/-- The document in a text. -/
def ofText? (text : String) : Option (Option Document) := do
  let ts ← Token.ofText? text
  ofTokens? ts

end Document

end Templating.Yaml
