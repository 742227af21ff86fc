import HttpScenario.Yaml.Token.Lexer

/-! Nodes of YAML documents. A text is read as one document; an alias is the node that its anchor
stands before. -/

namespace HttpScenario.Yaml

inductive Node
  | scalar (style : ScalarStyle) (tag : Option String) (text : String)
  | list (tag : Option String) (items : List Node)
  | map (tag : Option String) (entries : List (Node × Node))
  /-- An alias inside of what it stands for. -/
  | endless

namespace Node

instance : Inhabited Node := ⟨endless⟩

def empty : Node := scalar .plain none ""

structure Reader where
  tokens : List Token
  shorthands : List (String × String)
  /-- Anchored nodes, in the order of their anchors, with the aliases followed in each; those still
  being read have none. -/
  anchors : Array (String × Option (Node × Nat))
  parts : Nat
  /-- The aliases that have to be followed for all that was read so far. -/
  follows : Nat

abbrev Read := StateT Reader Option

namespace Read

def peek : Read (Option Token) := return (← get).tokens.head?

def skip : Read Unit := modify fun r => { r with tokens := r.tokens.drop 1 }

def count (parts : Nat) : Read Unit := modify fun r => { r with parts := r.parts + parts }

def accept (token : Token) : Read Bool := do
  if (← peek) = some token then
    skip
    return true
  else return false

def expect (token : Token) : Read Unit := do
  if ← accept token then return () else failure

def atAny (ends : List Token) : Read Bool := return (← peek).all ends.contains

end Read

open Read

/-- The full text of a tag. A tag without a handle stands for itself. -/
def resolveTag (handle suffix : String) : Read String := do
  if handle = "" then return suffix
  else
    match (← get).shorthands.lookup handle with
    | some expansion => return expansion ++ suffix
    | none => failure

def properties : Read (Option String × Option String) := do
  let tag? : Read (Option String) := do
    match ← peek with
    | some (.tag handle suffix) =>
      skip
      return some (← resolveTag handle suffix)
    | _ => return none
  let anchor? : Read (Option String) := do
    match ← peek with
    | some (.anchor name) =>
      skip
      return some name
    | _ => return none
  match ← anchor? with
  | some name => return (some name, ← tag?)
  | none =>
    let tag ← tag?
    if tag.isSome then return (← anchor?, tag) else return (none, none)

def follow (name : String) : Read Node := do
  match (← get).anchors.toList.reverse.lookup name with
  | some (some (node, follows)) =>
    modify fun r => { r with follows := r.follows + follows + 1 }
    return node
  | some none => return endless
  | none => failure

def anchored (name : Option String) (read : Read Node) : Read Node := do
  match name with
  | none => read
  | some name =>
    let place := (← get).anchors.size
    let before := (← get).follows
    modify fun r => { r with anchors := r.anchors.push (name, none) }
    let node ← read
    modify fun r =>
      let done := some (node, r.follows - before)
      { r with anchors := r.anchors.setIfInBounds place (name, done) }
    return node

mutual

/-- A node. Blocks can start where `block` holds, and where `indentless` does, a list in a block
without an indentation of its own. -/
def read (fuel : Nat) (block indentless : Bool) : Read Node := do
  match fuel with
  | 0 => failure
  | fuel + 1 =>
    match ← peek with
    | some (.alias name) =>
      skip
      count 1
      follow name
    | _ =>
      let (anchor, tag) ← properties
      anchored anchor (content fuel block indentless anchor.isSome tag)

/-- A node behind its anchor and tag. A mark alone as the tag of a scalar is none. -/
def content (fuel : Nat) (block indentless hasAnchor : Bool) (tag : Option String) : Read Node := do
  match fuel with
  | 0 => failure
  | fuel + 1 =>
    match ← peek with
    | some (.scalar style text) =>
      skip
      count 1
      return scalar style (tag.filter fun t => t ≠ "!") text
    | some .flowSequenceStart =>
      skip
      count 2
      return list tag (← flowItems fuel true)
    | some .flowMappingStart =>
      skip
      count 2
      return map tag (← flowEntries fuel true)
    | token =>
      if indentless ∧ token = some .blockEntry then
        count 2
        return list tag (← indentlessItems fuel)
      else if block ∧ token = some .blockSequenceStart then
        skip
        count 2
        return list tag (← blockItems fuel)
      else if block ∧ token = some .blockMappingStart then
        skip
        count 2
        return map tag (← blockEntries fuel)
      else if hasAnchor ∨ tag.isSome then
        count 1
        return scalar .plain tag ""
      else failure

def readUnless (fuel : Nat) (ends : List Token) (block indentless : Bool) : Read Node := do
  match fuel with
  | 0 => failure
  | fuel + 1 =>
    if ← atAny ends then
      count 1
      return empty
    else read fuel block indentless

def blockItems (fuel : Nat) : Read (List Node) := do
  match fuel with
  | 0 => failure
  | fuel + 1 =>
    if ← accept .blockEntry then
      let item ← readUnless fuel [.blockEntry, .blockEnd] true false
      return item :: (← blockItems fuel)
    else
      expect .blockEnd
      return []

def indentlessItems (fuel : Nat) : Read (List Node) := do
  match fuel with
  | 0 => failure
  | fuel + 1 =>
    if ← accept .blockEntry then
      let item ← readUnless fuel [.blockEntry, .key, .value, .blockEnd] true false
      return item :: (← indentlessItems fuel)
    else return []

def blockEntries (fuel : Nat) : Read (List (Node × Node)) := do
  match fuel with
  | 0 => failure
  | fuel + 1 =>
    let ends := [Token.key, .value, .blockEnd]
    if ← accept .key then
      let key ← readUnless fuel ends true true
      let value ← entryValue fuel ends true
      return (key, value) :: (← blockEntries fuel)
    else
      expect .blockEnd
      return []

def entryValue (fuel : Nat) (ends : List Token) (block : Bool) : Read Node := do
  match fuel with
  | 0 => failure
  | fuel + 1 =>
    if ← accept .value then readUnless fuel ends block block
    else
      count 1
      return empty

def flowItems (fuel : Nat) (first : Bool) : Read (List Node) := do
  match fuel with
  | 0 => failure
  | fuel + 1 =>
    if ← accept .flowSequenceEnd then return []
    else
      if !first then expect .flowEntry
      if ← accept .flowSequenceEnd then return []
      else
        let item ← flowItem fuel
        return item :: (← flowItems fuel false)

/-- An item of a list in brackets, which may be a single entry of a map. An entry without a key has
no value either. -/
def flowItem (fuel : Nat) : Read Node := do
  match fuel with
  | 0 => failure
  | fuel + 1 =>
    if ← accept .key then
      count 2
      let ends := [Token.flowEntry, .flowSequenceEnd]
      if ← atAny (.value :: ends) then
        skip
        count 1
        return map none [(empty, ← entryValue fuel ends false)]
      else
        let key ← read fuel false false
        return map none [(key, ← entryValue fuel ends false)]
    else read fuel false false

def flowEntries (fuel : Nat) (first : Bool) : Read (List (Node × Node)) := do
  match fuel with
  | 0 => failure
  | fuel + 1 =>
    if ← accept .flowMappingEnd then return []
    else
      if !first then expect .flowEntry
      if ← accept .flowMappingEnd then return []
      else
        let ends := [Token.flowEntry, .flowMappingEnd]
        if ← accept .key then
          let key ← readUnless fuel (.value :: ends) false false
          let value ← entryValue fuel ends false
          return (key, value) :: (← flowEntries fuel false)
        else
          let key ← read fuel false false
          count 1
          return (key, empty) :: (← flowEntries fuel false)

end

def directives (fuel : Nat) (versioned : Bool) (found : List (String × String)) :
    Read (Bool × List (String × String)) := do
  match fuel with
  | 0 => failure
  | fuel + 1 =>
    match ← peek with
    | some (.version major minor) =>
      if versioned ∨ major ≠ 1 ∨ (minor ≠ 1 ∧ minor ≠ 2) then failure
      else
        skip
        directives fuel true found
    | some (.tagShorthand handle expansion) =>
      if (found.lookup handle).isSome then failure
      else
        skip
        directives fuel versioned (found ++ [(handle, expansion)])
    | _ => return (versioned, found)

def standardShorthands : List (String × String) := [("!", "!"), ("!!", "tag:yaml.org,2002:")]

def document (fuel : Nat) : Read (Option Node) := do
  let (versioned, shorthands) ← directives fuel false []
  modify fun r => { r with shorthands := shorthands ++ standardShorthands }
  let explicit ← accept .documentStart
  if !explicit ∧ (versioned ∨ !shorthands.isEmpty) then failure
  else if !explicit ∧ (← peek).isNone then return none
  else
    let starts (token : Token) : Bool :=
      match token with
      | .version _ _ | .tagShorthand _ _ | .documentStart | .documentEnd => true
      | _ => false
    let root ← if explicit ∧ (← peek).all starts then pure empty else read fuel true false
    if (← get).tokens.all fun token => token = .documentEnd then return some root else failure

/-- For every part of a document so many aliases may be followed. -/
def followsPerPart : Nat := 100

/-- The document of a text. The outer option is a text that cannot be read, the inner an empty
one. -/
def ofText? (text : String) : Option (Option Node) := do
  let tokens ← Token.ofText? text
  let start : Reader := ⟨tokens, [], #[], 0, 0⟩
  let (root, reader) ← (document (4 * tokens.length + 8)).run start
  if reader.parts * followsPerPart < reader.follows then none else some root

end Node

end HttpScenario.Yaml
