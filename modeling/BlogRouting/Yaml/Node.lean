import BlogRouting.Yaml.Token

/-!
# Nodes

The tokens of a text describe a sequence of documents, each of which is a node: a scalar, or a
sequence or mapping of nodes. An alias stands for the node that has its anchor.
-/

namespace BlogRouting.Yaml

inductive Node where
  | scalar (style : Style) (tag : Option (String × String)) (text : String)
  | sequence (items : List Node)
  | mapping (entries : List (Node × Node))
  /-- An alias inside the node that it stands for. -/
  | loop

namespace Node

/-- What stands where a node is left out. -/
def omitted : Node := scalar .plain none "~"

end Node

/-- A node with an anchor. There is no node yet while the inside of the node is read. -/
structure Anchored where
  id : Nat
  name : String
  node : Option Node

/-- The tokens that are left and the anchors so far, the last one first. -/
structure NodeReader where
  tokens : List Token
  anchors : List Anchored := []

abbrev ReadNode := StateT NodeReader Option

namespace ReadNode

def peek : ReadNode (Option Token) := do
  return (← get).tokens.head?

def advance : ReadNode Unit :=
  modify fun r => { r with tokens := r.tokens.tail }

/-- Whether the next token is one of these. The end of the text is none. -/
def atOneOf (tokens : List Token) : ReadNode Bool := do
  return (← peek).any (· ∈ tokens)

/-- Takes the next token if it is `token`. -/
def take (token : Token) : ReadNode Bool := do
  let found ← atOneOf [token]
  if found then advance
  return found

/-- The node that an alias stands for. -/
def resolve (name : String) : ReadNode Node := do
  let some anchored := (← get).anchors.find? (·.name = name) | failure
  return anchored.node.getD .loop

/-- Notes that a node with an anchor begins. -/
def openAnchor (name : String) : ReadNode Nat := do
  let r ← get
  let id := r.anchors.length
  set { r with anchors := ⟨id, name, none⟩ :: r.anchors }
  return id

/-- Notes the node of an anchor. -/
def closeAnchor (id : Nat) (node : Node) : ReadNode Unit :=
  modify fun r =>
    { r with anchors := r.anchors.map fun a => if a.id = id then { a with node := node } else a }

/-- Takes the anchor in front of a node, if there is one. -/
def anchor : ReadNode (Option Nat) := do
  match ← peek with
  | some (.anchor name) => advance; return some (← openAnchor name)
  | _ => return none

/-- Takes the tag in front of a node, if there is one. -/
def tag : ReadNode (Option (String × String)) := do
  match ← peek with
  | some (.tag handle suffix) => advance; return some (handle, suffix)
  | _ => return none

/-- Takes the anchor and the tag in front of a node, in either order. -/
def properties : ReadNode (Option Nat × Option (String × String)) := do
  match ← anchor with
  | some id => return (some id, ← tag)
  | none =>
    match ← tag with
    | some tag => return (← anchor, some tag)
    | none => return (none, none)

/-! ### Nodes

The first argument of the functions below bounds how many of their calls can follow one another
until the tokens end. -/

mutual

/-- Reads a node. A block collection may begin here only if `block`, and a sequence without
indentation of its own only if `flush`. -/
def node (block flush : Bool) : Nat → ReadNode Node
  | 0 => failure
  | fuel + 1 => do
    if let some (.alias name) ← peek then
      advance
      return ← resolve name
    let (id, tag) ← properties
    let result ← content block flush (id.isSome || tag.isSome) tag fuel
    if let some id := id then closeAnchor id result
    return result

/-- Reads a node after its anchor and tag. If there was one of them, the node may be left out. -/
def content (block flush optional : Bool) (tag : Option (String × String)) : Nat → ReadNode Node
  | 0 => failure
  | fuel + 1 => do
    match ← peek with
    | some (.scalar style text) => advance; return .scalar style tag text
    | some .flowSequenceStart => advance; return .sequence (← flowItems true [] fuel)
    | some .flowMappingStart => advance; return .mapping (← flowEntries true [] fuel)
    | some token =>
      if token = .blockEntry && flush then return .sequence (← flushItems [] fuel)
      else if token = .blockSequenceStart && block then
        advance
        return .sequence (← blockItems [] fuel)
      else if token = .blockMappingStart && block then
        advance
        return .mapping (← blockEntries [] fuel)
      else if optional then return .scalar .plain tag ""
      else failure
    | none => if optional then return .scalar .plain tag "" else failure

/-- Reads a node unless one of the tokens `ends` shows that it is left out. -/
def nodeUnless (ends : List Token) (block flush : Bool) : Nat → ReadNode Node
  | 0 => failure
  | fuel + 1 => do
    if ← atOneOf ends then return .omitted
    node block flush fuel

/-- Reads the items of a block sequence up to its end. The items so far come last first. -/
def blockItems (items : List Node) : Nat → ReadNode (List Node)
  | 0 => failure
  | fuel + 1 => do
    if ← take .blockEnd then return items.reverse
    unless ← take .blockEntry do failure
    let item ← nodeUnless [.blockEntry, .blockEnd] true false fuel
    blockItems (item :: items) fuel

/-- Reads the items of a sequence that is indented like the mapping around it. -/
def flushItems (items : List Node) : Nat → ReadNode (List Node)
  | 0 => failure
  | fuel + 1 => do
    unless ← take .blockEntry do return items.reverse
    let item ← nodeUnless [.blockEntry, .key, .value, .blockEnd] true false fuel
    flushItems (item :: items) fuel

/-- Reads the entries of a block mapping up to its end. -/
def blockEntries (entries : List (Node × Node)) : Nat → ReadNode (List (Node × Node))
  | 0 => failure
  | fuel + 1 => do
    if ← take .blockEnd then return entries.reverse
    let ends := [.key, .value, .blockEnd]
    let key ←
      if ← take .key then nodeUnless ends true true fuel
      else if ← atOneOf [.value] then pure .omitted
      else failure
    let value ← if ← take .value then nodeUnless ends true true fuel else pure .omitted
    blockEntries ((key, value) :: entries) fuel

/-- Reads the value after a key in flow style. -/
def flowValue (ends : List Token) : Nat → ReadNode Node
  | 0 => failure
  | fuel + 1 => do
    if ← take .value then nodeUnless ends false false fuel else return .omitted

/-- Reads the entries of a flow mapping up to its end. -/
def flowEntries (first : Bool) (entries : List (Node × Node)) :
    Nat → ReadNode (List (Node × Node))
  | 0 => failure
  | fuel + 1 => do
    if ← take .flowMappingEnd then return entries.reverse
    unless first do
      unless ← take .flowEntry do failure
    let ends := [.flowEntry, .flowMappingEnd]
    if ← take .key then
      let key ← nodeUnless (.value :: ends) false false fuel
      let value ← flowValue ends fuel
      flowEntries false ((key, value) :: entries) fuel
    else if ← atOneOf [.value] then
      let value ← flowValue ends fuel
      flowEntries false ((.omitted, value) :: entries) fuel
    else if ← take .flowMappingEnd then return entries.reverse
    else
      let key ← node false false fuel
      flowEntries false ((key, .omitted) :: entries) fuel

/-- Reads the items of a flow sequence up to its end. An item with a key is a mapping of one
entry. -/
def flowItems (first : Bool) (items : List Node) : Nat → ReadNode (List Node)
  | 0 => failure
  | fuel + 1 => do
    if ← take .flowSequenceEnd then return items.reverse
    unless first do
      unless ← take .flowEntry do failure
    if ← take .flowSequenceEnd then return items.reverse
    let ends := [.flowEntry, .flowSequenceEnd]
    if ← take .key then
      let leftOut ← atOneOf (.value :: ends)
      if leftOut then advance
      let key ← if leftOut then pure .omitted else node false false fuel
      let value ← flowValue ends fuel
      flowItems false (.mapping [(key, value)] :: items) fuel
    else
      let item ← node false false fuel
      flowItems false (item :: items) fuel

end

/-- Takes tokens as long as they are `token`. -/
def takeAll (token : Token) : ReadNode Unit :=
  modify fun r => { r with tokens := r.tokens.dropWhile (· = token) }

/-- Reads the documents that are left. The first one needs no marker. -/
def documents (first : Bool) (nodes : List Node) : Nat → ReadNode (List Node)
  | 0 => failure
  | fuel + 1 => do
    unless first do takeAll .documentEnd
    if (← peek).isNone then return nodes.reverse
    let marked ← atOneOf [.directive, .documentStart]
    if marked ∨ ¬ first then
      takeAll .directive
      unless ← take .documentStart do failure
    let calls := 4 * (← get).tokens.length + 4
    let leftOut ← atOneOf [.directive, .documentStart, .documentEnd]
    let isEmpty := leftOut || (← peek).isNone
    let root ← if marked && isEmpty then pure .omitted else node true false calls
    discard (take .documentEnd)
    documents false (root :: nodes) fuel

end ReadNode

/-- The documents that the tokens describe. -/
def Node.ofTokens? (tokens : List Token) : Option (List Node) :=
  ((ReadNode.documents true [] (tokens.length + 2)).run { tokens }).map (·.1)

end BlogRouting.Yaml
