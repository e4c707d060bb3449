import CommentTasks.Yaml.Lexer
import CommentTasks.Yaml.Node

/-!
# From tokens to nodes

A text is one document at most: directives, a node, and the marks around it. Entries of block and
flow collections may be empty; an empty node is a scalar without text. Every anchor names one node,
and an alias follows the node that it stands for.
-/

namespace CommentTasks.Yaml

/-- The tokens that are left, with what was learned from those before. -/
structure Feed where
  tokens : List Token
  /-- What is wrong behind the last token. -/
  fault : Option Fault
  /-- The anchors of the nodes so far. -/
  anchors : List Text
  /-- The handles of tags, with what they are short for. -/
  handles : List (Text × Text)

namespace Feed

/-- The next token. -/
def peek (f : Feed) : Except Fault Token :=
  match f.tokens with
  | token :: _ => .ok token
  | [] => .error (f.fault.getD .malformed)

/-- The tokens behind the next one. -/
def next (f : Feed) : Feed := { f with tokens := f.tokens.tail }

end Feed

/-- A node without text, tag and anchor. -/
def emptyNode : Node := .scalar (commonTag "null") none []

/-- The handles of tags that are always known. -/
def standardHandles : List (Text × Text) :=
  [("!".toList, "!".toList), ("!!".toList, "tag:yaml.org,2002:".toList)]

/-- What stands before the content of a node: its anchor and its tag, in either order. -/
def properties (f : Feed) : Except Fault (Option Text × Option (Option Text × Text) × Feed) := do
  match ← f.peek with
  | .anchor name =>
    match ← f.next.peek with
    | .tag handle suffix => return (some name, some (handle, suffix), f.next.next)
    | _ => return (some name, none, f.next)
  | .tag handle suffix =>
    match ← f.next.peek with
    | .anchor name => return (some name, some (handle, suffix), f.next.next)
    | _ => return (none, some (handle, suffix), f.next)
  | _ => return (none, none, f)

/-- The tag that a handle and a suffix stand for. -/
def expandTag (f : Feed) : Option (Option Text × Text) → Except Fault (Option Text)
  | none => .ok none
  | some (none, suffix) => .ok (some suffix)
  | some (some handle, suffix) =>
    match f.handles.lookup handle with
    | some shortFor => .ok (some (shortFor ++ suffix))
    | none => malformed

/-- Note the anchor of a node; no two nodes have the same. -/
def noteAnchor (f : Feed) : Option Text → Except Fault Feed
  | none => .ok f
  | some name =>
    if f.anchors.contains name then malformed else .ok { f with anchors := name :: f.anchors }

/-- The tag of a collection: the one that is written, or that of its kind. -/
def collectionTag (written : Option Text) (kind : String) : Text :=
  match written with
  | none => commonTag kind
  | some t => if t = ['!'] then commonTag kind else t

/-- The tag of a scalar: the one that is written, or one found from its text if it is plain or
marked to have none, or that of texts. -/
def scalarTag (written : Option Text) (t : Text) (plain : Bool) : Text :=
  match written with
  | none => if plain then implicitTag t else commonTag "str"
  | some tag => if tag = ['!'] then implicitTag t else tag

/-- Where a node stands, which decides on what may follow. -/
inductive Setting
  | flow
  | block
  /-- The key or value of a block mapping: entries of a sequence need no indentation here. -/
  | blockMember
  deriving DecidableEq, Repr

/-- The token is one of a list; used to see that an entry is empty. -/
def follows (f : Feed) (tokens : List Token) : Except Fault Bool :=
  f.peek.map fun token => tokens.contains token

mutual

/-- A node. -/
def node (setting : Setting) : Nat → Feed → Except Fault (Node × Feed)
  | 0, _ => malformed
  | fuel + 1, f => do
    match ← f.peek with
    | .alias name =>
      if f.anchors.contains name then return (.alias name, f.next) else malformed
    | _ => do
      let (anchor, written, f) ← properties f
      let tag ← expandTag f written
      match ← f.peek with
      | .blockEntry =>
        if setting = .blockMember then do
          let f ← noteAnchor f anchor
          let (items, f) ← looseEntries fuel f
          return (.sequence (collectionTag tag "seq") anchor items, f)
        else emptyOrFault f anchor tag
      | .scalar t plain => do
        let f ← noteAnchor f anchor
        return (.scalar (scalarTag tag t plain) anchor t, f.next)
      | .flowSequenceStart => do
        let f ← noteAnchor f anchor
        let (items, f) ← flowEntries true fuel f.next
        return (.sequence (collectionTag tag "seq") anchor items, f)
      | .flowMappingStart => do
        let f ← noteAnchor f anchor
        let (members, f) ← flowMembers true fuel f.next
        return (.mapping (collectionTag tag "map") anchor members, f)
      | .blockSequenceStart =>
        if setting = .flow then emptyOrFault f anchor tag
        else do
          let f ← noteAnchor f anchor
          let (items, f) ← blockEntries fuel f.next
          return (.sequence (collectionTag tag "seq") anchor items, f)
      | .blockMappingStart =>
        if setting = .flow then emptyOrFault f anchor tag
        else do
          let f ← noteAnchor f anchor
          let (members, f) ← blockMembers fuel f.next
          return (.mapping (collectionTag tag "map") anchor members, f)
      | _ => emptyOrFault f anchor tag

/-- A node without content, which has to have an anchor or a tag. -/
def emptyOrFault (f : Feed) (anchor tag : Option Text) : Except Fault (Node × Feed) :=
  if anchor.isNone && tag.isNone then malformed
  else do
    let f ← noteAnchor f anchor
    return (.scalar (scalarTag tag [] true) anchor [], f)

/-- The entries of a block sequence, up to its end. -/
def blockEntries : Nat → Feed → Except Fault (List Node × Feed)
  | 0, _ => malformed
  | fuel + 1, f => do
    match ← f.peek with
    | .blockEntry => do
      let f := f.next
      let (n, f) ← if ← follows f [.blockEntry, .blockEnd] then pure (emptyNode, f)
        else node .block fuel f
      let (rest, f) ← blockEntries fuel f
      return (n :: rest, f)
    | .blockEnd => return ([], f.next)
    | _ => malformed

/-- The entries of a block sequence that is not indented, up to the next key or the end of the
mapping around it. -/
def looseEntries : Nat → Feed → Except Fault (List Node × Feed)
  | 0, _ => malformed
  | fuel + 1, f => do
    match ← f.peek with
    | .blockEntry => do
      let f := f.next
      let (n, f) ← if ← follows f [.blockEntry, .key, .value, .blockEnd] then pure (emptyNode, f)
        else node .block fuel f
      let (rest, f) ← looseEntries fuel f
      return (n :: rest, f)
    | _ => return ([], f)

/-- The members of a block mapping, up to its end. -/
def blockMembers : Nat → Feed → Except Fault (List (Node × Node) × Feed)
  | 0, _ => malformed
  | fuel + 1, f => do
    match ← f.peek with
    | .key => do
      let f := f.next
      let (k, f) ← if ← follows f [.key, .value, .blockEnd] then pure (emptyNode, f)
        else node .blockMember fuel f
      let (v, f) ← blockValue fuel f
      let (rest, f) ← blockMembers fuel f
      return ((k, v) :: rest, f)
    | .blockEnd => return ([], f.next)
    | _ => malformed

/-- The value behind a key of a block mapping, which may be missing. -/
def blockValue : Nat → Feed → Except Fault (Node × Feed)
  | 0, _ => malformed
  | fuel + 1, f => do
    match ← f.peek with
    | .value => do
      let f := f.next
      if ← follows f [.key, .value, .blockEnd] then return (emptyNode, f)
      else node .blockMember fuel f
    | _ => return (emptyNode, f)

/-- The entries of a flow sequence, up to its end. An entry with a key is a mapping of one
member. -/
def flowEntries (first : Bool) : Nat → Feed → Except Fault (List Node × Feed)
  | 0, _ => malformed
  | fuel + 1, f => do
    match ← f.peek with
    | .flowSequenceEnd => return ([], f.next)
    | token => do
      let f ← if first then pure f else if token = .flowEntry then pure f.next else malformed
      match ← f.peek with
      | .key => do
        let f := f.next
        let (k, f) ← if ← follows f [.value, .flowEntry, .flowSequenceEnd] then pure (emptyNode, f)
          else node .flow fuel f
        let (v, f) ← flowValue [.flowEntry, .flowSequenceEnd] fuel f
        let (rest, f) ← flowEntries false fuel f
        return (.mapping (commonTag "map") none [(k, v)] :: rest, f)
      | .flowSequenceEnd => return ([], f.next)
      | _ => do
        let (n, f) ← node .flow fuel f
        let (rest, f) ← flowEntries false fuel f
        return (n :: rest, f)

/-- The members of a flow mapping, up to its end. A member without a key mark is a key alone. -/
def flowMembers (first : Bool) : Nat → Feed → Except Fault (List (Node × Node) × Feed)
  | 0, _ => malformed
  | fuel + 1, f => do
    match ← f.peek with
    | .flowMappingEnd => return ([], f.next)
    | token => do
      let f ← if first then pure f else if token = .flowEntry then pure f.next else malformed
      match ← f.peek with
      | .key => do
        let f := f.next
        let (k, f) ← if ← follows f [.value, .flowEntry, .flowMappingEnd] then pure (emptyNode, f)
          else node .flow fuel f
        let (v, f) ← flowValue [.flowEntry, .flowMappingEnd] fuel f
        let (rest, f) ← flowMembers false fuel f
        return ((k, v) :: rest, f)
      | .flowMappingEnd => return ([], f.next)
      | _ => do
        let (k, f) ← node .flow fuel f
        let (rest, f) ← flowMembers false fuel f
        return ((k, emptyNode) :: rest, f)

/-- The value behind a key of a flow collection, which may be missing. -/
def flowValue (closers : List Token) : Nat → Feed → Except Fault (Node × Feed)
  | 0, _ => malformed
  | fuel + 1, f => do
    match ← f.peek with
    | .value => do
      let f := f.next
      if ← follows f closers then return (emptyNode, f) else node .flow fuel f
    | _ => return (emptyNode, f)

end

/-! ### Documents -/

/-- The directives before a document: at most one version, which has to be the first, and handles
for tags. -/
def directives (version : Bool) : Nat → Feed → Except Fault Feed
  | 0, f => .ok f
  | fuel + 1, f => do
    match ← f.peek with
    | .directive (.version major) =>
      if version || major ≠ 1 then malformed else directives true fuel f.next
    | .directive (.tagHandle handle shortFor) =>
      if (f.handles.lookup handle).isSome then malformed
      else directives version fuel { f.next with handles := f.handles ++ [(handle, shortFor)] }
    | .directive .other => directives version fuel f.next
    | _ => .ok { f with handles := f.handles ++ standardHandles }

/-- The tokens behind marks that end a document. -/
def skipDocumentEnds : Nat → Feed → Except Fault Feed
  | 0, f => .ok f
  | fuel + 1, f => do
    match ← f.peek with
    | .documentEnd => skipDocumentEnds fuel f.next
    | _ => return f

/-- The first document, if there is one. -/
def firstDocument (f : Feed) : Except Fault (Option Node × Feed) := do
  let fuel := 4 * f.tokens.length + 4
  match ← f.peek with
  | .streamEnd => return (none, f)
  | .directive _ | .documentStart => do
    let f ← directives false fuel { f with handles := [] }
    match ← f.peek with
    | .documentStart =>
      match ← f.next.peek with
      | .directive _ | .documentStart | .documentEnd | .streamEnd => return (some emptyNode, f.next)
      | _ => do
        let (n, f) ← node .block fuel f.next
        return (some n, f)
    | _ => malformed
  | _ => do
    let (n, f) ← node .block fuel { f with handles := standardHandles }
    return (some n, f)

/-- The node of the only document of a text, if the text holds one. -/
def documentNode (t : Text) : Except Fault (Option Node) := do
  let (tokens, fault) := tokensOf t
  let (n, f) ← firstDocument ⟨tokens, fault, [], []⟩
  if n.isNone then return none
  else
    let f ← skipDocumentEnds f.tokens.length f
    match ← f.peek with
    | .streamEnd => return n
    | _ => malformed

end CommentTasks.Yaml
