import CommentTasks.Text.Case
import CommentTasks.Yaml.Structure

/-!
# The values of YAML nodes

The tag of a node decides on its value. Scalars are read as what their tag says; the keys of a
mapping have to be scalars, and the members of other mappings are taken over by the merge key.
`checkDocument` finds the first fault, level by level from the root; a value is made of a node
afterwards, with a mark where a collection holds itself.
-/

namespace CommentTasks.Yaml

/-! ### Scalars -/

/-- The time of day of written parts. -/
def timeOfDay (hour minute second places : Text) : TimeOfDay :=
  ⟨Text.valueOf 10 hour, Text.valueOf 10 minute, Text.valueOf 10 second,
    Text.valueOf 10 ((places ++ List.replicate 6 '0').take 6)⟩

/-- The offset from universal time in seconds. -/
def zoneSeconds (zone : Bool × Text × Text) : Int :=
  let n : Int := (Text.valueOf 10 zone.2.1 * 60 + Text.valueOf 10 zone.2.2) * 60
  if zone.1 then -n else n

/-- A date, or a date with a time of day. -/
def timestampValue (t : Text) : Except Fault Value := do
  match timestampText? (dropFinalLineFeed t) with
  | none => .error .timestamp
  | some s => do
    let offset := s.zone.map zoneSeconds
    if (offset.map Int.natAbs).getD 0 ≥ 86400 then .error (.offset (offset.getD 0))
    else do
      let date ← (Date.make (Text.valueOf 10 s.year) (Text.valueOf 10 s.month)
        (Text.valueOf 10 s.day)).mapError .date
      match s.time with
      | none => return .date date
      | some (hour, minute, second, places) =>
        let time := timeOfDay hour minute second places
        if time.hour > 23 then .error .hour
        else if time.minute > 59 then .error .minute
        else if time.second > 59 then .error .second
        else return .dateTime date time offset

/-- A number without its sign, and whether the sign is a minus. -/
def splitNumber (t : Text) : Except Fault (Bool × Text) :=
  match t with
  | [] => .error .noDigits
  | '-' :: rest => .ok (true, rest)
  | '+' :: rest => .ok (false, rest)
  | _ => .ok (false, t)

/-- An integer in a base. -/
def integerIn (base : Nat) (t : Text) : Except Fault Int :=
  (Numeral.readInteger base t).mapError .integer

/-- The value of places in base sixty. -/
def sixtiesValue (places : List Int) : Int := places.foldl (fun n d => n * 60 + d) 0

/-- An integer without its sign. -/
def magnitude (t : Text) : Except Fault Int :=
  match t with
  | [] => .error .noDigits
  | '0' :: 'b' :: rest => integerIn 2 rest
  | '0' :: 'x' :: rest => integerIn 16 rest
  | '0' :: _ => if t = ['0'] then .ok 0 else integerIn 8 t
  | _ =>
    if t.contains ':' then ((t.splitOn ':').mapM (integerIn 10)).map sixtiesValue
    else integerIn 10 t

/-- An integer. -/
def integerValue (t : Text) : Except Fault Value := do
  let (negative, rest) ← splitNumber (t.filter (· ≠ '_'))
  let n ← magnitude rest
  return .int (if negative then -n else n)

/-- A floating-point number in decimal notation. -/
def floatIn (t : Text) : Except Fault Binary64 :=
  match Numeral.readFloat? t with
  | some x => .ok x
  | none => .error (.float t)

/-- The sum of places in base sixty, the last one first, where the current place counts `base`. -/
def sumSixties (base : Nat) (sum : Binary64) : List Binary64 → Except Fault Binary64
  | [] => .ok sum
  | x :: rest =>
    match Binary64.ofInt base with
    | .finite negative m e =>
      sumSixties (base * 60) (sum.add (x.mul (.finite negative m e))) rest
    | _ => .error .integerTooLarge

/-- A floating-point number. -/
def floatValue (t : Text) : Except Fault Value := do
  let (negative, rest) ← splitNumber (Text.lower (t.filter (· ≠ '_')))
  if rest = ".nan".toList then return .float .nan
  else do
    let x ←
      if rest = ".inf".toList then pure (Binary64.infinite false)
      else if rest.contains ':' then do
        let places ← (rest.splitOn ':').mapM floatIn
        sumSixties 1 (.finite false 0 (-1074)) places.reverse
      else floatIn rest
    return .float (if negative then x.neg else x)

/-- The value of a character in base 64. -/
def sextet? (b : UInt8) : Option Nat :=
  let c := Char.ofNat b.toNat
  if 'A' ≤ c ∧ c ≤ 'Z' then some (c.toNat - 65)
  else if 'a' ≤ c ∧ c ≤ 'z' then some (c.toNat - 71)
  else if '0' ≤ c ∧ c ≤ '9' then some (c.toNat + 4)
  else if c = '+' then some 62
  else if c = '/' then some 63
  else none

/-- The bytes in base 64, behind `count` characters of a group with the bits `bits` left over and
`pads` fillers. Other characters are passed over, and nothing counts behind a group that is filled
up. -/
def base64Bytes (count bits pads : Nat) : Bytes → Option Bytes
  | [] => if count = 0 then some [] else none
  | b :: rest =>
    if b = 0x3D then
      if 2 ≤ count ∧ 4 ≤ count + pads + 1 then some []
      else base64Bytes count bits (if 2 ≤ count then pads + 1 else pads) rest
    else
      match sextet? b with
      | none => base64Bytes count bits pads rest
      | some d =>
        match count with
        | 0 => base64Bytes 1 d 0 rest
        | 1 => (base64Bytes 2 (d % 16) 0 rest).map (.ofNat (bits * 4 + d / 16) :: ·)
        | 2 => (base64Bytes 3 (d % 4) 0 rest).map (.ofNat (bits * 16 + d / 4) :: ·)
        | _ => (base64Bytes 0 0 0 rest).map (.ofNat (bits * 64 + d) :: ·)

/-- Bytes in base 64. -/
def bytesValue (t : Text) : Except Fault Value :=
  if t.all fun c => c.toNat < 128 then
    match base64Bytes 0 0 0 (Utf8.encode t) with
    | some bytes => .ok (.bytes bytes)
    | none => malformed
  else malformed

/-- A truth value. -/
def truthValue (t : Text) : Except Fault Value :=
  let word := Text.lower t
  match truthWords.lookup word with
  | some b => .ok (.bool b)
  | none => .error (.truth word)

/-- How the text of a scalar is read, by its tag. -/
def scalarReaders : List (Text × (Text → Except Fault Value)) :=
  [(commonTag "null", fun _ => .ok .null), (commonTag "bool", truthValue),
   (commonTag "int", integerValue), (commonTag "float", floatValue),
   (commonTag "binary", bytesValue), (commonTag "timestamp", timestampValue),
   (commonTag "str", fun t => .ok (.text t))]

/-- The tags of collections. -/
def collectionTags : List Text :=
  ["seq", "map", "set", "omap", "pairs"].map commonTag

/-! ### Documents -/

/-- The nodes that aliases stand for. -/
abbrev Anchors := List (Text × Node)

/-- The node itself, or the one that an alias stands for. -/
def target (anchors : Anchors) (n : Node) : Node :=
  match n with
  | .alias name => (anchors.lookup name).getD n
  | _ => n

/-- The text of a scalar; a mapping with the key `=` stands for the value of this key. -/
def scalarText? (anchors : Anchors) : Nat → Node → Option Text
  | 0, _ => none
  | fuel + 1, n =>
    match target anchors n with
    | .scalar _ _ t => some t
    | .mapping _ _ members =>
      match members.find? fun m => (target anchors m.1).tag = commonTag "value" with
      | some (_, v) => scalarText? anchors fuel v
      | none => none
    | _ => none

/-- The value of a node with the tag of a scalar. -/
def scalarValue (anchors : Anchors) (fuel : Nat) (n : Node) : Except Fault Value :=
  match scalarReaders.lookup (target anchors n).tag with
  | some read =>
    match scalarText? anchors fuel n with
    | some t => read t
    | none => malformed
  | none => malformed

/-- The members that the value of a merge key brings in: those of a mapping, or those of several,
the last one first. `merge` gives the members of a single mapping. -/
def mergedMembers (anchors : Anchors) (merge : Node → Except Fault (List (Node × Node))) (v : Node) :
    Except Fault (List (Node × Node)) :=
  match target anchors v with
  | .mapping tag anchor members => merge (.mapping tag anchor members)
  | .sequence _ _ items => do
    let parts ← items.mapM fun item =>
      match target anchors item with
      | .mapping tag anchor members => merge (.mapping tag anchor members)
      | _ => malformed
    return parts.reverse.flatten
  | _ => malformed

/-- The key with which the members of other mappings are taken over. -/
def isMergeKey (anchors : Anchors) (k : Node) : Bool :=
  (target anchors k).tag = commonTag "merge"

/-- A key as it counts in a mapping: the key `=` is a text like any other. -/
def plainKey (anchors : Anchors) (k : Node) : Node :=
  match target anchors k with
  | .scalar tag anchor t =>
    if tag = commonTag "value" then .scalar (commonTag "str") anchor t else k
  | _ => k

/-- The members of a mapping: those that its merge keys bring in, and behind them its own. The
mappings in `opened` are being merged already, and give their own members alone. -/
def membersOf (anchors : Anchors) (opened : List Text) : Nat → Node →
    Except Fault (List (Node × Node))
  | 0, _ => .ok []
  | fuel + 1, .mapping _ anchor members => do
    let (merges, own) := members.partition fun m => isMergeKey anchors m.1
    let own := own.map fun (k, v) => (plainKey anchors k, v)
    if anchor.any opened.contains then return own
    else do
      let brought ← merges.mapM fun m =>
        mergedMembers anchors (membersOf anchors (anchor.toList ++ opened) fuel) m.2
      return brought.flatten ++ own
  | _ + 1, _ => malformed

/-! ### The first fault -/

/-- The state of a check: the anchors of the nodes that were seen, and the collections whose content
is still to be seen, the next one first. -/
structure Check where
  seen : List Text
  waiting : List Node

/-- The name under which a node is seen only once. -/
def sharedName? : Node → Option Text
  | .alias name => some name
  | n => n.anchor?

/-- See a node: a scalar has to have a value, and a collection waits. -/
def seeNode (anchors : Anchors) (fuel : Nat) (c : Check) (n : Node) : Except Fault Check :=
  let name := sharedName? n
  if name.any c.seen.contains then .ok c
  else
    let c : Check := { c with seen := name.toList ++ c.seen }
    if collectionTags.contains (target anchors n).tag then
      .ok { c with waiting := c.waiting ++ [target anchors n] }
    else (scalarValue anchors fuel n).map fun _ => c

/-- See the members of a mapping; its keys have to be scalars. -/
def seeMembers (anchors : Anchors) (fuel : Nat) :
    Check → List (Node × Node) → Except Fault Check
  | c, [] => .ok c
  | c, (k, v) :: rest => do
    let c ← seeNode anchors fuel c k
    if collectionTags.contains (target anchors k).tag then malformed
    else do
      let c ← seeNode anchors fuel c v
      seeMembers anchors fuel c rest

/-- See the entries of a list of pairs: mappings of one member each, with keys of any kind. -/
def seePairs (anchors : Anchors) (fuel : Nat) : Check → List Node → Except Fault Check
  | c, [] => .ok c
  | c, n :: rest =>
    match target anchors n with
    | .mapping _ _ [(k, v)] => do
      let c ← seeNode anchors fuel c k
      let c ← seeNode anchors fuel c v
      seePairs anchors fuel c rest
    | _ => malformed

/-- See the content of a collection. -/
def seeContent (anchors : Anchors) (fuel : Nat) (c : Check) (n : Node) : Except Fault Check :=
  match n with
  | .sequence tag _ items =>
    if tag = commonTag "seq" then items.foldlM (seeNode anchors fuel) c
    else if tag = commonTag "omap" ∨ tag = commonTag "pairs" then seePairs anchors fuel c items
    else malformed
  | .mapping tag _ _ =>
    if tag = commonTag "map" ∨ tag = commonTag "set" then do
      let members ← membersOf anchors [] fuel n
      seeMembers anchors fuel c members
    else malformed
  | _ => malformed

/-- See the collections that wait, and those that they hold. -/
def seeWaiting (anchors : Anchors) (depth : Nat) : Nat → Check → Except Fault Unit
  | 0, _ => .ok ()
  | fuel + 1, c =>
    match c.waiting with
    | [] => .ok ()
    | n :: rest => do
      let c ← seeContent anchors depth { c with waiting := rest } n
      seeWaiting anchors depth fuel c

/-! ### Values -/

/-- The values are equal as keys: numbers by value, truth values as one and zero, and moments with
an offset by the point of time. -/
def sameKey (a b : Value) : Bool :=
  let number? (v : Value) : Option Binary64 := match v with
    | .float x => some x
    | _ => none
  let integer? (v : Value) : Option Int := match v with
    | .int n => some n
    | .bool b => some (if b then 1 else 0)
    | .float x => x.integer?
    | _ => none
  match integer? a, integer? b with
  | some m, some n => m = n
  | some _, none => false
  | none, some _ => false
  | none, none =>
    match number? a, number? b with
    | some x, some y => x == y
    | some _, none => false
    | none, some _ => false
    | none, none =>
      match a, b with
      | .null, .null => true
      | .text s, .text t => s = t
      | .bytes s, .bytes t => s = t
      | .date d, .date e => d = e
      | .dateTime d t none, .dateTime e u none => d = e && t = u
      | .dateTime d t (some o), .dateTime e u (some p) =>
        Moment.ofCivil d t o = Moment.ofCivil e u p
      | _, _ => false

/-- Put a member into a map; an equal key that is there is kept with its place. -/
def putMember (k v : Value) : List (Value × Value) → List (Value × Value)
  | [] => [(k, v)]
  | (k', v') :: rest =>
    if sameKey k' k then (k', v) :: rest else (k', v') :: putMember k v rest

/-- The value of a node of a document without faults. A collection of `opened` that is met again is
marked. -/
def valueOf (anchors : Anchors) (opened : List Text) : Nat → Node → Value
  | 0, _ => .null
  | fuel + 1, n =>
    let n := target anchors n
    let isMap := n.tag = commonTag "map"
    if n.anchor?.any opened.contains then .again isMap
    else
      let opened := n.anchor?.toList ++ opened
      let value := valueOf anchors opened fuel
      match n with
      | .sequence tag _ items =>
        if tag = commonTag "seq" then .list (items.map value)
        else
          .list (items.filterMap fun item => match target anchors item with
            | .mapping _ _ [(k, v)] => some (.pair (value k) (value v))
            | _ => none)
      | .mapping tag _ _ =>
        let members := ((membersOf anchors [] fuel n).toOption).getD []
        if isMap then
          .map (members.foldl (fun done (k, v) => putMember (value k) (value v) done) [])
        else if tag = commonTag "set" then
          .set ((members.foldl (fun done (k, _) => putMember (value k) .null done) []).map
            Prod.fst)
        else ((scalarValue anchors fuel n).toOption).getD .null
      | _ => ((scalarValue anchors fuel n).toOption).getD .null

/-- A document without faults: its root, and the nodes with anchors. -/
structure Document where
  root : Node
  anchors : Anchors

namespace Document

/-- A bound on the depth of values in the document: no node is opened twice on a way down. -/
def depth (d : Document) : Nat := (d.root.size + 1) * (d.anchors.length + 2)

/-- The value of a node of the document. -/
def value (d : Document) (n : Node) : Value := valueOf d.anchors [] d.depth n

/-- Read a text that holds one document; a blank text holds none. -/
def ofText? (t : Text) : Except Fault (Option Document) := do
  match ← documentNode t with
  | none => return none
  | some root =>
    let d : Document := ⟨root, root.anchored⟩
    let c ← seeNode d.anchors d.depth ⟨[], []⟩ root
    seeWaiting d.anchors d.depth (d.depth * d.depth) c
    return some d

/-- The node of a member of a mapping with a text as its key; the last one counts. -/
def member? (d : Document) (key : Text) (n : Node) : Option Node :=
  match ((membersOf d.anchors [] d.depth n).toOption).getD [] |>.reverse |>.find? fun m =>
      match d.value m.1 with
      | .text t => t = key
      | _ => false with
  | some m => some m.2
  | none => none

/-- The values of the items of a list, each on its own; nothing is given for another value. -/
def items? (d : Document) (n : Node) : Option (List Value) :=
  match target d.anchors n with
  | .sequence tag _ items =>
    if tag = commonTag "seq" then some (items.map d.value)
    else if tag = commonTag "omap" ∨ tag = commonTag "pairs" then
      some (items.filterMap fun item => match target d.anchors item with
        | .mapping _ _ [(k, v)] => some (.pair (d.value k) (d.value v))
        | _ => none)
    else none
  | _ => none

/-- The node is a mapping, and its value a map. -/
def isMap (d : Document) (n : Node) : Bool :=
  match target d.anchors n with
  | .mapping tag _ _ => tag = commonTag "map"
  | _ => false

end Document

end CommentTasks.Yaml
