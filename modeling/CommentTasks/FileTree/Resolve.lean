import CommentTasks.FileTree.Access

/-!
# The real location of a path

The location of a path once every link on the way is replaced by where it points to. Names behind
something that is not there are kept as they are. A chain of links that comes back to itself leads
nowhere, and calls are nested as the links are.
-/

namespace CommentTasks.FileTree

/-- A part of the way that is still to be gone. -/
inductive Leg
  /-- Go to a name. -/
  | to (name : Text)
  /-- The way of the link at this location ends here. -/
  | arrived (link : Location)
  deriving DecidableEq, Repr

/-- The names among the legs. -/
def legNames (legs : List Leg) : List Text :=
  legs.filterMap fun leg => match leg with
    | .to name => some name
    | .arrived _ => none

/-- How many links are on their way among the legs. -/
def pending (legs : List Leg) : Nat :=
  legs.countP fun leg => match leg with
    | .to _ => false
    | .arrived _ => true

/-- The host lets a location be looked up from the root. -/
def canLookUp (t : FileTree) (l : Location) : Bool :=
  (Utf8.encode (PathName.absolute l).toText).length ≤ maxPathBytes &&
    (List.range l.length).all fun n => (t.host.refuses .search (l.take n)).isNone

/-- The target of the link that is seen at a location. -/
def linkAt? (t : FileTree) (l : Location) : Option Text :=
  if t.canLookUp l then
    match t.entry? l with
    | some (.link target) => some target
    | _ => none
  else none

/-- Go the legs from a location. The links of `fresh` were not passed yet, and `known` tells where
others have led. A link that is met again on its own way is kept as it is, with all that follows.
Nothing comes back if more links are nested than calls can be. -/
def followLegs (t : FileTree) (fresh : List Location) (known : List (Location × Location))
    (loc : Location) (legs : List Leg) : Option Location :=
  match legs with
  | [] => some loc
  | .arrived link :: rest => followLegs t fresh ((link, loc) :: known) loc rest
  | .to name :: rest =>
    if name = [] ∨ name = ['.'] then followLegs t fresh known loc rest
    else if name = "..".toList then followLegs t fresh known loc.dropLast rest
    else
      match t.linkAt? (loc ++ [name]) with
      | some target =>
        if h : loc ++ [name] ∈ fresh then
          have : (fresh.erase (loc ++ [name])).length < fresh.length := by
            have := List.length_pos_of_mem h
            rw [List.length_erase_of_mem h]
            omega
          if t.host.depths.links.any (· ≤ pending rest) then none
          else
            followLegs t (fresh.erase (loc ++ [name])) known
              (if target.head? = some '/' then [] else loc)
              ((target.splitOn '/').map .to ++ .arrived (loc ++ [name]) :: rest)
        else
          match known.lookup (loc ++ [name]) with
          | some location => followLegs t fresh known location rest
          | none =>
            some (normalNames (loc ++ name :: (legNames rest).filter fun n => n ≠ [] ∧ n ≠ ['.']))
      | none => followLegs t fresh known (loc ++ [name]) rest
termination_by (fresh.length, legs.length)

/-- The location of a path once all links are replaced. -/
def realLocation? (t : FileTree) (path : PathName) : Option Location :=
  t.followLegs t.links [] (if path.isAbsolute then [] else t.workingDirectory)
    (path.names.map .to)

/-- Why a path has no real location. -/
inductive ResolveError
  /-- A chain of links comes back to itself. -/
  | loop (path : Text)
  | nullByte
  /-- More links are nested than calls can be. -/
  | tooDeep
  deriving DecidableEq, Repr

/-- The wording of an error. -/
def ResolveError.message : ResolveError → Text
  | .loop path => "Symlink loop from ".toList ++ Text.quoted path
  | .nullByte => AccessProblem.nullByte.text
  | .tooDeep => tooDeepText

/-- The path without links, unless its links go round in a circle or too deep. -/
def resolve (t : FileTree) (path : PathName) : Except ResolveError PathName :=
  if path.toText.contains '\x00' then .error .nullByte
  else
    match t.realLocation? path with
    | none => .error .tooDeep
    | some location =>
      let real := PathName.absolute location
      match t.locate real.toText with
      | .error ⟨.tooManyLinks, text⟩ => .error (.loop text)
      | _ => .ok real

end CommentTasks.FileTree
