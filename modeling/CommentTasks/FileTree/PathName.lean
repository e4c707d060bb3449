import CommentTasks.Text.Case

/-!
# Path names

A path as it is written: whether it starts at the root, and the names on the way. Empty names and
the name `.` say nothing and are dropped; the name `..` is kept, since what stands before it may be
a link. Exactly two slashes at the front are a root of their own.
-/

namespace CommentTasks

/-- A path as it is written. -/
structure PathName where
  /-- The slashes at the front. -/
  root : Text
  /-- The names on the way. -/
  names : List Text
  deriving DecidableEq, Repr

namespace PathName

/-- The names of a written path that say where to go. -/
def namesOf (t : Text) : List Text := (t.splitOn '/').filter fun n => n ≠ [] ∧ n ≠ ['.']

/-- The slashes at the front of a written path: none, one or two. -/
def rootOf : Text → Text
  | '/' :: '/' :: '/' :: _ => ['/']
  | '/' :: '/' :: _ => ['/', '/']
  | '/' :: _ => ['/']
  | _ => []

/-- Read a written path. -/
def ofText (t : Text) : PathName := ⟨rootOf t, namesOf t⟩

/-- The path written out; the empty path is a single dot. -/
def toText (p : PathName) : Text :=
  if p.root = [] ∧ p.names = [] then ['.'] else p.root ++ Text.join "/" p.names

/-- The path from the root along the given names. -/
def absolute (names : List Text) : PathName := ⟨['/'], names⟩

/-- The path starts at the root. -/
def isAbsolute (p : PathName) : Bool := p.root ≠ []

/-- The second path as seen from the first. -/
def append (p q : PathName) : PathName :=
  if q.isAbsolute then q else ⟨p.root, p.names ++ q.names⟩

/-- The path with one more name. -/
def child (p : PathName) (name : Text) : PathName := ⟨p.root, p.names ++ [name]⟩

/-- The path without its last name. -/
def parent (p : PathName) : PathName := ⟨p.root, p.names.dropLast⟩

/-- The last name, or nothing if there is none. -/
def name (p : PathName) : Text := p.names.getLast?.getD []

/-- The part of a name from its last dot on, if there is a character before the dot and one behind
it. -/
def suffixOf (name : Text) : Text :=
  let tail := name.reverse.takeWhile (· ≠ '.')
  let before := name.length - tail.length - 1
  if tail = [] ∨ before = 0 then [] else name.drop before

/-- The suffix of the last name. -/
def suffix (p : PathName) : Text := suffixOf p.name

end PathName

/-- A written path with `/` for every backslash. -/
def forwardSlashes (t : Text) : Text := t.map fun c => if c = '\\' then '/' else c

/-- The names of an absolute path once every `..` has taken back the name before it. -/
def normalNames (names : List Text) : List Text :=
  names.foldl (fun done n => if n = "..".toList then done.dropLast else done ++ [n]) []

/-- What two lists have in front in common is taken off both. -/
def dropCommon {α : Type} [DecidableEq α] : List α → List α → List α × List α
  | x :: xs, y :: ys => if x = y then dropCommon xs ys else (x :: xs, y :: ys)
  | xs, ys => (xs, ys)

/-- The names that lead from the directory `base` to `target`, both given by their names from the
root. -/
def namesBetween (base target : List Text) : List Text :=
  let (up, down) := dropCommon (normalNames base) (normalNames target)
  List.replicate up.length "..".toList ++ down

/-- The path of a file below `base` as it is shown: relative, with forward slashes. The base itself
is shown by its name. -/
def shownPath (base file : PathName) : Text :=
  let between := forwardSlashes (Text.join "/" (namesBetween base.names file.names))
  if between = [] ∨ between = ['.'] then file.name else between

end CommentTasks
