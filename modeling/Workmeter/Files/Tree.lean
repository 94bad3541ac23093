/-
  Workmeter — a file system held in memory.

  An entry is a file or a directory, known by the list of names that leads to
  it from the top.  A path is resolved one component at a time, as an operating
  system walks it: every place left has to be a directory, `..` steps up, empty
  components and `.` stay.

  * `Tree.walk`: the place that the components lead to, or why they lead nowhere;
  * `Tree.files`: the answers of the tree (`Files`);
  * `Tree.write`, `Tree.makeDirectory`, `Tree.remove`: its changes.
-/
import Workmeter.Association
import Workmeter.Files.Basic

namespace Workmeter

/-- What a name can belong to. -/
inductive Entry where
  | file (bytes : List UInt8)
  | directory
  deriving DecidableEq

/-- Files and directories by the names that lead to them. -/
structure Tree where
  entries : List (List String × Entry) := []

namespace Tree

/-- A name of more bytes belongs to nothing. -/
def nameLimit : Nat := 255

/-- A path of more bytes is refused as a whole. -/
def pathLimit : Nat := 4095

/-- The entry at a place; the top is a directory. -/
def entryAt (t : Tree) (place : List String) : Option Entry :=
  if place = [] then some .directory else t.entries.lookup place

/-- The place that the components lead to from `place`. -/
def walk (t : Tree) : List String → List String → Except ReadFault (List String)
  | place, [] => .ok place
  | place, name :: rest =>
    if t.entryAt place ≠ some .directory then .error .notDirectory
    else if name = "" ∨ name = "." then walk t place rest
    else if name = ".." then walk t place.dropLast rest
    else if nameLimit < name.utf8ByteSize then .error .nameTooLong
    else match t.entryAt (place ++ [name]) with
      | none => .error .notFound
      | some _ => walk t (place ++ [name]) rest

/-- The entry that a path leads to. -/
def resolve (t : Tree) (path : Path) : Except ReadFault Entry :=
  if '\x00' ∈ path.text.toList then .error .nulInName
  else if path.text.isEmpty then .error .notFound
  else if pathLimit < path.text.utf8ByteSize then .error .nameTooLong
  else match t.walk [] path.components with
    | .error fault => .error fault
    | .ok place =>
      match t.entryAt place with
      | some entry => .ok entry
      | none => .error .notFound

/-- The content of an entry. -/
def Entry.content : Entry → Content
  | .file bytes => .ok bytes
  | .directory => .error .isDirectory

/-- The answers of the tree. -/
def files (t : Tree) : Files where
  isDirectory path := match t.resolve path with
    | .ok .directory => true
    | _ => false
  opened path := (t.resolve path).map Entry.content

/-- The names of a path, without the components that stay in place. -/
def names (path : Path) : List String :=
  path.components.filter fun name => name ≠ "" ∧ name ≠ "."

/-- Gives the place an entry. -/
def set (t : Tree) (place : List String) (entry : Entry) : Tree :=
  ⟨(place, entry) :: t.entries.filter (·.1 ≠ place)⟩

/-- Makes the place, and all above it, directories. -/
def makeDirectory (t : Tree) (place : List String) : Tree :=
  (List.range place.length).foldl (fun t depth => t.set (place.take (depth + 1)) .directory) t

/-- Writes a file, making the directories above it. -/
def write (t : Tree) (place : List String) (bytes : List UInt8) : Tree :=
  (t.makeDirectory place.dropLast).set place (.file bytes)

/-- Removes the place and all below it. -/
def remove (t : Tree) (place : List String) : Tree :=
  ⟨t.entries.filter fun e => !place.isPrefixOf e.1⟩

/-- A place that was set has that entry, and every other place keeps its own. -/
theorem entryAt_set (t : Tree) {place : List String} (h : place ≠ []) (entry : Entry)
    (other : List String) :
    (t.set place entry).entryAt other = if other = place then some entry else t.entryAt other := by
  unfold entryAt set
  by_cases ho : other = place
  · subst ho; simp [h]
  · have : (other == place) = false := by simpa using ho
    simp only [List.lookup_cons, this, if_neg ho]
    rw [Association.lookup_filter fun t => t ≠ place]
    simp [ho]

end Tree

end Workmeter
