import ProseLinter.Files.Path

/-!
# File trees

A file tree holds files and directories at locations, a location being the names that lead from
the root to it. A path is resolved name by name: a missing name and a file in the place of a
directory are errors.

* `FileTree.resolve` leads from a path to a location.
* `FileTree.children` lists a directory in the tree's own order.
-/

namespace ProseLinter

/-- What can go wrong with a file. -/
inductive FileFault where
  | notFound
  | notADirectory
  | isADirectory
  | alreadyExists
  | nameTooLong
  | zeroByte
  | notUnicode
deriving DecidableEq, Repr

/-- The text of a fault. -/
def FileFault.message : FileFault → String
  | notFound => "No such file or directory (os error 2)"
  | notADirectory => "Not a directory (os error 20)"
  | isADirectory => "Is a directory (os error 21)"
  | alreadyExists => "File exists (os error 17)"
  | nameTooLong => "File name too long (os error 36)"
  | zeroByte => "file name contained an unexpected NUL byte"
  | notUnicode => "stream did not contain valid UTF-8"

/-- The names that lead from the root to a file or directory. -/
abbrev Location := List String

/-- A file with its content, or a directory. -/
inductive Entry where
  | file (content : ByteArray)
  | directory

/-- The files and directories below the root, and the directory from which relative paths start. -/
structure FileTree where
  entries : List (Location × Entry)
  here : Location

namespace FileTree

/-- What is at a location; the root is a directory. -/
def entry? (t : FileTree) (loc : Location) : Option Entry :=
  if loc.isEmpty then some .directory else t.entries.lookup loc

/-- The longest name, in bytes. -/
def nameLimit : Nat := 255

/-- A path has fewer bytes than this. -/
def pathLimit : Nat := 4096

/-- Follows parts of a path from a location on. -/
def follow (t : FileTree) (loc : Location) : List String → Except FileFault Location
  | [] => if (t.entry? loc).isSome then .ok loc else .error .notFound
  | part :: rest =>
    match t.entry? loc with
    | none => .error .notFound
    | some (.file _) => .error .notADirectory
    | some .directory =>
      if part == "" || part == "." then follow t loc rest
      else if part == ".." then follow t loc.dropLast rest
      else if nameLimit < part.utf8ByteSize then .error .nameTooLong
      else follow t (loc ++ [part]) rest

/-- The location that a path leads to. -/
def resolve (t : FileTree) (p : Path) : Except FileFault Location :=
  if p.text.toList.contains '\x00' then .error .zeroByte
  else if p.text == "" then .error .notFound
  else if pathLimit ≤ p.text.utf8ByteSize then .error .nameTooLong
  else if p.isAbsolute then t.follow [] (p.parts.drop 1)
  else t.follow t.here p.parts

/-- What a path leads to. -/
def find? (t : FileTree) (p : Path) : Option Entry :=
  match t.resolve p with
  | .ok loc => t.entry? loc
  | .error _ => none

/-- Whether a path leads to a file. -/
def isFile (t : FileTree) (p : Path) : Bool :=
  match t.find? p with
  | some (.file _) => true
  | _ => false

/-- Whether a path leads to a directory. -/
def isDirectory (t : FileTree) (p : Path) : Bool :=
  match t.find? p with
  | some .directory => true
  | _ => false

/-- Whether a path leads to anything. -/
def pathExists (t : FileTree) (p : Path) : Bool :=
  (t.find? p).isSome

/-- The absolute path of what a path leads to. -/
def canonical (t : FileTree) (p : Path) : Except FileFault Path :=
  (t.resolve p).map Path.ofLocation

/-- The content of a file. -/
def read (t : FileTree) (p : Path) : Except FileFault ByteArray := do
  let loc ← t.resolve p
  match t.entry? loc with
  | some (.file content) => return content
  | some .directory => throw .isADirectory
  | none => throw .notFound

/-- The content of a file as a text. -/
def readText (t : FileTree) (p : Path) : Except FileFault String := do
  let content ← t.read p
  match String.fromUTF8? content with
  | some text => return text
  | none => throw .notUnicode

/-- The names of what a directory holds, in the order of the tree. -/
def namesIn (t : FileTree) (loc : Location) : List String :=
  t.entries.filterMap fun (l, _) =>
    if l.dropLast == loc then l.getLast? else none

/-- The paths of what a directory holds, in the order of the tree. -/
def children (t : FileTree) (p : Path) : Except FileFault (List Path) := do
  let loc ← t.resolve p
  match t.entry? loc with
  | some .directory => return (t.namesIn loc).map fun name => p.join ⟨name⟩
  | some (.file _) => throw .notADirectory
  | none => throw .notFound

/-! ### Changes -/

/-- The tree with an entry at a location, in the place of what was there. -/
def put (t : FileTree) (loc : Location) (e : Entry) : FileTree :=
  if (t.entries.lookup loc).isSome then
    { t with entries := t.entries.map fun (l, old) => if l == loc then (l, e) else (l, old) }
  else { t with entries := t.entries ++ [(loc, e)] }

/-- The tree with a directory at a location and at all above it; what is there already stays. -/
def putDirectories (t : FileTree) (loc : Location) : FileTree :=
  (List.range (loc.length + 1)).foldl (fun t n =>
    let above := loc.take n
    if (t.entry? above).isSome then t else t.put above .directory) t

/-- The tree without what is at a location and below it. -/
def erase (t : FileTree) (loc : Location) : FileTree :=
  { t with entries := t.entries.filter fun (l, _) => !loc.isPrefixOf l }

/-- The location of a name in the directory of a path, which has to be there. -/
def besides (t : FileTree) (p : Path) (name : String) : Except FileFault Location := do
  let above ← match p.parent? with
    | some q => if q.text == "" then .ok t.here else t.resolve q
    | none => .error .notFound
  match t.entry? above with
  | some .directory => return above ++ [name]
  | _ => throw .notADirectory

/-- The location of a file that is to be written: its directory has to be there, and a new file has
its name at the end of the path. -/
def target (t : FileTree) (p : Path) : Except FileFault Location := do
  match t.resolve p with
  | .ok loc =>
    match t.entry? loc with
    | some .directory => throw .isADirectory
    | _ => return loc
  | .error .notFound =>
    let some name := p.fileName? | throw .notFound
    -- neither a dot nor a slash may stand behind the name
    if p.parts.reverse.find? (· != "") != some name then throw .notFound
    if p.parts.getLast? != some name then throw .isADirectory
    t.besides p name
  | .error fault => throw fault

/-- Writes a file. -/
def write (t : FileTree) (p : Path) (content : ByteArray) : Except FileFault FileTree := do
  return t.put (← t.target p) (.file content)

/-- Makes one directory. -/
def makeDirectory (t : FileTree) (p : Path) : Except FileFault FileTree := do
  match t.resolve p with
  | .ok _ => throw .alreadyExists
  | .error .notFound =>
    let some name := p.fileName? | throw .notFound
    return t.put (← t.besides p name) .directory
  | .error fault => throw fault

/-- Makes the directories of a list that are missing, one after the other, and gives the tree that
this leaves: those made before one that cannot be made stay. -/
def makeAll (t : FileTree) : List Path → Except FileFault Unit × FileTree
  | [] => (.ok (), t)
  | q :: rest =>
    if q.text == "" || t.isDirectory q then t.makeAll rest
    else
      match t.makeDirectory q with
      | .ok t => t.makeAll rest
      | .error fault => (.error fault, t)

/-- Makes a directory and those above it that are missing. -/
def makeDirectories (t : FileTree) (p : Path) : Except FileFault Unit × FileTree :=
  t.makeAll p.ancestors.reverse

end FileTree

end ProseLinter
