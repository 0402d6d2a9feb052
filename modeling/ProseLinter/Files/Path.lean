import ProseLinter.Text.Split

/-!
# Paths

A path keeps its text as written. Two paths are the same when their components are: repeated and
trailing slashes do not count, nor does a dot other than at the start of a relative path.

* `Path.components` are the components of a path.
* `Path.join` puts a path behind another, an absolute one taking its place.
-/

namespace ProseLinter

/-- A component of a path. -/
inductive Component where
  | root
  | current
  | parent
  | normal (name : String)
deriving DecidableEq, Repr

/-- A path as written. -/
structure Path where
  text : String
deriving DecidableEq, Repr, Inhabited

namespace Path

/-- The parts of a path between slashes. -/
def parts (p : Path) : List String :=
  (Text.splitOn '/' p.text.toList).map String.ofList

/-- Whether a path starts at the root. -/
def isAbsolute (p : Path) : Bool :=
  p.text.toList.head? == some '/'

/-- The component that a part after the first one stands for, if any. -/
def componentOf? (part : String) : Option Component :=
  if part == "" || part == "." then none
  else if part == ".." then some .parent
  else some (.normal part)

/-- The components of a path. -/
def components (p : Path) : List Component :=
  match p.parts with
  | [] => []
  | first :: rest =>
    let head :=
      if p.isAbsolute then [Component.root]
      else if first == "." then [.current]
      else (componentOf? first).toList
    head ++ rest.filterMap componentOf?

/-- Whether two paths have the same components. -/
def same (p q : Path) : Bool :=
  p.components == q.components

/-- A path is the same as itself. -/
@[simp]
theorem same_refl (p : Path) : p.same p = true := by
  simp [same]

theorem same_comm (p q : Path) : p.same q = q.same p :=
  BEq.comm

theorem same_trans {p q s : Path} (h : p.same q = true) (h' : q.same s = true) :
    p.same s = true := by
  simp only [same, beq_iff_eq] at h h' ⊢
  exact h.trans h'

/-- The last component's name, if the path ends in a name. -/
def fileName? (p : Path) : Option String :=
  match p.components.getLast? with
  | some (.normal name) => some name
  | _ => none

/-- A file name cut at its last dot: the part before and, unless the name has no dot but its first
character, the part after. -/
def splitName (name : String) : String × Option String :=
  let back := name.toList.reverse
  let after := back.takeWhile (· != '.')
  match back.dropWhile (· != '.') with
  | _ :: c :: before =>
    (String.ofList (c :: before).reverse, some (String.ofList after.reverse))
  | _ => (name, none)

/-- The file name without its extension. -/
def stem? (p : Path) : Option String :=
  p.fileName?.map fun name => (splitName name).1

/-- The extension of the file name. -/
def extension? (p : Path) : Option String :=
  p.fileName?.bind fun name => (splitName name).2

/-- Whether a part at the end of a path stands for no component. -/
def isIdle (part : String) : Bool :=
  (componentOf? part).isNone

/-- The path without its last component; none for the root and the empty path. -/
def parent? (p : Path) : Option Path :=
  let cut := fun rest : List String =>
    let kept := (rest.reverse.dropWhile isIdle).reverse
    match kept.reverse with
    | [] => none
    | _ :: before => some (before.dropWhile isIdle).reverse
  match p.parts with
  | [] => none
  | first :: rest =>
    match cut rest with
    | some kept =>
      if p.isAbsolute && kept.isEmpty then some ⟨"/"⟩
      else some ⟨String.intercalate "/" (first :: kept)⟩
    | none => if p.isAbsolute || first == "" then none else some ⟨""⟩

/-- The path `q` as seen from `p`. -/
def join (p q : Path) : Path :=
  if q.isAbsolute then q
  else if p.text == "" then q
  else if p.text.toList.getLast? == some '/' then ⟨p.text ++ q.text⟩
  else ⟨p.text ++ "/" ++ q.text⟩

/-- The order of components: the root, the dot, two dots, then names. -/
def componentLt : Component → Component → Bool
  | .normal a, .normal b => a < b
  | .normal _, _ => false
  | _, .normal _ => true
  | .parent, _ => false
  | _, .parent => true
  | .current, _ => false
  | .root, .current => true
  | .root, .root => false

/-- The order of lists of components: by the first component that differs. -/
def componentsLt : List Component → List Component → Bool
  | _, [] => false
  | [], _ :: _ => true
  | a :: as, b :: bs => componentLt a b || (a == b && componentsLt as bs)

/-- The order of paths, by components. -/
def lt (p q : Path) : Bool :=
  componentsLt p.components q.components

/-- The absolute path with the given names. -/
def ofLocation (names : List String) : Path :=
  ⟨"/" ++ String.intercalate "/" names⟩

/-- A path and all the paths above it, the nearest first. -/
def ancestorsFrom : (fuel : Nat) → Path → List Path
  | 0, p => [p]
  | fuel + 1, p =>
    match p.parent? with
    | some q => p :: ancestorsFrom fuel q
    | none => [p]

/-- A path and all the paths above it, the nearest first. -/
def ancestors (p : Path) : List Path :=
  ancestorsFrom p.components.length p

end Path

end ProseLinter
