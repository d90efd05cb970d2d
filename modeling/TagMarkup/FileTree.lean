import TagMarkup.Text

namespace TagMarkup

inductive FileTree where
  /-- A file that cannot be read has the reason instead of a content. -/
  | file (content : Except Text ByteArray)
  | directory (entries : List (Text × FileTree))

inductive PathError where
  | noEntry | notDirectory | isDirectory | nameTooLong
deriving DecidableEq

def PathError.message : PathError → Text
  | .noEntry => "No such file or directory (os error 2)"
  | .notDirectory => "Not a directory (os error 20)"
  | .isDirectory => "Is a directory (os error 21)"
  | .nameTooLong => "File name too long (os error 36)"

namespace FileTree

/-- The names in a path, between its slashes. A slash at an end has an empty name beside it. -/
def names : Text → List Text
  | [] => [[]]
  | c :: path =>
      if c = '/' then [] :: names path
      else
        match names path with
        | [] => [[c]]
        | name :: others => (c :: name) :: others

/-- A place in a tree: what is there, and the directories above it, the nearest first. -/
structure Location where
  here : FileTree
  above : List FileTree

/-- The place that a name leads to. The empty name and the point lead nowhere else, but only a
directory has them. The root is above itself. -/
def Location.enter (l : Location) (name : Text) : Except PathError Location :=
  match l.here with
  | .file _ => .error .notDirectory
  | .directory entries =>
      if name = [] ∨ name = ['.'] then .ok l
      else if name = ['.', '.'] then
        match l.above with
        | [] => .ok l
        | parent :: above => .ok ⟨parent, above⟩
      else if 255 < Text.byteWidth name then .error .nameTooLong
      else
        match entries.lookup name with
        | some there => .ok ⟨there, l.here :: l.above⟩
        | none => .error .noEntry

def Location.follow (l : Location) (path : Text) : Except PathError Location :=
  (names path).foldlM Location.enter l

/-- Where a path starts: at the root if it begins with a slash. -/
def Location.startOf (root : FileTree) (l : Location) (path : Text) : Location :=
  if path.head? = some '/' then ⟨root, []⟩ else l

/-- What a path leads to from a working directory, which is itself given by a path from the root. -/
def find (root : FileTree) (directory path : Text) : Except PathError FileTree := do
  if path = [] then throw .noEntry
  if 4095 < Text.byteWidth path then throw .nameTooLong
  let working ← Location.follow ⟨root, []⟩ directory
  let found ← (working.startOf root path).follow path
  return found.here

/-- The content of the file that a path leads to, or the reason why there is none to be read. -/
def read (root : FileTree) (directory path : Text) : Except Text ByteArray :=
  match root.find directory path with
  | .ok (.file content) => content
  | .ok (.directory _) => .error PathError.isDirectory.message
  | .error e => .error e.message

end FileTree

end TagMarkup
