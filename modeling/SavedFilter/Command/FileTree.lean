import SavedFilter.Command.Run

/-! # Trees of files

Files in memory, as a stand-in for a file system. A path is followed name by name, from the root if
it starts with a slash and from the working folder otherwise. Each name but the last has to lead to
a folder, and a path that ends with a slash has to do so as a whole. -/
set_option autoImplicit false
namespace SavedFilter

/-- The names on the way from the root to a place, none of them `.` or `..`. -/
abbrev Place := List String

/-- Files by their places, with the place where relative paths start and folders that may hold no
file. The folders above a file are there with it. -/
structure FileTree where
  working : Place
  folders : List Place
  files : List (Place × String)

namespace FileTree

def names (path : String) : List String :=
  ((path.toList.splitOn '/').map String.ofList).filter (· ≠ "")

def startsWithSlash (path : String) : Bool := path.toList.head? = some '/'

def endsWithSlash (path : String) : Bool := path.toList.getLast? = some '/'

def isFolder (t : FileTree) (p : Place) : Bool :=
  (t.working :: t.folders ++ t.files.map fun f => f.1.dropLast).any fun q => p.isPrefixOf q

def file? (t : FileTree) (p : Place) : Option String := t.files.lookup p

def nameLimit : Nat := 255

def pathLimit : Nat := 4095

/-- One step by a name. The root is the folder above itself. -/
def step (t : FileTree) (p : Place) (name : String) : Except FileFault Place :=
  if t.isFolder p then
    if name = "." then .ok p
    else if name = ".." then .ok p.dropLast
    else if nameLimit < name.utf8ByteSize then .error .nameTooLong
    else .ok (p ++ [name])
  else if (t.file? p).isSome then .error .notDirectory
  else .error .notFound

def follow (t : FileTree) (path : String) (names : List String) : Except FileFault Place :=
  if path = "" then .error .notFound
  else if pathLimit < path.utf8ByteSize then .error .nameTooLong
  else names.foldlM t.step (if startsWithSlash path then [] else t.working)

def read (t : FileTree) (path : String) : Except FileFault String := do
  let p ← t.follow path (names path)
  if t.isFolder p then throw .isDirectory
  match t.file? p with
  | none => throw .notFound
  | some text => if endsWithSlash path then throw .notDirectory else return text

/-- The place that may be written at. Behind a slash there is none: there a folder would have to be
made. -/
def target (t : FileTree) (path : String) : Except FileFault Place := do
  if endsWithSlash path then
    let _ ← t.follow path ((names path).dropLast ++ ["."])
    throw .isDirectory
  else
    let p ← t.follow path (names path)
    if t.isFolder p then throw .isDirectory else return p

def write (t : FileTree) (path text : String) : Except FileFault FileTree := do
  let p ← t.target path
  return { t with files := (p, text) :: t.files }

def asFiles : Files (StateM FileTree) where
  read := fun path => do return (← get).read path
  write := fun path text => do
    match (← get).write path text with
    | .ok t => set t; return .ok ()
    | .error fault => return .error fault

def answer (t : FileTree) (r : Request) : Outcome × FileTree := (r.answer asFiles).run t

end FileTree
end SavedFilter
