import BridgeLedger.Utf8

/-!
# Files and directories

A file tree maps the names on the way from the root to what is there: a directory, a file, a symbolic link or a socket.
A path is walked name by name from a starting place; every name but the last must lead to a directory, `..` goes back to
the directory above, and a link is replaced by its target, at most forty times on one walk. Where a walk arrives is
named by a list without `.`, `..` or links: its canonical place.
-/

namespace BridgeLedger

inductive FileError where
  | notFound | exists | notDirectory | isDirectory | nameTooLong | tooManyLinks | noDevice | nulByte
deriving DecidableEq, Repr

def FileError.message : FileError → String
  | .notFound => "No such file or directory (os error 2)"
  | .noDevice => "No such device or address (os error 6)"
  | .exists => "File exists (os error 17)"
  | .notDirectory => "Not a directory (os error 20)"
  | .isDirectory => "Is a directory (os error 21)"
  | .nameTooLong => "File name too long (os error 36)"
  | .tooManyLinks => "Too many levels of symbolic links (os error 40)"
  | .nulByte => "file name contained an unexpected NUL byte"

inductive Node where
  | directory (mode : Nat)
  | file (content : List UInt8)
  | link (target : String)
  | socket
deriving DecidableEq

/-- The names from the root to a place. -/
abbrev Place := List String

def Place.text (place : Place) : String := "/" ++ "/".intercalate place

/-- What is at each place, apart from the root, which is a directory. -/
structure FileTree where
  entries : List (Place × Node) := []
deriving DecidableEq

namespace FileTree

def node? (tree : FileTree) (place : Place) : Option Node :=
  if place.isEmpty then some (.directory 0o755) else tree.entries.lookup place

def isDirectoryAt (tree : FileTree) (place : Place) : Bool :=
  match tree.node? place with
  | some (.directory _) => true
  | _ => false

def add (tree : FileTree) (place : Place) (node : Node) : FileTree :=
  { entries := tree.entries ++ [(place, node)] }

def replace (tree : FileTree) (place : Place) (node : Node) : FileTree :=
  { entries := tree.entries.map fun entry => if entry.1 = place then (place, node) else entry }

/-! ## Walking -/

inductive Purpose where
  | find
  /-- To find what is there or where it can be made: the last part need not exist, but it must not be followed by a
  slash, which only a directory may have. -/
  | create
  /-- To name what is there: the path from the root must nowhere be too long. -/
  | name
deriving DecidableEq, Repr

/-- How far a walk gets without following a link. -/
inductive Walk where
  | arrived (place : Place)
  | link (base : Place) (target : String) (rest : List String)

def pathLimit : Nat := 4096

def advance (tree : FileTree) (purpose : Purpose) : Place → List String → Except FileError Walk
  | place, [] => .ok (.arrived place)
  | place, part :: rest =>
    if tree.isDirectoryAt place then
      let next := place ++ [part]
      if part = "" ∨ part = "." then advance tree purpose place rest
      else if part = ".." then advance tree purpose place.dropLast rest
      else if purpose = .create ∧ rest ≠ [] ∧ rest.all (· == "") then .error .isDirectory
      else if 255 < part.utf8ByteSize then .error .nameTooLong
      else if purpose = .name ∧ pathLimit ≤ (Place.text next).utf8ByteSize then .error .nameTooLong
      else
        match tree.node? next with
        | none => if purpose = .create ∧ rest = [] then .ok (.arrived next) else .error .notFound
        | some (.link target) => .ok (.link place target rest)
        | some _ => advance tree purpose next rest
    else .error .notDirectory

def parts (path : String) : List String := (path.toList.splitOn '/').map String.ofList

def join (path name : String) : String :=
  if path.isEmpty || path.toList.getLast? == some '/' then path ++ name else path ++ "/" ++ name

def isAbsolute (path : String) : Bool := path.toList.head? == some '/'

def start (place : Place) (path : String) : Place := if isAbsolute path then [] else place

/-- Walks the parts of a path, following at most `links` links. -/
def walk (tree : FileTree) (purpose : Purpose) : (links : Nat) → Place → List String → Except FileError Place
  | links, place, parts =>
    match tree.advance purpose place parts with
    | .error e => .error e
    | .ok (.arrived place) => .ok place
    | .ok (.link base target rest) =>
      match links with
      | 0 => .error .tooManyLinks
      | links + 1 => walk tree purpose links (start base target) (FileTree.parts target ++ rest)

def maxLinks : Nat := 40

/-- A path as it is handed to the system, which refuses some without looking. -/
def check (path : String) : Except FileError Unit :=
  if path.toList.contains '\x00' then .error .nulByte
  else if path.isEmpty then .error .notFound
  else if pathLimit ≤ path.utf8ByteSize then .error .nameTooLong
  else .ok ()

def resolve (tree : FileTree) (here : Place) (path : String) : Except FileError Place := do
  check path
  tree.walk .find maxLinks (start here path) (parts path)

/-- The place of what the path leads to, if the path that names it is not too long. -/
def canonical (tree : FileTree) (here : Place) (path : String) : Except FileError Place := do
  check path
  tree.walk .name maxLinks (start here path) (parts path)

def exists? (tree : FileTree) (here : Place) (path : String) : Bool := (tree.resolve here path).isOk

/-! ## Reading and writing -/

def read (tree : FileTree) (here : Place) (path : String) : Except FileError (List UInt8) := do
  let place ← tree.resolve here path
  match tree.node? place with
  | some (.file content) => .ok content
  | some (.directory _) => .error .isDirectory
  | some .socket => .error .noDevice
  | _ => .error .notFound

/-- Opens the file for writing, which makes an empty one if there is none. The answer is its place. -/
def openFile (tree : FileTree) (here : Place) (path : String) : Except FileError (Place × FileTree) := do
  check path
  let place ← tree.walk .create maxLinks (start here path) (parts path)
  match tree.node? place with
  | none => .ok (place, tree.add place (.file []))
  | some (.file _) => .ok (place, tree)
  | some .socket => .error .noDevice
  | some _ => .error .isDirectory

def write (tree : FileTree) (here : Place) (path : String) (content : List UInt8) :
    Except FileError FileTree := do
  let (place, tree) ← tree.openFile here path
  return tree.replace place (.file content)

def append (tree : FileTree) (place : Place) (text : String) : FileTree :=
  match tree.node? place with
  | some (.file content) => tree.replace place (.file (content ++ Utf8.encode text))
  | _ => tree

/-! ## Making directories -/

def trim (parts : List String) : List String := (parts.reverse.dropWhile (· == "")).reverse

def make (tree : FileTree) (place : Place) (parts : List String) (node : Node) : Except FileError FileTree :=
  match (trim parts).getLast? with
  | none => .error .exists
  | some name => do
    let above ← tree.walk .find maxLinks place ((trim parts).dropLast ++ [""])
    if name = "." ∨ name = ".." then .error .exists
    else if 255 < name.utf8ByteSize then .error .nameTooLong
    else if (tree.node? (above ++ [name])).isSome then .error .exists
    else .ok (tree.add (above ++ [name]) node)

def leadsToDirectory (tree : FileTree) (place : Place) (parts : List String) : Bool :=
  match tree.walk .find maxLinks place parts with
  | .ok place => tree.isDirectoryAt place
  | .error _ => false

/-- Makes the directory. One that is there already is no error. -/
def makeOne (tree : FileTree) (mode : Nat) (place : Place) (parts : List String) : Except FileError Unit × FileTree :=
  match tree.make place parts (.directory mode) with
  | .ok tree => (.ok (), tree)
  | .error e => (if tree.leadsToDirectory place parts then .ok () else .error e, tree)

/-- Makes the directory. If the one above it is missing, makes that one first, in the same way; `above` holds the names
on the way to it, the last one first. Whatever was made before a failure stays. -/
def makeAll (tree : FileTree) (mode : Nat) (place : Place) :
    (parts above : List String) → Except FileError Unit × FileTree
  | parts, [] => tree.makeOne mode place parts
  | parts, name :: higher =>
    match tree.make place parts (.directory mode) with
    | .error .notFound =>
      match makeAll tree mode place (name :: higher).reverse higher with
      | (.error e, tree) => (.error e, tree)
      | (.ok (), tree) => tree.makeOne mode place parts
    | _ => tree.makeOne mode place parts

/-- The names in a path: its parts without empty ones and without `.`, but for one at the start of a relative path. -/
def names (path : String) : List String :=
  match parts path with
  | "." :: rest => "." :: rest.filter fun part => part != "" && part != "."
  | parts => parts.filter fun part => part != "" && part != "."

/-- Makes the directory that the path names, and those above it that are missing. An empty path names the directory
that is there. -/
def makeDirectories (tree : FileTree) (mode : Nat) (here : Place) (path : String) : Except FileError Unit × FileTree :=
  if path.isEmpty then (.ok (), tree)
  else
    match check path with
    | .error e => (.error e, tree)
    | .ok () => tree.makeAll mode (start here path) (parts path) ((names path).dropLast.reverse)

def makeAbove (tree : FileTree) (mode : Nat) (here : Place) (path : String) : FileTree :=
  (tree.makeDirectories mode here ("/".intercalate (parts path).dropLast)).2

end FileTree

end BridgeLedger
