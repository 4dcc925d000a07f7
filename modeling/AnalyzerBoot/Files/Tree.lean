import AnalyzerBoot.Word

/-!
A tree of directories and files. Paths are texts; components are separated by slashes, relative
paths start at the tree's working directory, and a path is followed one component at a time, so
that each directory on its way has to exist.
-/

set_option autoImplicit false

namespace AnalyzerBoot.Files

/-- What a path leads to. The size that a file reports may differ from what is in it. -/
inductive Entry where
  | directory
  | file (reportedSize : Nat) (content : Bytes)
  deriving DecidableEq, Repr

def Entry.isFile : Entry → Bool
  | directory => false
  | file _ _ => true

def Entry.ofContent (content : Bytes) : Entry :=
  .file content.length content

/-- A view of files: what each path leads to, if anything. -/
abbrev View := (path : String) → Option Entry

def isAbsolute (path : String) : Bool :=
  path.toList.head? == some '/'

/-- Appends a path to a directory. An absolute path stays as it is, and no second slash follows one
that ends the directory. -/
def join (directory path : String) : String :=
  if isAbsolute path then path
  else match directory.toList.getLast? with
    | none | some '/' => directory ++ path
    | some _ => directory ++ "/" ++ path

def components (path : String) : List String :=
  (path.toList.splitOn '/').map String.ofList

/-- The components from the root to an entry. -/
abbrev Place := List String

structure Tree where
  workingDirectory : Place
  -- All entries but the root, each place once.
  entries : List (Place × Entry)
  deriving DecidableEq, Repr

namespace Tree

def entry? (tree : Tree) (place : Place) : Option Entry :=
  if place = [] then some .directory else tree.entries.lookup place

def maxPathBytes : Nat := 4095

def maxNameBytes : Nat := 255

/-- Where a component leads from a place, which has to be a directory. A name need not exist. -/
def follow (tree : Tree) (place : Place) (component : String) : Option Place :=
  match tree.entry? place with
  | some .directory =>
    if component = "" ∨ component = "." then some place
    else if component = ".." then some place.dropLast
    else if maxNameBytes < component.utf8ByteSize then none
    else some (place ++ [component])
  | _ => none

def start (tree : Tree) (path : String) : Place :=
  if isAbsolute path then [] else tree.workingDirectory

def resolve (tree : Tree) (path : String) : Option Place :=
  if path = "" ∨ maxPathBytes < path.utf8ByteSize then none
  else (components path).foldlM tree.follow (tree.start path)

def lookup (tree : Tree) : View := fun path => do
  let place ← tree.resolve path
  tree.entry? place

/-- Puts an entry at a place, in place of the one that is there. -/
def put (tree : Tree) (place : Place) (entry : Entry) : Tree :=
  { tree with entries := (place, entry) :: tree.entries.filter (·.1 != place) }

/-- Where a file can be made or replaced: in a directory that exists, but not in place of one. -/
def target? (tree : Tree) (path : String) : Option Place :=
  (tree.resolve path).filter fun place => tree.entry? place ≠ some .directory

/-- Opens a file to be written; it is empty from then on. -/
def create (path : String) : StateM Tree (Option Place) := do
  let some place := (← get).target? path | return none
  modify (·.put place (.ofContent []))
  return some place

/-- Writes a file, and answers whether it could be opened. -/
def write (path : String) (content : Bytes) : StateM Tree Bool := do
  let some place ← create path | return false
  modify (·.put place (.ofContent content))
  return true

/-- The parts of a place that lie on the way to it, itself included. -/
def initialParts : Place → List Place
  | [] => [[]]
  | component :: rest => [] :: (initialParts rest).map (component :: ·)

/-- Adds a directory and those it is in, unless something is there already. -/
def makeDirectories (tree : Tree) (place : Place) : Tree :=
  ((initialParts place).filter fun directory => (tree.entry? directory).isNone).foldl
    (fun tree directory => tree.put directory .directory) tree

/-- The place of an entry that is to be made, below directories that may have to be made too. -/
def newPlace (tree : Tree) (path : String) : Place :=
  tree.start path ++ (components path).filter fun component => component != "" && component != "."

def addDirectory (tree : Tree) (path : String) : Tree :=
  tree.makeDirectories (tree.newPlace path)

def addFile (tree : Tree) (path : String) (entry : Entry) : Tree :=
  let place := tree.newPlace path
  (tree.makeDirectories place.dropLast).put place entry

end Tree

end AnalyzerBoot.Files
