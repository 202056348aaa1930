import TunnelSoak.Json.Quoted

/-! Paths, and the files they lead to from the working directory. -/
namespace TunnelSoak

namespace Path

/-- A file of a directory: a slash stands between them unless the directory ends
in one or is empty. -/
def join (dir name : String) : String :=
  if dir.isEmpty ∨ dir.toList.getLast? = some '/' then dir ++ name else dir ++ "/" ++ name

def joinBytes (dir name : Json.Bytes) : Json.Bytes :=
  if dir.isEmpty ∨ dir.getLast? = some 47 then dir ++ name else dir ++ 47 :: name

def isAbsolute (path : String) : Bool := path.toList.head? == some '/'

/-- The names of a path, with an empty one wherever there is none. -/
def names (path : String) : List String := (path.toList.splitOn '/').map String.ofList

/-- The length in bytes from which on the system takes no path. -/
def maxLength : Nat := 4096

def isOverlong (path : String) : Bool := decide (maxLength ≤ path.utf8ByteSize)

end Path

inductive FileEntry where
  | file (content : List UInt8)
  | directory
  deriving DecidableEq, Repr

inductive Found where
  | missing
  /-- Something is there, but not even that much is to be learnt. -/
  | hidden
  /-- Something is there that cannot be read. -/
  | unreadable
  | content (bytes : List UInt8)
  deriving DecidableEq, Repr

/-- Entries by the names that lead to them from the working directory, and what is
found elsewhere by the paths that lead there. -/
structure Directory where
  entries : List (List String × FileEntry) := []
  elsewhere : List (String × Found) := []
  deriving DecidableEq, Repr

namespace Directory

def isStay (name : String) : Bool := name.isEmpty || name == "."

def entry? (d : Directory) (place : List String) : Option FileEntry :=
  if place.isEmpty then some .directory
  else (d.entries.find? fun entry => entry.1 = place).map Prod.snd

inductive Target where
  | nothing
  | outside
  | entry (entry : FileEntry)
  deriving DecidableEq, Repr

/-- Go on from a place that must be a directory unless nothing is left of the path. -/
def follow (d : Directory) : (path : List String) → (place : List String) → Target
  | [], place => ((d.entry? place).map .entry).getD .nothing
  | name :: path, place =>
    if d.entry? place ≠ some .directory then .nothing
    else if isStay name then follow d path place
    else if name = ".." then if place.isEmpty then .outside else follow d path place.dropLast
    else follow d path (place ++ [name])

def outside (d : Directory) (path : String) : Found := (d.elsewhere.lookup path).getD .missing

def stored (d : Directory) (path : String) : Found :=
  if path.isEmpty then .missing
  else if Path.isAbsolute path then d.outside path
  else
    match d.follow (Path.names path) [] with
    | .nothing => .missing
    | .outside => d.outside path
    | .entry .directory => .unreadable
    | .entry (.file content) => .content content

/-- Read a path. What is at the end of a path that the system does not take is hidden. -/
def find (d : Directory) (path : String) : Found :=
  match d.stored path with
  | .missing => .missing
  | found => if Path.isOverlong path then .hidden else found

def add (d : Directory) (place : List String) (entry : FileEntry) : Directory :=
  { d with entries := d.entries ++ [(place, entry)] }

/-- Create the directories that a path lacks, and say whether it now leads to one;
`outside` says it of a path that leads out. -/
def createFrom (outside : Bool) (d : Directory) :
    (path : List String) → (place : List String) → Bool × Directory
  | [], _ => (true, d)
  | name :: path, place =>
    if isStay name then createFrom outside d path place
    else if name = ".." then
      if place.isEmpty then (outside, d) else createFrom outside d path place.dropLast
    else
      match d.entry? (place ++ [name]) with
      | some .directory => createFrom outside d path (place ++ [name])
      | some (.file _) => (false, d)
      | none => createFrom outside (d.add (place ++ [name]) .directory) path (place ++ [name])

/-- A directory can be where nothing is, or something that may be one. -/
def admits (d : Directory) (path : String) : Bool :=
  match d.outside path with
  | .missing => true
  | .unreadable => true
  | _ => false

def create (d : Directory) (path : String) : Bool × Directory :=
  if Path.isOverlong path then (false, d)
  else if Path.isAbsolute path then (d.admits path, d)
  else d.createFrom (d.admits path) (Path.names path) []

def put (d : Directory) (path : String) (entry : FileEntry) : Directory :=
  let place := (Path.names path).filter fun name => !isStay name
  let (_, d) := d.createFrom true place.dropLast []
  d.add place entry

def entryText : List String × FileEntry → String
  | (place, .file _) => String.intercalate "/" place
  | (place, .directory) => String.intercalate "/" place ++ "/"

def listing (d : Directory) : List String :=
  (d.entries.map entryText).mergeSort fun a b => !decide (b < a)

end Directory

end TunnelSoak
