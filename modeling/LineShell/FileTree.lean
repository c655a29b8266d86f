import LineShell.Error
import LineShell.Path

/-!
# What is known of the file system

The interpreter never changes files, so what it sees of them is a value: a tree of files and
directories below the working directory.  A tree may also be a partial record, of which a path that
was never looked at is not known to be missing; reading such a path gives no answer at all.
-/

namespace LineShell

/-- What stands at a path. -/
inductive FileNode
  | file (content : ByteArray)
  | directory
  | absent (fault : FileFault)

/-- Files and directories by the components of their paths.  In a complete tree everything that is
not recorded is missing; of another one, some directories may be known by the names of their files
alone. -/
structure FileTree where
  nodes : List (List String × FileNode)
  listings : List (List String × List String)
  complete : Bool

namespace FileTree

/-- A complete tree with nothing in it. -/
def empty : FileTree := ⟨[], [], true⟩

/-- A tree of which nothing is known. -/
def unknown : FileTree := ⟨[], [], false⟩

/-- Records what stands at the end of some components. -/
def record (tree : FileTree) (path : List String) (node : FileNode) : FileTree :=
  { tree with nodes := (path, node) :: tree.nodes.filter fun (p, _) => p ≠ path }

/-- Records a directory, unless something is recorded at its path. -/
def addDirectory (tree : FileTree) (path : List String) : FileTree :=
  if (tree.nodes.lookup path).isSome then tree
  else { tree with nodes := (path, .directory) :: tree.nodes }

/-- Records what stands at a path, together with the directories on the way to it. -/
def insert (tree : FileTree) (path : String) (node : FileNode) : FileTree :=
  let parts := Path.components path
  let parents := (List.range parts.length).map parts.take
  let tree := (parents.filter (· ≠ [])).foldl addDirectory tree
  tree.record parts node

/-- The place where a path begins: the root or the working directory.  A place is given by the
components that lead to it, the last of them first, with a slash for the root. -/
def startOf (path : String) : List String := if Path.isAbsolute path then ["/"] else []

/-- What is recorded at a place.  The root, the working directory and those above it are always
there. -/
def recorded? (tree : FileTree) (place : List String) : Option FileNode :=
  if place = ["/"] || place.all (· == "..") then some .directory
  else
    match tree.nodes.lookup place.reverse with
    | some node => some node
    | none => if tree.complete then some (.absent .notFound) else none

/-- The place that a name leads to from a directory.  Above the working directory the way up is all
that is known; above the root there is nothing. -/
def enter (place : List String) (name : String) : List String :=
  if name = ".." then
    match place with
    | [] => [".."]
    | ["/"] => ["/"]
    | last :: above => if last = ".." then ".." :: place else above
  else name :: place

/-- The place that some components lead to, of which each but the last has to lead to a
directory; nothing when the tree does not tell. -/
def follow? (tree : FileTree) (place : List String) :
    List String → Option (Except FileFault (List String))
  | [] => some (.ok place)
  | name :: rest =>
    match tree.recorded? place with
    | some .directory =>
      if Path.maxNameSize < name.utf8ByteSize then some (.error .nameTooLong)
      else follow? tree (enter place name) rest
    | some (.file _) => some (.error .notDirectory)
    | some (.absent fault) => some (.error fault)
    | none => none

/-- The place that a path leads to; nothing when the tree does not tell. -/
def place? (tree : FileTree) (path : String) : Option (Except FileFault (List String)) :=
  if path.toList.contains '\x00' then some (.error .zeroInName)
  else if path.isEmpty then some (.error .notFound)
  else if !Path.fits path then some (.error .nameTooLong)
  else tree.follow? (startOf path) (Path.components path)

/-- What stands at a path, as far as the tree tells. -/
def node? (tree : FileTree) (path : String) : Option FileNode :=
  match tree.place? path with
  | none => none
  | some (.error fault) => some (.absent fault)
  | some (.ok place) =>
    match tree.recorded? place with
    | some (.file content) =>
      if Path.namesDirectory path then some (.absent .notDirectory) else some (.file content)
    | other => other

/-- The text of the file at a path; nothing when the tree does not tell. -/
def readText? (tree : FileTree) (path : String) : Option (Except FileFault String) :=
  (tree.node? path).map fun
    | .file content =>
      match String.fromUTF8? content with
      | some text => .ok text
      | none => .error .notText
    | .directory => .error .isDirectory
    | .absent fault => .error fault

/-- The lines before the first one that is not text. -/
def leadingText (content : ByteArray) : String :=
  let ends := (List.range content.size).filter fun n => content.data[n]? == some 10
  (ends.reverse.findSome? fun n => String.fromUTF8? (content.extract 0 (n + 1))).getD ""

/-- The text of the file at a path, or what comes before the first line that is not text, and
whether that is all; nothing when the tree does not tell. -/
def readLeading? (tree : FileTree) (path : String) :
    Option (Except FileFault (String × Bool)) :=
  (tree.node? path).map fun
    | .file content =>
      match String.fromUTF8? content with
      | some text => .ok (text, true)
      | none => .ok (leadingText content, false)
    | .directory => .error .isDirectory
    | .absent fault => .error fault

/-- Whether a directory is at a path. -/
def isDirectory? (tree : FileTree) (path : String) : Option Bool :=
  (tree.node? path).map fun
    | .directory => true
    | _ => false

/-- The components of the place that a path leads to, all on the way being directories. -/
def resolved (path : String) : List String :=
  ((Path.components path).foldl enter (startOf path)).reverse

/-- The names of the files in a directory that is there, as far as the tree tells. -/
def listing? (tree : FileTree) (place : List String) : Option (List String) :=
  match tree.listings.lookup place with
  | some names => some names
  | none =>
    if tree.complete then
      some (tree.nodes.filterMap fun
        | (p, .file _) => if p.dropLast = place then p.getLast? else none
        | _ => none)
    else none

/-- The names of the files in the directory at a path, in order; nothing when the tree does not
tell. -/
def fileNames? (tree : FileTree) (path : String) : Option (Except FileFault (List String)) :=
  match tree.node? path with
  | some .directory =>
    (tree.listing? (resolved path)).map fun names => .ok (names.mergeSort fun a b => decide (a ≤ b))
  | some (.file _) => some (.error .notDirectory)
  | some (.absent fault) => some (.error fault)
  | none => none

/-! ### Changes -/

/-- Records the names of the files in a directory. -/
def recordListing (tree : FileTree) (place : List String) (names : List String) : FileTree :=
  { tree with listings := (place, names) :: tree.listings }

/-- The components of the places that a path leads through. -/
def places (path : String) : List (List String) :=
  let parts := Path.components path
  (List.range (parts.length + 1)).map fun n => ((parts.take n).foldl enter (startOf path)).reverse

/-- The path of a place. -/
def placePath : List String → String
  | [] => "."
  | "/" :: parts => "/" ++ "/".intercalate parts
  | parts => "/".intercalate parts

/-- The tree once a text is written to a file.  Nothing changes when the path leads nowhere or to a
directory. -/
def write (tree : FileTree) (path text : String) : FileTree :=
  match tree.place? path with
  | some (.ok place) =>
    match tree.recorded? place, Path.namesDirectory path with
    | some .directory, _ => tree
    | _, true => tree
    | _, false => tree.record place.reverse (.file text.toUTF8)
  | _ => tree

end FileTree

end LineShell
