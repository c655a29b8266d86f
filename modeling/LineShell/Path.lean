/-!
# Paths

Paths are texts whose components are separated by slashes.  Empty components and single points name
nothing; two points name the directory above.
-/

namespace LineShell.Path

/-- The components of a path that name something. -/
def components (path : String) : List String :=
  ((splitSlashes [] path.toList).filter fun c => c ≠ [] ∧ c ≠ ['.']).map String.ofList
where
  /-- The texts between slashes, `pending` being the one that is read, last character first. -/
  splitSlashes (pending : List Char) : List Char → List (List Char)
    | [] => [pending.reverse]
    | c :: rest =>
      if c = '/' then pending.reverse :: splitSlashes [] rest
      else splitSlashes (c :: pending) rest

/-- Whether a path starts at the root. -/
def isAbsolute (path : String) : Bool := path.toList.head? == some '/'

/-- Whether a path can only name a directory: it ends in a slash, or in points. -/
def namesDirectory (path : String) : Bool :=
  match path.toList.reverse with
  | '/' :: _ => true
  | '.' :: '/' :: _ => true
  | ['.'] => true
  | _ => false

/-- The most bytes of a path. -/
def maxSize : Nat := 4095

/-- The most bytes of one component of a path. -/
def maxNameSize : Nat := 255

/-- Whether a path is short enough to be looked at. -/
def fits (path : String) : Bool := path.utf8ByteSize ≤ maxSize

/-- The name that a path ends in. -/
def fileName? (path : String) : Option String :=
  match (components path).getLast? with
  | some ".." => none
  | name => name

/-- A file name cut at its last point; a point at its beginning does not count. -/
def splitName (name : String) : String × Option String :=
  let reversed := name.toList.reverse
  match reversed.dropWhile (· != '.') with
  | '.' :: (c :: before) =>
    (String.ofList (c :: before).reverse,
      some (String.ofList (reversed.takeWhile (· != '.')).reverse))
  | _ => (name, none)

/-- The name that a path ends in, without its extension. -/
def stem? (path : String) : Option String :=
  (fileName? path).map fun name => (splitName name).1

/-- The extension of the name that a path ends in. -/
def extension? (path : String) : Option String :=
  (fileName? path).bind fun name => (splitName name).2

/-- A path with a name after it. -/
def join (dir name : String) : String :=
  if dir.isEmpty || dir.toList.getLast? == some '/' then dir ++ name else dir ++ "/" ++ name

end LineShell.Path
