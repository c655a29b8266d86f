import LineShell.Text.Alphanumeric
import LineShell.Text.Search

/-!
# The environment and texts that refer to it

The environment is a list of entries `NAME=VALUE`.  Two kinds of texts refer to its variables: the
text of a settings file, in which every complete reference is replaced, and the path of a file,
which may also begin with a tilde for the home directory.
-/

namespace LineShell

/-- The environment: entries of the form `NAME=VALUE`, and the home directory of the account that
the program runs under. -/
structure Environment where
  entries : List String
  accountHome : String := "/root"

namespace Environment

/-- The environment with the given variables. -/
def ofList (pairs : List (String × String)) : Environment :=
  { entries := pairs.map fun (name, value) => name ++ "=" ++ value }

/-- The environment whose entries are bytes, each entry ended by a zero.  Entries that are no text
are left out. -/
def ofBytes (bytes : List UInt8) : Environment :=
  { entries := (entriesFrom [] bytes).filterMap fun entry => String.fromUTF8? ⟨entry.toArray⟩ }
where
  /-- The entries, `pending` being the one that is read, last byte first. -/
  entriesFrom (pending : List UInt8) : List UInt8 → List (List UInt8)
    | [] => if pending.isEmpty then [] else [pending.reverse]
    | byte :: rest =>
      if byte = 0 then pending.reverse :: entriesFrom [] rest
      else entriesFrom (byte :: pending) rest

/-- The value of a variable: what stands after its name and the equals sign in the first entry that
begins with them. -/
def value? (env : Environment) (name : String) : Option String :=
  if name.isEmpty then none
  else env.entries.findSome? fun entry =>
    (Text.after? (name ++ "=").toList entry.toList).map String.ofList

/-- The value of a variable, or nothing when it is not set. -/
def valueOrEmpty (env : Environment) (name : List Char) : List Char :=
  ((env.value? (String.ofList name)).getD "").toList

/-- The home directory: the one that the environment names, or that of the account. -/
def home (env : Environment) : String :=
  match env.value? "HOME" with
  | none | some "" => env.accountHome
  | some home => home

/-! ### References in settings files -/

/-- The name in a reference, of which the dollar sign and the brace are read, and the rest after its
closing brace. -/
def referenceName? (cs : List Char) : Option (List Char × List Char) :=
  match Text.cut? ['\x7d'] cs with
  | some (name, rest) => if name.isEmpty then none else some (name, rest)
  | none => none

theorem length_of_referenceName? {cs name rest : List Char}
    (h : referenceName? cs = some (name, rest)) : rest.length < cs.length := by
  unfold referenceName? at h
  split at h
  · rename_i name' rest' hcut
    split at h
    · exact absurd h (by simp)
    · simp only [Option.some.injEq, Prod.mk.injEq] at h
      have := Text.length_of_cut? hcut
      simp_all
  · exact absurd h (by simp)

/-- The text with each complete reference replaced by the value of its variable.  A reference is a
dollar sign with a name in braces, the name being any text that is not empty and holds no closing
brace. -/
def expandReferences (env : Environment) (cs : List Char) : List Char :=
  match cs with
  | [] => []
  | c :: rest =>
    match _hr : (Text.after? ['$', '\x7b'] (c :: rest)).bind referenceName? with
    | some (name, after) =>
      env.valueOrEmpty name ++ expandReferences env after
    | none => c :: expandReferences env rest
termination_by cs.length
decreasing_by
  · obtain ⟨inner, hinner, hname⟩ := Option.bind_eq_some_iff.mp _hr
    have := length_of_referenceName? hname
    have := Text.length_of_after? hinner
    simp_all
    omega
  · simp

/-- The text of a settings file with its references replaced. -/
def expand (env : Environment) (text : String) : String :=
  String.ofList (env.expandReferences text.toList)

/-! ### Paths -/

/-- A path with the home directory in place of a tilde that stands alone or before a slash. -/
def expandTilde (env : Environment) (path : String) : String :=
  match path.toList with
  | ['~'] => env.home
  | '~' :: '/' :: rest => env.home ++ String.ofList ('/' :: rest)
  | _ => path

/-- The characters of the names of variables in paths. -/
def isVariableChar (c : Char) : Bool := Text.isAlphanumeric c || c == '_'

/-- The value of a variable in braces, of which a value to fall back on may be given after the
name; nothing when the variable is not set and there is none. -/
def bracedValue? (env : Environment) (inner : List Char) : Option (List Char) :=
  let (name, fallback) := match Text.cut? [':', '-'] inner with
    | some ([], _) => (inner, none)
    | some (name, fallback) => (name, some fallback)
    | none => (inner, none)
  ((env.value? (String.ofList name)).map String.toList).or fallback

/-- The path with each variable replaced by its value; nothing when one of them is not set.  Two
dollar signs are one, and a dollar sign before anything but a name stands for itself. -/
def expandVariables? (env : Environment) (cs : List Char) : Option (List Char) :=
  match cs with
  | [] => some []
  | '$' :: '$' :: rest => (expandVariables? env rest).map ('$' :: ·)
  | '$' :: '\x7b' :: rest =>
    match _hcut : Text.cut? ['\x7d'] rest with
    | none => (expandVariables? env rest).map fun tail => '$' :: '\x7b' :: tail
    | some (inner, after) => do
      let value ← env.bracedValue? inner
      let tail ← expandVariables? env after
      return value ++ tail
  | '$' :: c :: rest =>
    if isVariableChar c then do
      let value ← env.value? (String.ofList (c :: rest.takeWhile isVariableChar))
      let tail ← expandVariables? env (rest.dropWhile isVariableChar)
      return value.toList ++ tail
    else (expandVariables? env (c :: rest)).map ('$' :: ·)
  | c :: rest => (expandVariables? env rest).map (c :: ·)
termination_by cs.length
decreasing_by
  all_goals simp only [List.length_cons]
  · omega
  · omega
  · have := Text.length_of_cut? _hcut
    simp only [List.length_cons, List.length_nil] at this
    omega
  · have := (List.dropWhile_suffix (l := rest) isVariableChar).length_le
    omega
  · omega
  · omega

/-- A path with variables and a leading tilde replaced.  When a variable is not set, the path stays
as it is.  A tilde that comes from a variable is not replaced. -/
def expandPath (env : Environment) (path : String) : String :=
  match env.expandVariables? path.toList with
  | none => path
  | some expanded =>
    if path.toList.head? == some '~' then env.expandTilde (String.ofList expanded)
    else String.ofList expanded

end Environment

end LineShell
