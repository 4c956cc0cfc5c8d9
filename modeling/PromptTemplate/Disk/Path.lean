import PromptTemplate.Text.Cut
/-!
# Paths

A path is a text of names with slashes between them. The functions here look at the text alone:
a path is normalised by dropping empty names and single dots and letting a double dot take back
the name before it, whether or not there is anything at those places.
-/

namespace PromptTemplate.Path

/-- The names of a path between its slashes, empty ones included. -/
def names (path : String) : List String := (Text.splitAt '/' path.toList).map String.ofList

/-- The path starts at the root. -/
def isAbsolute (path : String) : Bool := ['/'].isPrefixOf path.toList

/-- The path ends with a slash. -/
def endsWithSlash (path : String) : Bool := ['/'].isSuffixOf path.toList

/-- Take one more name into a list of names, the last of which comes first. A double dot that has
no name to take back stays if `above` allows it. -/
def push (above : Bool) (stack : List String) (name : String) : List String :=
  if name = "" ∨ name = "." then stack
  else if name = ".." then
    match stack with
    | [] => if above then [".."] else []
    | top :: rest => if top = ".." then ".." :: stack else rest
  else name :: stack

/-- Names without empty ones, single dots and double dots that take a name back. -/
def reduce (above : Bool) (names : List String) : List String :=
  (names.foldl (push above) []).reverse

/-- Names with slashes between them. -/
def joinNames (names : List String) : String := "/".intercalate names

/-- The shortest path of the same meaning; a slash at the end stays. -/
def normalize (path : String) : String :=
  if path = "" then "."
  else
    let absolute := isAbsolute path
    let body := joinNames (reduce (!absolute) (names path))
    let slash := if endsWithSlash path then "/" else ""
    if body = "" then (if absolute then "/" else "." ++ slash)
    else (if absolute then "/" else "") ++ body ++ slash

/-- One path behind another. -/
def join (base path : String) : String :=
  if base = "" then normalize path
  else if path = "" then normalize base
  else normalize (base ++ "/" ++ path)

/-- The names that lead from the root to a path, seen from the directory at `cwd`. -/
def resolve (cwd : List String) (path : String) : List String :=
  reduce false (if isAbsolute path then names path else cwd ++ names path)

/-- The absolute path of names that lead from the root. -/
def absolute (names : List String) : String := "/" ++ joinNames names

/-- Two paths of names without the names that both of them begin with. -/
def dropCommon : List String → List String → List String × List String
  | a :: as, b :: bs => if a = b then dropCommon as bs else (a :: as, b :: bs)
  | as, bs => (as, bs)

/-- The path that leads from one place to another. -/
def relative (base place : List String) : String :=
  let (up, down) := dropCommon base place
  joinNames (up.map (fun _ => "..") ++ down)

/-- The path has as many octets as no path may have. -/
def isTooLong (path : String) : Bool := 4096 ≤ path.utf8ByteSize

/-- The name has more octets than a name may have. -/
def isTooLongName (name : String) : Bool := 255 < name.utf8ByteSize

/-- The paths that are passed on the way along a path, the path itself included. -/
def steps (path : String) : List String :=
  if path = "" then []
  else
    (List.range (names path).length).map fun n =>
      let passed := joinNames ((names path).take (n + 1))
      if passed = "" then "/" else passed

/-- The last name of a path that is not empty. -/
def baseName (path : String) : String :=
  (((names path).filter (· ≠ "")).getLast?).getD ""

/-- A name cut before its last dot. A dot at the start of a name begins no extension. -/
def cutExtension (name : List Char) : List Char × List Char :=
  if name = ['.', '.'] then (name, [])
  else
    match Text.cut? ['.'] name.reverse with
    | none => (name, [])
    | some (ext, stem) => if stem.isEmpty then (name, []) else (stem.reverse, '.' :: ext.reverse)

/-- The extension of a path, with its dot. -/
def extension (path : String) : List Char := (cutExtension (baseName path).toList).2

/-- The last name of a path without its extension. -/
def stem (path : String) : String := String.ofList (cutExtension (baseName path).toList).1

/-! ## Facts -/

example : normalize "a//b/../c/." = "a/c" ∧ join "/t" "/x.md" = "/t/x.md" ∧
    resolve ["t"] "a/../../b" = ["b"] := by decide +kernel

example : steps "/a/../b" = ["/", "/a", "/a/..", "/a/../b"] ∧ steps "a" = ["a"] := by
  decide +kernel

example : relative ["t", "a"] ["t", "b", "c"] = "../b/c" ∧ relative ["t"] ["t"] = "" := by
  decide +kernel

example : extension "a.b.txt" = ".txt".toList ∧ extension ".md" = [] ∧ extension "t." = ['.'] ∧
    stem "sub/a.b.txt" = "a.b" := by decide +kernel

end PromptTemplate.Path
