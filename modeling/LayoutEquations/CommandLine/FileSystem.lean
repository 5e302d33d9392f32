/-!
# Files by name

The commands read whole text files. `FileReader` is what they read with, `ReadError` why a file cannot be read, and
`FileSystem.read` a reader over files that are given with their contents. A path is walked part by part
(`FileSystem.step`), so that the first part that leads nowhere decides the error.
-/

namespace LayoutEquations.CommandLine

/-! ## Readers -/

/-- Why a file cannot be read. -/
inductive ReadError where
  | notFound
  | accessDenied
  | notDirectory
  | isDirectory
  | nameTooLong
  | notText
  | other (reason : String)
deriving DecidableEq

def ReadError.message : ReadError → String
  | notFound => "No such file or directory (os error 2)"
  | accessDenied => "Permission denied (os error 13)"
  | notDirectory => "Not a directory (os error 20)"
  | isDirectory => "Is a directory (os error 21)"
  | nameTooLong => "File name too long (os error 36)"
  | notText => "stream did not contain valid UTF-8"
  | other reason => reason

/-- The content of the file at a path. -/
abbrev FileReader := String → Except ReadError String

/-! ## Parts of a text -/

/-- Puts a character in front of the first part. -/
def consFirst (c : Char) : List (List Char) → List (List Char)
  | [] => [[c]]
  | part :: parts => (c :: part) :: parts

/-- The parts of a list of characters between separators. -/
def splitChars (sep : Char) : List Char → List (List Char)
  | [] => [[]]
  | c :: cs => if c = sep then [] :: splitChars sep cs else consFirst c (splitChars sep cs)

/-- The parts of a text between separators. -/
def splitText (sep : Char) (text : String) : List String :=
  (splitChars sep text.toList).map String.ofList

/-! ## Paths -/

/-- The names that a path goes through. -/
def pathNames (path : String) : List String :=
  (splitText '/' path).filter fun part => part ≠ "" ∧ part ≠ "."

/-- The extension of the file name that a path ends in: what stands behind the last point of the name, if something
stands before it. -/
def extension? (path : String) : Option String := do
  let name ← (pathNames path).getLast?
  let behind := name.toList.reverse.takeWhile (· ≠ '.')
  let before := (name.toList.reverse.dropWhile (· ≠ '.')).drop 1
  if before.isEmpty || name = ".." then none else some (String.ofList behind.reverse)

/-- The number of bytes that a name may have at most. -/
def maxNameSize : Nat := 255

/-- The number of bytes that a path may have at most. -/
def maxPathSize : Nat := 4095

/-! ## File systems -/

/-- What stands at a place. A link leads on to names from the root, none of them a link again. -/
inductive Entry where
  | folder
  | file (content : String)
  | link (target : List String)

/-- What stands where, each place given by the names that lead to it from the root. -/
structure FileSystem where
  entries : List (List String × Entry)
  /-- The place that a path without a leading slash starts from. -/
  start : List String

namespace FileSystem

/-- What stands at a place. The way to an entry leads through folders. -/
def entry? (fs : FileSystem) (place : List String) : Option Entry :=
  match fs.entries.lookup place with
  | some e => some e
  | none => if fs.entries.any fun e => place.isPrefixOf e.1 then some .folder else none

/-- The place that a name in a folder stands for. -/
def child? (fs : FileSystem) (place : List String) (name : String) : Option (List String) :=
  match fs.entry? (place ++ [name]) with
  | none => none
  | some (.link target) => some target
  | some _ => some (place ++ [name])

/-- Follows one part of a path. Every part, an empty one too, starts from a folder; above the root is the root. -/
def step (fs : FileSystem) (place : List String) (part : String) : Except ReadError (List String) :=
  match fs.entry? place with
  | some .folder =>
    if part = "" ∨ part = "." then .ok place
    else if part = ".." then .ok place.dropLast
    else if maxNameSize < part.utf8ByteSize then .error .nameTooLong
    else match fs.child? place part with
      | some child => .ok child
      | none => .error .notFound
  | _ => .error .notDirectory

/-- The place that a path leads to. -/
def walk (fs : FileSystem) (path : String) : Except ReadError (List String) :=
  (splitText '/' path).foldlM fs.step (if path.toList.head? = some '/' then [] else fs.start)

/-- Reads the file that a path leads to. -/
def read (fs : FileSystem) : FileReader := fun path => do
  if path = "" then .error .notFound
  else if maxPathSize < path.utf8ByteSize then .error .nameTooLong
  else match fs.entry? (← fs.walk path) with
    | some (.file content) => .ok content
    | some .folder => .error .isDirectory
    | _ => .error .notFound

end FileSystem

/-! ## A working folder in a bare system -/

/-- What every system has: the folders at its root, a device that holds nothing, and the standard input, which is
empty here. -/
def bareEntries : List (List String × Entry) :=
  ["boot", "dev", "etc", "home", "media", "mnt", "opt", "proc", "root", "run", "srv", "sys", "tmp", "usr", "var"].map
    (fun name => ([name], .folder)) ++
  ["bin", "lib", "sbin"].flatMap (fun name => [([name], .link ["usr", name]), (["usr", name], .folder)]) ++
  [(["dev", "null"], .file ""), (["proc", "self", "fd", "0"], .file ""),
    (["dev", "fd"], .link ["proc", "self", "fd"]), (["dev", "stdin"], .link ["proc", "self", "fd", "0"])]

/-- The folder that the program works in, one of those for temporary files. Its name is unknown, so it has the one
that no path spells. -/
def workingFolder : List String := ["tmp", ""]

/-- A bare system whose working folder holds files with these names and contents. -/
def FileSystem.ofFiles (files : List (String × String)) : FileSystem where
  entries := files.map (fun (path, content) => (workingFolder ++ pathNames path, .file content)) ++
    [(workingFolder, .folder), (["proc", "self", "cwd"], .link workingFolder)] ++ bareEntries
  start := workingFolder

end LayoutEquations.CommandLine
