namespace FiberEffects

/-- An entry of a file tree: a file with its text, or a directory of named entries. -/
inductive FileTree where
  | file (text : String)
  | dir (entries : List (String × FileTree))

/-- Why a path does not read as a file. -/
inductive PathError where
  | notFound
  | notDirectory
  | isDirectory
  | nameTooLong
  | nulByte
  deriving DecidableEq

namespace PathError

def message : PathError → String
  | notFound => "No such file or directory (os error 2)"
  | notDirectory => "Not a directory (os error 20)"
  | isDirectory => "Is a directory (os error 21)"
  | nameTooLong => "File name too long (os error 36)"
  | nulByte => "file name contained an unexpected NUL byte"

end PathError

namespace FileTree

def child? : FileTree → String → Option FileTree
  | .dir entries, name => (entries.find? (·.1 == name)).map (·.2)
  | .file _, _ => none

def maxNameBytes : Nat := 255

def pathBytesLimit : Nat := 4096

/-- Follows the parts of a path from `here`, given the directories above it, innermost first. -/
def walk (here : FileTree) (above : List FileTree) : List String → Except PathError FileTree
  | [] => .ok here
  | part :: rest =>
    match here with
    | .file _ => .error .notDirectory
    | .dir _ =>
      if part == "" || part == "." then walk here above rest
      else if part == ".." then
        match above with
        | [] => walk here [] rest
        | up :: higher => walk up higher rest
      else if maxNameBytes < part.utf8ByteSize then .error .nameTooLong
      else
        match here.child? part with
        | some next => walk next (here :: above) rest
        | none => .error .notFound

/-- The text of the file a path names, with `root` as the root and `cwd` as the working
directory, a directory just below the root. -/
def read (root cwd : FileTree) (path : String) : Except PathError String :=
  if path.contains (Char.ofNat 0) then .error .nulByte
  else if pathBytesLimit ≤ path.utf8ByteSize then .error .nameTooLong
  else if path.isEmpty then .error .notFound
  else
    let found :=
      if path.startsWith "/" then walk root [] (path.splitOn "/")
      else walk cwd [root] (path.splitOn "/")
    match found with
    | .ok (.file text) => .ok text
    | .ok (.dir _) => .error .isDirectory
    | .error e => .error e

def emptyDir : FileTree := .dir []

def configRoot : FileTree :=
  .dir ([("dev", .dir [("null", .file "")])] ++
    (["bin", "boot", "etc", "home", "lib", "lib64", "media", "mnt", "opt", "proc", "root", "run",
      "sbin", "srv", "sys", "tmp", "usr", "var"].map fun name => (name, emptyDir)))

end FileTree

end FiberEffects
