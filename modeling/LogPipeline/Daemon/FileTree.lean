import LogPipeline.Settings.Reader

/-!
# File trees

Files and directories in memory, and what reading a path among them yields. A path is walked name by
name: what it passes through has to be a directory, also where `..` leads back out of it.
-/

namespace LogPipeline

/-- Files and directories, each by the names that lead to it from the root. What lies on the way to
one of them is a directory too. -/
structure FileTree where
  files : List (List String × ByteArray)
  directories : List (List String)
  working : List String

namespace FileTree

inductive Entry where
  | file (content : ByteArray)
  | directory

def systemDirectories : List (List String) :=
  ["bin", "dev", "etc", "home", "lib", "opt", "proc", "root", "run", "sbin", "sys", "tmp", "usr",
    "var"].map ([·])

def ofTexts (files : List (String × String)) : FileTree :=
  let working := ["tmp", "daemon"]
  { files := (["dev", "null"], .empty) :: files.map fun f => (working ++ [f.1], f.2.toUTF8)
    directories := working :: systemDirectories
    working }

def entry? (t : FileTree) (way : List String) : Option Entry :=
  match t.files.lookup way with
  | some content => some (.file content)
  | none =>
    if (t.files.map (·.1) ++ t.directories).any way.isPrefixOf then some .directory else none

def isDirectory : FileRead := .failed "Is a directory (os error 21)"

def isNoDirectory : FileRead := .failed "Not a directory (os error 20)"

def isTooLong : FileRead := .failed "File name too long (os error 36)"

def nameLimit : Nat := 255

def pathLimit : Nat := 4095

def walk (t : FileTree) (way : List String) : List String → FileRead
  | [] =>
    match t.entry? way with
    | some (.file content) => .content content
    | some .directory => isDirectory
    | none => .missing
  | name :: rest =>
    match t.entry? way with
    | some (.file _) => isNoDirectory
    | none => .missing
    | some .directory =>
      if name = "" ∨ name = "." then t.walk way rest
      else if name = ".." then t.walk way.dropLast rest
      else if nameLimit < name.utf8ByteSize then isTooLong
      else t.walk (way ++ [name]) rest

def read (t : FileTree) (path : String) : FileRead :=
  if path.toList.contains '\x00' then .failed "file name contained an unexpected NUL byte"
  else if path = "" then .missing
  else if pathLimit < path.utf8ByteSize then isTooLong
  else t.walk (if path.startsWith "/" then [] else t.working) (path.splitOn "/")

end FileTree

end LogPipeline
