import TonelessPinyin.Text.Utf8

/-!
The files that the command line can read: a tree of directories and files, seen from a working
directory. Paths are followed name by name.
-/
namespace TonelessPinyin.CommandLine

open Text

/-- The names to follow. A slash stands first if the path begins at the root, and two dots lead to
the directory above. -/
abbrev Path := List Text

inductive FileFault
  | missing
  | directory
  | notDirectory
  | nameTooLong
  deriving DecidableEq

namespace FileFault

def message (path : Text) : FileFault → String
  | missing => "[Errno 2] No such file or directory: " ++ quotedString path
  | directory => "[Errno 21] Is a directory: " ++ quotedString path
  | notDirectory => "[Errno 20] Not a directory: " ++ quotedString path
  | nameTooLong => "[Errno 36] File name too long: " ++ quotedString path

end FileFault

/-- The parts of a name, without those that mean nothing. -/
def parts (name : Text) : Path := (separatedBy '/' name).filter fun p => p != [] && p != ['.']

/-- The root a name begins at, if it is absolute. Exactly two slashes are a root of their own. -/
def rootOf (name : Text) : Text :=
  match (name.takeWhile (· == '/')).length with
  | 0 => []
  | 2 => ['/', '/']
  | _ => ['/']

/-- A name as it is shown. -/
def normalized (name : Text) : Text :=
  match rootOf name ++ List.intercalate ['/'] (parts name) with
  | [] => ['.']
  | t => t

namespace Path

/-- The directory that all others are in. -/
def root : Path := [['/']]

/-- The name that every directory has for the one above it. -/
def above : Text := ['.', '.']

def ofName (name : Text) : Path :=
  if rootOf name = [] then parts name else root ++ parts name

/-- The directory above one that has been reached. Above the root is the root, above the working
directory a path of dots. -/
def parent (p : Path) : Path :=
  match p.getLast? with
  | none => [above]
  | some last =>
    if last = above then p ++ [above]
    else if p = root then root
    else p.dropLast

end Path

inductive Content
  | file (bytes : List UInt8)
  | directory
  deriving DecidableEq

structure FileTree where
  /-- Files and directories by their paths; the first one counts. -/
  contents : List (Path × Content)
  deriving DecidableEq

namespace FileTree

/-- The directories that are always at the root. -/
def systemDirectories : List Text :=
  ["bin", "boot", "dev", "etc", "home", "lib", "lib64", "media", "mnt", "opt", "proc", "root",
    "run", "sbin", "srv", "sys", "tmp", "usr", "var"].map String.toList

/-- What is there in any case: directories at the root, and an empty file among the devices. -/
def system : List (Path × Content) :=
  (Path.root ++ ["dev".toList, "null".toList], .file []) ::
    systemDirectories.map fun name => (Path.root ++ [name], .directory)

/-- A tree with files by their names. Of two for one name the latter counts. -/
def ofFiles (files : List (Text × Content)) : FileTree :=
  ⟨(files.map fun p => (Path.ofName p.1, p.2)).reverse ++ system⟩

def isDirectory (t : FileTree) (p : Path) : Bool :=
  t.contents.any fun q => p.isPrefixOf q.1 && (p != q.1 || q.2 == .directory)

def file? (t : FileTree) (p : Path) : Option (List UInt8) :=
  match t.contents.lookup p with
  | some (.file bytes) => some bytes
  | _ => none

/-- No name takes more bytes. -/
def nameLimit : Nat := 255

/-- No path takes more bytes. -/
def pathLimit : Nat := 4095

/-- Follows the parts of a path from a directory. -/
def follow (t : FileTree) : Path → Path → Except FileFault (List UInt8)
  | _, [] => .error .directory
  | here, part :: rest =>
    if part = Path.above then follow t here.parent rest
    else if nameLimit < Utf8.byteCount part then .error .nameTooLong
    else
      let there := here ++ [part]
      match t.file? there with
      | some bytes => if rest.isEmpty then .ok bytes else .error .notDirectory
      | none => if t.isDirectory there then follow t there rest else .error .missing

/-- The bytes of a file by name. -/
def read (t : FileTree) (name : Text) : Except FileFault (List UInt8) :=
  if pathLimit < Utf8.byteCount (normalized name) then .error .nameTooLong
  else t.follow (if rootOf name = [] then [] else Path.root) (parts name)

end FileTree

end TonelessPinyin.CommandLine
