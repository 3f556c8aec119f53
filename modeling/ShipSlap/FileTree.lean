/-!
Reading a file by its path, in a file system given as a tree. A path is cut at `/`; empty
parts are skipped, `.` stays where it is and `..` goes up (the root is its own parent). An
absolute path starts at the root, any other at the working directory. Every part but the last
must lead through a directory (so a path that ends in `/` names a directory), and what is read
must be a file. A path holding the NUL character names nothing at all.

`hostRoot` is the file system a service meets when it starts: the usual top-level directories,
`/dev/null` (always empty) and a few system files that are not settings, under a working
directory of its own that holds nothing.
-/
namespace ShipSlap

/-- A node of a file system: a directory with its named entries, or a file with its text. -/
inductive FileNode where
  | dir (entries : List (String × FileNode))
  | file (text : String)

/-- Why a file could not be read, with the operating system's text for it. -/
inductive ReadFailure where
  /-- a part of the path names nothing -/
  | notFound
  /-- a part of the path that must be a directory is a file -/
  | notDirectory
  /-- the path names a directory -/
  | isDirectory
  /-- the path holds the NUL character, which no file name may hold -/
  | nulInName
  deriving DecidableEq, Repr

/-- The operating system's text for a read failure. -/
def ReadFailure.message : ReadFailure → String
  | .notFound => "No such file or directory (os error 2)"
  | .notDirectory => "Not a directory (os error 20)"
  | .isDirectory => "Is a directory (os error 21)"
  | .nulInName => "file name contained an unexpected NUL byte"

/-- The entry of a directory named `name`. -/
def FileNode.child? (node : FileNode) (name : String) : Option FileNode :=
  match node with
  | .dir entries => (entries.find? (·.1 == name)).map (·.2)
  | .file _ => none

/-- Whether a node is a directory. -/
def FileNode.isDir : FileNode → Bool
  | .dir _ => true
  | .file _ => false

/-- Walks the parts of a path from the node on top of `trail`, the nodes passed on the way
down (innermost first, the root last): each part must start from a directory. -/
def walk : List FileNode → List String → Except ReadFailure (List FileNode)
  | trail, [] => .ok trail
  | trail, part :: rest =>
    match trail with
    | [] => .error .notFound
    | here :: above =>
      if !here.isDir then .error .notDirectory
      else if part.isEmpty || part = "." then walk trail rest
      else if part = ".." then walk (if above.isEmpty then trail else above) rest
      else match here.child? part with
        | some next => walk (next :: trail) rest
        | none => .error .notFound

/-- Reads the file at `path`, with `root` the root directory and `cwd` the working directory
(innermost first, ending at the root). -/
def readFile (root : FileNode) (cwd : List FileNode) (path : String) : Except ReadFailure String :=
  if path.toList.contains '\x00' then .error .nulInName
  else if path.isEmpty then .error .notFound
  else
    let start := if path.startsWith "/" then [root] else cwd
    match walk start (path.splitOn "/") with
    | .error e => .error e
    | .ok [] => .error .notFound
    | .ok (.dir _ :: _) => .error .isDirectory
    | .ok (.file text :: _) => .ok text

/-- The top-level directories of a file system laid out in the usual way. -/
def topDirectories : List String :=
  ["bin", "boot", "home", "lib", "media", "mnt", "opt", "root", "run", "sbin", "srv", "sys",
    "tmp", "usr", "var"]

/-- The accounts file: text that is not TOML. -/
def accountsText : String :=
  "root:x:0:0:root:/root:/bin/bash\ndaemon:x:1:1:daemon:/usr/sbin:/usr/sbin/nologin\n"

/-- The file system a service starts in: the top-level directories (empty), `/dev/null`,
`/etc/passwd` and `/proc/self`. -/
def hostRoot : FileNode :=
  .dir (topDirectories.map (fun name => (name, .dir [])) ++
    [("dev", .dir [("null", .file "")]),
     ("etc", .dir [("passwd", .file accountsText)]),
     ("proc", .dir [("self", .dir [])])])

/-- The working directory a service starts in: an empty directory just below the root. -/
def hostCwd : List FileNode := [.dir [], hostRoot]

/-- Reads a file of the file system a service starts in. -/
def readHostFile (path : String) : Except ReadFailure String :=
  readFile hostRoot hostCwd path

end ShipSlap
