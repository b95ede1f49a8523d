import SchemaPhrase.Cli.Run

/-!
# A host of given files

A `Snapshot` is a directory whose files are given as text, and a standard input given as bytes. Its
`host` answers as a file system would: a path is followed part by part.
-/

set_option autoImplicit false

namespace SchemaPhrase.Cli

/-- The reasons why something cannot be read. -/
inductive ReadFault where
  | missing
  | directory
  /-- A file stands where a directory is needed. -/
  | notADirectory
  | invalidText
  deriving DecidableEq, Repr

/-- The text of a reason. -/
def ReadFault.message : ReadFault → String
  | missing => "No such file or directory (os error 2)"
  | directory => "Is a directory (os error 21)"
  | notADirectory => "Not a directory (os error 20)"
  | invalidText => "stream did not contain valid UTF-8"

/-- Text as bytes give it. -/
def decodeInput (bytes : ByteArray) : Except String String :=
  match String.fromUTF8? bytes with
  | some text => .ok text
  | none => .error ReadFault.invalidText.message

structure Snapshot where
  /-- The names of the files, with slashes between the parts, and their contents. -/
  files : List (String × String)
  input : ByteArray

namespace Snapshot

/-- The parts of a path. -/
def parts (path : String) : List String :=
  path.splitOn "/"

/-- Where a path leads to: a file, or a directory. -/
inductive Node where
  | file (content : String)
  /-- The directory at these parts, seen from the top; none lies outside. -/
  | directory (path : Option (List String))

/-- The entry of a directory. -/
def entry? (files : List (List String × String)) (path : List String) : Option Node :=
  match files.find? (·.1 = path) with
  | some (_, content) => some (.file content)
  | none =>
    if files.any fun file => path.isPrefixOf file.1 then some (.directory (some path)) else none

/-- The node that a path leads to from a node. -/
def follow (files : List (List String × String)) (node : Node) :
    List String → Except ReadFault Node
  | [] => .ok node
  | part :: rest =>
    match node with
    | .file _ => .error .notADirectory
    | .directory path =>
      if part = "" || part = "." then follow files node rest
      else
        match path with
        | none => if part = ".." then follow files node rest else .error .missing
        | some path =>
          if part = ".." then
            follow files (.directory (if path.isEmpty then none else some path.dropLast)) rest
          else
            match entry? files (path ++ [part]) with
            | some next => follow files next rest
            | none => .error .missing

/-- The node of a path. An absolute one leads outside. -/
def node (snapshot : Snapshot) (path : String) : Except ReadFault Node :=
  let files := snapshot.files.map fun file => (parts file.1, file.2)
  follow files (.directory (if path.startsWith "/" then none else some [])) (parts path)

/-- The content of a file. -/
def content (snapshot : Snapshot) (path : String) : Except ReadFault String :=
  match snapshot.node path with
  | .ok (.file content) => .ok content
  | .ok (.directory _) => .error .directory
  | .error fault => .error fault

/-- The snapshot as a host. -/
def host (snapshot : Snapshot) : Host Id where
  directory := "."
  readFile path := (snapshot.content path).mapError ReadFault.message
  isFile path := (snapshot.content path).isOk
  readInput := decodeInput snapshot.input

end Snapshot

end SchemaPhrase.Cli
