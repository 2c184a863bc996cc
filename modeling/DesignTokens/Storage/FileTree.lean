import DesignTokens.Assoc
import DesignTokens.Text.Basic

/-!
A small tree of files. A place is the list of steps that lead to it from the root; a path is walked
step by step, from the working directory unless it starts with a slash: a file cannot be walked
through and a step `..` goes up. A file holds text, or bytes that are none.
-/

namespace DesignTokens

/-- What a file holds. -/
inductive FileContent where
  | text (t : Text)
  | binary (bytes : List UInt8)
  deriving DecidableEq

/-- The content that bytes are: text if they spell one. -/
def FileContent.ofBytes (bytes : ByteArray) : FileContent :=
  match String.fromUTF8? bytes with
  | some s => .text s.toList
  | none => .binary bytes.toList

/-- A file or a directory. -/
inductive FileNode where
  | file (content : FileContent)
  | directory
  deriving DecidableEq

/-- The files and directories by their places, and the place of the working directory. -/
structure FileTree where
  home : List Text
  nodes : Assoc (List Text) FileNode

/-- Why a path cannot be used. -/
inductive PathFault where
  | missing | notADirectory | isADirectory
  deriving DecidableEq

/-- The system's wording of the fault. -/
def PathFault.message : PathFault → Text
  | .missing => "No such file or directory (os error 2)"
  | .notADirectory => "Not a directory (os error 20)"
  | .isADirectory => "Is a directory (os error 21)"

namespace FileTree

/-! ### Places -/

/-- What lies at a place; the root is a directory. -/
def node? (tree : FileTree) (place : List Text) : Option FileNode :=
  if place.isEmpty then some .directory else Assoc.find? place tree.nodes

/-- The tree with directories at a place and wherever the way there has none. -/
def addDirectories (tree : FileTree) (place : List Text) : FileTree :=
  ((List.range place.length).map fun n => place.take (n + 1)).foldl (fun tree step =>
    if (tree.node? step).isSome then tree
    else { tree with nodes := Assoc.insert step .directory tree.nodes }) tree

/-- The tree with a node at a place and directories on the way there. -/
def add (tree : FileTree) (place : List Text) (node : FileNode) : FileTree :=
  let tree := tree.addDirectories place.dropLast
  { tree with nodes := Assoc.insert place node tree.nodes }

/-- A tree with an empty working directory. -/
def ofHome (home : List Text) : FileTree := addDirectories ⟨home, []⟩ home

/-! ### Paths -/

/-- The place that one step leads to, whatever lies there. -/
def stepTo (here : List Text) (step : Text) : List Text :=
  if step.isEmpty || step = ['.'] then here
  else if step = ['.', '.'] then here.dropLast
  else here ++ [step]

/-- The place that further steps lead to; a place may be there or not, what is walked through has to
be a directory. -/
def walk (tree : FileTree) (here : List Text) : List Text → Except PathFault (List Text)
  | [] => .ok here
  | step :: rest =>
    match tree.node? here with
    | none => .error .missing
    | some (.file _) => .error .notADirectory
    | some .directory => walk tree (stepTo here step) rest

/-- The place of a path. -/
def locate (tree : FileTree) (path : Text) : Except PathFault (List Text) :=
  if path.isEmpty then .error .missing
  else tree.walk (if path.head? = some '/' then [] else tree.home) (Text.splitOn '/' path)

/-- The places that a path leads through, seen from a working directory, whatever lies there. -/
def placesOn (home : List Text) (path : Text) : List (List Text) :=
  let start := if path.head? = some '/' then [] else home
  let steps := Text.splitOn '/' path
  (List.range (steps.length + 1)).map fun n => (steps.take n).foldl stepTo start

/-- What lies at a path. -/
def at? (tree : FileTree) (path : Text) : Option FileNode :=
  match tree.locate path with
  | .ok place => tree.node? place
  | .error _ => none

/-- Whether anything lies at a path. -/
def has (tree : FileTree) (path : Text) : Bool := (tree.at? path).isSome

/-- Whether a directory lies at a path. -/
def hasDirectory (tree : FileTree) (path : Text) : Bool := tree.at? path == some .directory

/-- The content of the file at a path. -/
def read (tree : FileTree) (path : Text) : Except PathFault FileContent := do
  match tree.node? (← tree.locate path) with
  | some (.file content) => .ok content
  | some .directory => .error .isADirectory
  | none => .error .missing

/-- The text of the file at a path, if it holds text. -/
def text? (tree : FileTree) (path : Text) : Option Text :=
  match tree.read path with
  | .ok (.text t) => some t
  | _ => none

/-- The path without the slashes at its end. -/
def withoutEndSlash (path : Text) : Text := (path.reverse.dropWhile (· == '/')).reverse

/-- The place where a file may be written: a slash at the end of a new file's name asks for a
directory. -/
def target (tree : FileTree) (path : Text) : Except PathFault (List Text) :=
  match tree.locate path with
  | .ok place => if tree.node? place = some .directory then .error .isADirectory else .ok place
  | .error fault =>
    if path.getLast? = some '/' then
      match tree.locate (withoutEndSlash path) with
      | .ok place => if (tree.node? place).isSome then .error fault else .error .isADirectory
      | .error fault => .error fault
    else .error fault

/-- The tree with a text in the file at a path, which is made if it is not there. -/
def write (tree : FileTree) (path text : Text) : Except PathFault FileTree := do
  let place ← tree.target path
  .ok { tree with nodes := Assoc.insert place (.file (.text text)) tree.nodes }

/-- The path of a file in a directory. -/
def join (directory name : Text) : Text :=
  if directory.getLast? = some '/' then directory ++ name else directory ++ '/' :: name

/-- The name of the file at a path: its last step, or the path itself if that is no name. -/
def fileName (path : Text) : Text :=
  let steps := (Text.splitOn '/' path).filter fun step => !step.isEmpty && step ≠ ['.']
  match steps.getLast? with
  | some step => if step = ['.', '.'] then path else step
  | none => path

/-! ### Changes -/

/-- The path of a place as seen from the working directory. -/
def pathOf (tree : FileTree) (place : List Text) : Text :=
  if tree.home.isPrefixOf place then Text.join ['/'] (place.drop tree.home.length)
  else '/' :: Text.join ['/'] place

/-- The text of a node that another tree does not have at that place. -/
def freshText? (before : FileTree) (place : List Text) : FileNode → Option Text
  | .file (.text t) => if before.node? place = some (.file (.text t)) then none else some t
  | _ => none

/-- The files whose text is new, with that text, by their paths in order. -/
def changes (before after : FileTree) : List (Text × Text) :=
  let fresh := after.nodes.filterMap fun (place, node) =>
    (freshText? before place node).map (after.pathOf place, ·)
  fresh.mergeSort fun a b => !List.lex b.1 a.1 (· < ·)

end FileTree

end DesignTokens
