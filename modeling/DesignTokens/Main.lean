import DesignTokens.CommandLine.Run
import DesignTokens.Preview.Session

/-!
The command line. What a run may look at is read from the disk into a tree of files, the run is made
on that tree, and the files that it changed are written back. Watching makes a run of every change
of an input that has settled.
-/

namespace DesignTokens.Program

/-- How to call the program. -/
def usage : String :=
  "Convert design-token JSON into CSS variables, classes or references\n\n" ++
  "Usage: design-tokens [OPTIONS] <FILES>...\n\n" ++
  "  -c, --config <FILE>            TOML config file; flags override its values\n" ++
  "      --mode <MODE>              jsonToCss, jsonToToken or tokenToToken\n" ++
  "      --format <FORMAT>          cssVars or plainJson\n" ++
  "      --responsive <RESPONSIVE>  resolution or theme\n" ++
  "      --separator <TEXT>         Joins path segments into a name\n" ++
  "      --space <TEXT>             Replacement for whitespace inside keys\n" ++
  "      --keep-spaces              Keep whitespace inside keys as is\n" ++
  "      --keep-case                Do not lowercase names\n" ++
  "      --depth <DEPTH>            Trailing path segments used for names: a count or all\n" ++
  "      --prefix <TEXT>            Prefix for generated custom properties\n" ++
  "      --source-prefix <TEXT>     Prefix for custom properties referenced in tokenToToken\n" ++
  "      --path-separator <TEXT>    Joins reference path segments in tokenToToken\n" ++
  "      --code-syntax              Prefer com.figma code-syntax values over $value\n" ++
  "      --decimals <COUNT>         Places that numbers are rounded to\n" ++
  "      --default <INDEX>          Index of the default file\n" ++
  "      --range <INDEX=MIN:MAX>    Width range of a file\n" ++
  "      --theme <INDEX=LABEL>      Theme label of a file\n" ++
  "      --keywords <FILE>          Keyword files tried in order\n" ++
  "      --mappings <FILE>          JSON file holding user property mappings\n" ++
  "      --map <NAME=TARGETS>       Add or replace a property mapping\n" ++
  "      --unmap <NAME>             Remove a user property mapping\n" ++
  "  -o, --output <PATH>            Output file, or a directory for the mode's artifact\n" ++
  "      --watch                    Regenerate whenever an input file changes\n" ++
  "  -v, --verbose\n" ++
  "  -h, --help                     Print help\n"

/-- What lies at a place on the disk; a file that cannot be read holds no text. -/
def nodeOnDisk (place : List Text) : IO (Option FileNode) := do
  let path := (← IO.currentDir) / String.ofList ('/' :: Text.join ['/'] place)
  if !(← path.pathExists) then return none
  if ← path.isDir then return some .directory
  let content ← try FileContent.ofBytes <$> IO.FS.readBinFile path catch _ => pure (.binary [])
  return some (.file content)

/-- The tree with what lies on the way to a path and at its end. -/
def lookAt (tree : FileTree) (path : Text) : IO FileTree := do
  let mut tree := tree
  for place in FileTree.placesOn tree.home path do
    if (tree.node? place).isNone then
      if let some node ← nodeOnDisk place then tree := tree.add place node
  return tree

/-- The paths that a command line may have to look at. -/
def pathsOf (a : Arguments) : List Text :=
  let artifacts :=
    [Artifact.classes, Artifact.properties, Artifact.json, Artifact.references, Artifact.fallback]
  a.files ++ a.config.toList ++ a.keywordFiles ++ KeywordSet.standardFiles ++
    a.mappingFile.toList ++ a.output.toList ++
    a.output.toList.flatMap fun target => artifacts.map (FileTree.join target ·.fileName)

/-- The files on the disk, as far as the command line may look at them. -/
def snapshot (a : Arguments) : IO FileTree := do
  let steps := Text.splitOn '/' (← IO.currentDir).toString.toList
  (pathsOf a).foldlM lookAt (FileTree.ofHome (steps.filter (!·.isEmpty)))

/-- Writes the files that differ between two trees. -/
def store (before after : FileTree) : IO Unit :=
  (before.changes after).forM fun (path, text) => do
    IO.FS.writeFile ((← IO.currentDir) / String.ofList path) (String.ofList text)

/-- Prints a text as it stands. -/
def put (t : Text) : IO Unit := do
  let stdout ← IO.getStdout
  stdout.putStr (String.ofList t)
  stdout.flush

/-- Says on the error stream why a run failed; the code to leave with. -/
def complain (e : RunError) : IO UInt32 := do
  let lines := match e.messages with
    | [] => []
    | message :: causes =>
      message :: causes.flatMap fun cause => ["\nCaused by:".toList, "    ".toList ++ cause]
  IO.eprintln ("Error: " ++ String.ofList (Text.join ['\n'] lines))
  return 1

/-- One run; the code to leave with. -/
def runOnce (a : Arguments) : IO UInt32 := do
  let before ← snapshot a
  let outcome := a.run before
  store before outcome.files
  put outcome.printed
  match outcome.error with
  | some e => complain e
  | none => return 0

/-- When the inputs were last written. -/
def stamps (a : Arguments) : IO (List (Option IO.FS.SystemTime)) :=
  a.files.mapM fun path => do
    try
      return some (← ((← IO.currentDir) / String.ofList path).metadata).modified
    catch _ => return none

/-- Looks at the inputs ten times a second, and writes what a change of theirs leads to. -/
partial def watchFrom (a : Arguments) (s : Session) (seen : List (Option IO.FS.SystemTime)) :
    IO UInt32 := do
  let now ← IO.monoMsNow
  let current ← stamps a
  let s ← if current == seen then pure s
    else do pure (s.setSources (a.readSources (← snapshot a)) now).2
  let (made, s) := s.tick now
  if let some output := made then
    let before ← snapshot a
    match a.emit before output with
    | .error e => return ← complain e
    | .ok (printed, after) =>
      store before after
      put printed
  IO.sleep 100
  watchFrom a s current

/-- Runs for as long as nothing fails. -/
def watch (a : Arguments) : IO UInt32 := do
  let before ← snapshot a
  match a.loadConfig before with
  | .error e => complain (.settings e)
  | .ok c =>
    match a.loadContext before with
    | .error e => complain (.save e)
    | .ok (context, after) =>
      store before after
      let s := (Session.start c context 500).setSources (a.readSources after) (← IO.monoMsNow)
      watchFrom a s.2 (← stamps a)

/-- Reads the command line and runs; two is the code of a command line that cannot be understood. -/
def run (args : List String) : IO UInt32 := do
  match Arguments.ofWords (args.map String.toList) with
  | .error .help =>
    put usage
    return 0
  | .error e =>
    IO.eprintln ("error: " ++ String.ofList e.message)
    return 2
  | .ok a => if a.watch then watch a else runOnce a

end DesignTokens.Program

/-- The program. -/
def main (args : List String) : IO UInt32 := DesignTokens.Program.run args
