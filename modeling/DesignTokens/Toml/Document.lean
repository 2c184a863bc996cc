import DesignTokens.Toml.Value

/-!
Settings files: lines of keys with values, under headers of tables and of lists of tables. A table
may be given one header, a key one value; the tables above a header's table are made by the way. A
table made by a key with points cannot be given a header later, nor can a value.
-/

namespace DesignTokens.Toml

open DesignTokens.Parser

/-- The entries with those at a path of tables changed; a list of tables stands for its last one,
and tables that are not there are made. -/
def alterAt (change : Entries → Option Entries) : List Text → Entries → Option Entries
  | [], entries => change entries
  | key :: rest, entries =>
    match Assoc.find? key entries with
    | none => (alterAt change rest []).map fun sub =>
        Assoc.insert key (.table .implied sub) entries
    | some (.table origin sub) => (alterAt change rest sub).map fun sub =>
        Assoc.insert key (.table origin sub) entries
    | some (.tables items) => (alterAt change rest (items.getLast?.getD [])).map fun sub =>
        Assoc.insert key (.tables (items.dropLast ++ [sub])) entries
    | some (.value _) => none

/-- A header of a table: the table is new, or was only made by the headers of tables below it. -/
def openTable (key : Text) (entries : Entries) : Option Entries :=
  match Assoc.find? key entries with
  | none => some (Assoc.insert key (.table .header []) entries)
  | some (.table .implied sub) => some (Assoc.insert key (.table .header sub) entries)
  | some _ => none

/-- A header of a table in a list: the list is new or has tables in it. -/
def openItem (key : Text) (entries : Entries) : Option Entries :=
  match Assoc.find? key entries with
  | none => some (Assoc.insert key (.tables [[]]) entries)
  | some (.tables items) => some (Assoc.insert key (.tables (items ++ [[]])) entries)
  | some _ => none

/-- A file while it is read: its entries, and the path of the table that the next keys are in. -/
structure Reading where
  entries : Entries
  current : List Text

/-- A reading that may have failed. -/
def ofOption : Option α → Parser α
  | some a => return a
  | none => failure

/-- A header with what it opens. -/
def header (r : Reading) : Parser Reading := do
  char '['
  let isItem ← char? '['
  let path ← keyPath
  char ']'
  if isItem then char ']'
  lineRest
  let change := (if isItem then openItem else openTable) (path.getLast?.getD [])
  return ⟨← ofOption (alterAt change path.dropLast r.entries), path⟩

/-- A key with its value in the current table. -/
def entry (r : Reading) : Parser Reading := do
  let (keys, s) ← pair (value mostLevels)
  lineRest
  return { r with entries := ← ofOption (alterAt (insertDotted s true keys) r.current r.entries) }

/-- The lines of a file, up to the fuel. -/
def lines : Nat → Reading → Parser Reading
  | 0, r => return r
  | fuel + 1, r => do
    spaces
    match (← get).head? with
    | none => return r
    | some '#' => do
      comment
      lineEnd
      lines fuel r
    | some '[' => lines fuel (← header r)
    | some '\n' | some '\r' => do
      newline
      lines fuel r
    | some _ => lines fuel (← entry r)

/-- A whole file, with or without the mark of its encoding in front. -/
def file : Parser Setting := do
  let _ ← char? '\uFEFF'
  let r ← lines ((← get).length + 1) ⟨[], []⟩
  return .table (settings r.entries)

/-- The settings that a text spells. -/
def read? (t : Text) : Option Setting := file.whole? t

/-- In a settings file an empty list or table is nothing, and a list may hold more than the
fields. -/
def format : SettingFormat where
  allowsSurplus := true
  isNothing
    | .list [] => true
    | .table [] => true
    | _ => false

end DesignTokens.Toml
