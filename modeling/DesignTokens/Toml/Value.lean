import DesignTokens.Config.Setting
import DesignTokens.Text.Parser

/-!
Values of a settings file: quoted texts in four kinds, numbers, dates, booleans, lists, and tables
in one line. Numbers with a fraction are values that no setting takes, and a date or a time stands
for a table without known keys, but they have to be written as they should be; a number past the
doubles is refused.
-/

namespace DesignTokens.Toml

open DesignTokens.Parser

/-! ### Blanks, line ends and comments -/

/-- Spaces and tabs. -/
def isSpace (c : Char) : Bool := c == ' ' || c == '\t'

/-- The characters that may stand in a comment or, but for its quotes, in a quoted text. -/
def isPlain (c : Char) : Bool := c == '\t' || (0x20 ≤ c.toNat && c.toNat ≠ 0x7F)

/-- Spaces and tabs, if any. -/
def spaces : Parser Unit := do
  let _ ← takeWhile isSpace

/-- A line end. -/
def newline : Parser Unit := word ['\n'] <|> word ['\r', '\n']

/-- The end of a line or of the text. -/
def lineEnd : Parser Unit := do
  if ← atEnd then return else newline

/-- A comment up to the end of its line. -/
def comment : Parser Unit := do
  char '#'
  let _ ← takeWhile isPlain

/-- What may stand behind a line's content. -/
def lineRest : Parser Unit := do
  spaces
  let _ ← optional? comment
  lineEnd

/-- What may stand between the items of a list. -/
def gap : Parser Unit := do
  spaces
  let _ ← many (do let _ ← optional? comment; newline; spaces)

/-! ### Quoted texts -/

/-- The apostrophe, which quotes texts without escapes. -/
def apostrophe : Char := '\x27'

/-- A character by its number in a row of hexadecimal digits. -/
def numbered (digits : Nat) : Parser Char := do
  let values ← times (do
    match hexValue? (← anyChar) with
    | some v => return v
    | none => failure) digits
  let n := values.foldl (fun n v => 16 * n + v) 0
  if n.isValidChar then return Char.ofNat n else failure

/-- What stands for a character behind a backslash. -/
def escape : Parser Char := do
  match ← anyChar with
  | 'b' => return '\x08'
  | 'f' => return '\x0c'
  | 'n' => return '\n'
  | 'r' => return '\r'
  | 't' => return '\t'
  | '"' => return '"'
  | '\\' => return '\\'
  | 'u' => numbered 4
  | 'U' => numbered 8
  | _ => failure

/-- A character between quotes in one line. -/
def basicChar : Parser Char :=
  charOf (fun c => isPlain c && c != '"' && c != '\\') <|> (do char '\\'; escape)

/-- A text between quotes in one line. -/
def basicText : Parser Text := do
  char '"'
  let t ← many basicChar
  char '"'
  return t

/-- A text between apostrophes in one line. -/
def literalText : Parser Text := do
  char apostrophe
  let t ← takeWhile fun c => isPlain c && c != apostrophe
  char apostrophe
  return t

/-- A line end within a text, which is one character however it is written. -/
def innerNewline : Parser Text := do
  newline
  return ['\n']

/-- One or two quotes that do not end a text over several lines. -/
def innerQuotes (quote : Char) : Parser Text := do
  match (← get).takeWhile (· == quote) with
  | [_] => char quote; return [quote]
  | [_, _] => char quote; char quote; return [quote, quote]
  | _ => failure

/-- A backslash at the end of a line, with the blanks and line ends behind it. -/
def foldedNewline : Parser Text := do
  char '\\'
  spaces
  newline
  let _ ← many (newline <|> (do let _ ← takeSome isSpace))
  return []

/-- A text over several lines: three quotes, contents, and three quotes with up to two more of the
contents directly before them. -/
def longText (quote : Char) (content : Parser Text) : Parser Text := do
  word [quote, quote, quote]
  let _ ← optional? newline
  let parts ← many (content <|> innerQuotes quote)
  let extra : Text := match (← get).takeWhile (· == quote) with
    | [_, _, _] => []
    | [_, _, _, _] => [quote]
    | _ => [quote, quote]
  word extra
  word [quote, quote, quote]
  return parts.flatten ++ extra

/-- A text between three quotes. -/
def longBasicText : Parser Text :=
  longText '"' (foldedNewline <|> innerNewline <|> (do return [← basicChar]))

/-- A text between three apostrophes. -/
def longLiteralText : Parser Text :=
  longText apostrophe
    (innerNewline <|> (do return [← charOf fun c => isPlain c && c != apostrophe]))

/-- A quoted text of any kind. -/
def quotedText : Parser Text := longBasicText <|> basicText <|> longLiteralText <|> literalText

/-! ### Numbers and dates -/

/-- Digits of a kind; a single underscore may stand between two of them. -/
def digitRow (kind : Char → Bool) : Parser Text := do
  let first ← charOf kind
  let rest ← many (do let _ ← char? '_'; charOf kind)
  if (← get).head? = some '_' then failure else return first :: rest

/-- A sign, if there is one; whether it is a minus. -/
def sign : Parser Bool := do
  if ← char? '-' then return true
  let _ ← char? '+'
  return false

/-- Whole digits: zero alone, or digits that do not begin with it. -/
def wholeDigits : Parser Text := do
  if (← get).head? = some '0' then
    char '0'
    return ['0']
  else digitRow isDigit

/-- The integer of a sign and a size, if it has sixty-four bits. -/
def signedSetting (negative : Bool) (n : Nat) : Parser Setting :=
  if negative then if n ≤ Nat.pow 2 63 then return .integer (-(n : Int)) else failure
  else if n < Nat.pow 2 63 then return .integer n else failure

/-- An integer in a base whose digits follow a mark. -/
def markedInteger (mark : Text) (base : Nat) : Parser Setting := do
  word mark
  let ds ← digitRow fun c => (hexValue? c).any (· < base)
  signedSetting false (ds.foldl (fun n d => base * n + (hexValue? d).getD 0) 0)

/-- An integer. -/
def integer : Parser Setting :=
  markedInteger "0x" 16 <|> markedInteger "0o" 8 <|> markedInteger "0b" 2 <|> (do
    let negative ← sign
    signedSetting negative (natOf (← wholeDigits)))

/-- The exponent of a number. -/
def exponent : Parser Int := do
  let _ ← charOf fun c => c == 'e' || c == 'E'
  let negative ← sign
  let n := natOf (← digitRow isDigit)
  return if negative then -(n : Int) else n

/-- Whether digits times a power of ten lie past the doubles. -/
def isPastDoubles (digits : Text) (power : Int) : Bool :=
  let digits := digits.dropWhile (· == '0')
  let order : Int := digits.length + power
  if digits.isEmpty || order < 300 then false
  else if 400 < order then true
  else
    (Double.ofRatio false (natOf digits * Nat.pow 10 power.toNat)
      (Nat.pow 10 (-power).toNat)).isInfinite

/-- A number with a fraction or an exponent. -/
def fractional : Parser Setting := do
  let negative ← sign
  let whole ← wholeDigits
  let places ← optional? (do char '.'; digitRow isDigit)
  let power ← optional? exponent
  if places.isNone && power.isNone then failure
  let places := places.getD []
  if !negative && isPastDoubles (whole ++ places) (power.getD 0 - places.length) then failure
  return .other

/-- The words for what is no number. -/
def specialNumber : Parser Setting := do
  let _ ← sign
  word "inf" <|> word "nan"
  return .other

/-- A row of so many digits with a value between bounds. -/
def boundedDigits (count least most : Nat) : Parser Nat := do
  let n := natOf (← times (charOf isDigit) count)
  if least ≤ n && n ≤ most then return n else failure

/-- How many days a month has. -/
def daysOfMonth (year month : Nat) : Nat :=
  if month = 2 then if year % 4 = 0 && (year % 100 ≠ 0 || year % 400 = 0) then 29 else 28
  else if month = 4 || month = 6 || month = 9 || month = 11 then 30 else 31

/-- A date. -/
def date : Parser Unit := do
  let year ← boundedDigits 4 0 9999
  char '-'
  let month ← boundedDigits 2 1 12
  char '-'
  let _ ← boundedDigits 2 1 (daysOfMonth year month)

/-- A time of day. -/
def time : Parser Unit := do
  let _ ← boundedDigits 2 0 23
  char ':'
  let _ ← boundedDigits 2 0 59
  char ':'
  let _ ← boundedDigits 2 0 60
  let _ ← optional? (do char '.'; takeSome isDigit)

/-- The distance from the common time. -/
def offset : Parser Unit :=
  (do let _ ← charOf fun c => c == 'Z' || c == 'z') <|> (do
    let _ ← charOf fun c => c == '+' || c == '-'
    let _ ← boundedDigits 2 0 23
    char ':'
    let _ ← boundedDigits 2 0 59)

/-- A date, a time, or both. -/
def moment : Parser Setting :=
  (do
    date
    let _ ← optional? (do
      let _ ← charOf fun c => c == 'T' || c == 't' || c == ' '
      time
      let _ ← optional? offset)
    return .moment) <|> (do time; return .moment)

/-! ### Keys and values -/

/-- The characters of a key without quotes. -/
def isBareKeyChar (c : Char) : Bool :=
  ('a' ≤ c && c ≤ 'z') || ('A' ≤ c && c ≤ 'Z') || isDigit c || c == '_' || c == '-'

/-- A key. -/
def simpleKey : Parser Text := basicText <|> literalText <|> takeSome isBareKeyChar

/-- How deep keys, lists and tables may nest. -/
def mostLevels : Nat := 79

/-- A path of keys with points between them. -/
def keyPath : Parser (List Text) := do
  let keys ← sepBy (do spaces; let k ← simpleKey; spaces; return k) (char '.')
  if mostLevels < keys.length then failure else return keys

/-- The tables of a file while it is read, with what each table was made by. -/
inductive Origin where
  /-- A header of its own. -/
  | header
  /-- A header of a table below it. -/
  | implied
  /-- A key with points. -/
  | dotted
  deriving DecidableEq

/-- A value, a table, or a list of tables. -/
inductive Node where
  | value (s : Setting)
  | table (origin : Origin) (entries : List (Text × Node))
  | tables (items : List (List (Text × Node)))

/-- The entries of a table. -/
abbrev Entries := Assoc Text Node

/-- The entries with a value at a path of keys; the tables on the way are made, or were made by such
paths. `allowed` says whether the path may end here. -/
def insertDotted (s : Setting) (allowed : Bool) : List Text → Entries → Option Entries
  | [], _ => none
  | [key], entries =>
    if !allowed || (Assoc.find? key entries).isSome then none
    else some (Assoc.insert key (.value s) entries)
  | key :: rest, entries =>
    match Assoc.find? key entries with
    | none => (insertDotted s true rest []).map fun sub =>
        Assoc.insert key (.table .dotted sub) entries
    | some (.table .dotted sub) => (insertDotted s true rest sub).map fun sub =>
        Assoc.insert key (.table .dotted sub) entries
    | some (.table .implied sub) => (insertDotted s false rest sub).map fun sub =>
        Assoc.insert key (.table .implied sub) entries
    | some (.tables items) => (insertDotted s false rest (items.getLast?.getD [])).map fun sub =>
        Assoc.insert key (.tables (items.dropLast ++ [sub])) entries
    | some (.table .header _) | some (.value _) => none

mutual

/-- The setting that a node is. -/
def Node.toSetting : Node → Setting
  | .value s => s
  | .table _ entries => .table (settings entries)
  | .tables items => .list (tablesToSettings items)

/-- The settings of entries. -/
def settings : List (Text × Node) → List (Text × Setting)
  | [] => []
  | (key, node) :: rest => (key, node.toSetting) :: settings rest

/-- The settings of tables. -/
def tablesToSettings : List (List (Text × Node)) → List Setting
  | [] => []
  | entries :: rest => .table (settings entries) :: tablesToSettings rest

end

/-- A value that does not nest. -/
def scalar : Parser Setting :=
  (do return .text (← quotedText)) <|>
    (do word "true"; return .bool true) <|>
    (do word "false"; return .bool false) <|>
    moment <|> fractional <|> specialNumber <|> integer

/-- A list of values. -/
def array (item : Parser Setting) : Parser Setting := do
  char '['
  gap
  let items ← optional? (sepBy (do gap; let v ← item; gap; return v) (char ','))
  if items.isSome then
    let _ ← char? ','
  gap
  char ']'
  return .list (items.getD [])

/-- A key with its value. -/
def pair (item : Parser Setting) : Parser (List Text × Setting) := do
  let keys ← keyPath
  char '='
  spaces
  return (keys, ← item)

/-- A table in one line. -/
def inlineTable (item : Parser Setting) : Parser Setting := do
  char '{'
  let pairs ← optional? (sepBy (do let p ← pair item; spaces; return p) (char ','))
  spaces
  char '}'
  match (pairs.getD []).foldlM (fun entries p => insertDotted p.2 true p.1 entries) [] with
  | some entries => return .table (settings entries)
  | none => failure

/-- A value that nests no more than so many levels. -/
def value : Nat → Parser Setting
  | 0 => scalar
  | levels + 1 => scalar <|> array (value levels) <|> inlineTable (value levels)

end DesignTokens.Toml
