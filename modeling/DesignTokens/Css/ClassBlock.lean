import DesignTokens.Config.Basic
import DesignTokens.Context
import DesignTokens.Token

/-!
Class rules. Every token belongs to the class named for the keys above its last one; its property is
named for the trailing keys and goes through the mapper, and each output name is declared with the
token's value. Classes and the properties of a class stand in the order in which they were first
met, a later token overriding the value of an earlier one.
-/

namespace DesignTokens

/-- Classes with their declarations. -/
abbrev ClassBlock := Assoc Text Declarations

/-- The class of tokens that have no key above their last one. -/
def fallbackClass : Text := "token-default"

/-- The class of a token at a path. -/
def className (c : Config) (path : List Text) : Text :=
  let name := segment c.naming.blankReplacement c.naming.lowercase (Text.join [' '] path.dropLast)
  if name.isEmpty then fallbackClass else name

/-- The property of a token at a path. -/
def propertyName (c : Config) (path : List Text) : Text :=
  segment c.naming.blankReplacement c.naming.lowercase
    (Text.join [' '] (c.naming.depth.slice path))

/-- The value of a token in a class rule. -/
def cssValue (c : Config) (t : Token) : Text :=
  (Expression.ofJson (t.effectiveValue c.useCodeSyntax)).css c.decimals.toNat

namespace ClassBlock

/-- A value declared for every output name in a class. -/
def declare (block : ClassBlock) (className : Text) (outputs : List Text) (value : Text) :
    ClassBlock :=
  Assoc.alter className
    (fun declarations => outputs.foldl (fun m name => Assoc.insert name value m)
      (declarations.getD [])) block

/-- One token further: its property resolved, and its value declared. -/
def step (c : Config) (state : ClassBlock × Context) (t : Token) : ClassBlock × Context :=
  let (block, context) := state
  let property := propertyName c t.path
  let (resolution, mapper) := context.mapper.resolve context.keywords property
  (block.declare (className c t.path) (resolution.outputs property) (cssValue c t),
    { context with mapper })

/-- The classes of tokens, and the context with the names that had to be guessed. -/
def collect (c : Config) (context : Context) (tokens : List Token) : ClassBlock × Context :=
  tokens.foldl (step c) ([], context)

/-- The classes of the tokens of a document. -/
def ofDocument (c : Config) (context : Context) (document : Json) : ClassBlock × Context :=
  collect c context (Token.extract c.naming context.keywords document)

/-! ### Writing -/

/-- A declaration on a line of its own. -/
def line (indent : Text) (declaration : Text × Text) : Text :=
  indent ++ "  " ++ declaration.1 ++ ": " ++ declaration.2 ++ ";\n"

/-- The rule of a class, each line behind `indent`. -/
def rule (indent : Text) (entry : Text × Declarations) : Text :=
  indent ++ "." ++ entry.1 ++ " \x7b\n" ++ entry.2.flatMap (line indent) ++ indent ++ "\x7d\n"

/-- The rules of all classes with an empty line between neighbours. -/
def write (indent : Text) (block : ClassBlock) : Text := Text.join "\n" (block.map (rule indent))

end ClassBlock

end DesignTokens
