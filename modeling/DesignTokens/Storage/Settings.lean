import DesignTokens.Config.Reader
import DesignTokens.Storage.FileTree
import DesignTokens.Toml.Document

/-!
Settings from a file: the file has to hold text, the text settings, and the settings have to be
usable, in this order.
-/

namespace DesignTokens

/-- The settings that the text of a settings file spells. -/
def Config.ofToml? (t : Text) : Option Config :=
  (Toml.read? t).bind (Config.ofSetting? Toml.format)

/-- The settings that the text of a document spells. -/
def Config.ofDocument? (t : Text) : Option Config :=
  (Setting.ofText? t).bind (Config.ofSetting? Setting.documentFormat)

/-- The settings of a file. -/
def Config.load (tree : FileTree) (path : Text) : Except ConfigError Config :=
  match tree.text? path with
  | none => .error (.unreadable path)
  | some text =>
    match ofToml? text with
    | none => .error (.malformed path)
    | some c =>
      match c.fault with
      | some e => .error e
      | none => .ok c

end DesignTokens
