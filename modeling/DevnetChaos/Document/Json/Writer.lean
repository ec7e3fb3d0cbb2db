import DevnetChaos.Decimal.Layout
import DevnetChaos.Document.Tree

/-!
# Writing JSON

The text of a tree on one line, and its text with one entry on each line and two spaces for each
level.  What has no JSON text, as a number that is not finite, becomes `null`.
-/

namespace DevnetChaos
namespace Json

/-- A character inside a string. -/
def escapeChar (c : Char) : String :=
  match c with
  | '"' => "\\\""
  | '\\' => "\\\\"
  | '\n' => "\\n"
  | '\r' => "\\r"
  | '\t' => "\\t"
  | '\x08' => "\\b"
  | '\x0c' => "\\f"
  | c =>
      if c.toNat < 0x20 then
        "\\u00" ++ String.ofList [Nat.digitChar (c.toNat / 16), Nat.digitChar (c.toNat % 16)]
      else c.toString

/-- A string with its quotes. -/
def quote (s : String) : String :=
  "\"" ++ s.toList.foldl (fun out c => out ++ escapeChar c) "" ++ "\""

/-- A fraction. -/
def floatText (x : Float) : String :=
  if x.isFinite then Decimal.Layout.document.render x else "null"

/-- A line break with the spaces of a level. -/
def newline (level : Nat) : String := "\n" ++ String.ofList (List.replicate (2 * level) ' ')

/-- How containers are set out. -/
structure Spacing where
  /-- What goes in front of each item at a level. -/
  lineBreak : Nat → String
  /-- What goes between a key and its value. -/
  colon : String

/-- Everything on one line. -/
def Spacing.compact : Spacing := ⟨fun _ => "", ":"⟩

/-- One item on each line. -/
def Spacing.pretty : Spacing := ⟨newline, ": "⟩

/-- Items between brackets, which stand on lines of their own unless there is nothing inside. -/
def enclose (s : Spacing) (level : Nat) (opening closing : String) (items : List String) : String :=
  if items.isEmpty then opening ++ closing
  else
    opening ++ s.lineBreak (level + 1) ++ ("," ++ s.lineBreak (level + 1)).intercalate items
      ++ s.lineBreak level ++ closing

mutual

/-- The text of a tree that stands at a level. -/
def render (s : Spacing) (level : Nat) : Tree → String
  | .null => "null"
  | .bool b => if b then "true" else "false"
  | .int n => toString n
  | .float x => floatText x
  | .text t => quote t
  | .list items => enclose s level "[" "]" (renderItems s (level + 1) items)
  | .map entries => enclose s level "\x7b" "\x7d" (renderEntries s (level + 1) entries)
  | .unreadable => "null"

def renderItems (s : Spacing) (level : Nat) : List Tree → List String
  | [] => []
  | t :: rest => render s level t :: renderItems s level rest

def renderEntries (s : Spacing) (level : Nat) : List (String × Tree) → List String
  | [] => []
  | (key, t) :: rest =>
      (quote key ++ s.colon ++ render s level t) :: renderEntries s level rest

end

/-- The text of a tree on one line. -/
def compact (t : Tree) : String := render .compact 0 t

/-- The text of a tree with one item on each line and no line break at the end. -/
def pretty (t : Tree) : String := render .pretty 0 t

end Json
end DevnetChaos
