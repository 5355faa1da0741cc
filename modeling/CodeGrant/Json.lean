import CodeGrant.Hex
import CodeGrant.Text.Decimal

/-! # JSON values and their text

The documents that the server sends and reads are built of texts, integers,
lists and objects.  The text of a value is compact: no blanks, and the members
of an object in the order in which the value lists them.

A text stands between quotation marks (`quote`).  A quotation mark, a backslash
and the control characters are escaped, by a short escape where there is one;
every other character stands for itself. -/

namespace CodeGrant

/-- A JSON value. -/
inductive Json where
  | null
  | int (value : Int)
  | text (value : String)
  | list (items : List Json)
  | object (members : List (String × Json))
  deriving Inhabited, Repr

namespace Json

/-- A character as it stands in a quoted text. -/
def escape (c : Char) : List Char :=
  if c = '"' then ['\\', '"']
  else if c = '\\' then ['\\', '\\']
  else if c = '\x08' then ['\\', 'b']
  else if c = '\x0c' then ['\\', 'f']
  else if c = '\n' then ['\\', 'n']
  else if c = '\r' then ['\\', 'r']
  else if c = '\t' then ['\\', 't']
  else if c.toNat < 0x20 then
    ['\\', 'u', '0', '0', Hex.digit (c.toNat / 16), Hex.digit (c.toNat % 16)]
  else [c]

/-- A text between quotation marks. -/
def quote (text : String) : String :=
  String.ofList ('"' :: (text.toList.flatMap escape ++ ['"']))

mutual

/-- The text of a value behind `out`. -/
def appendTo (out : String) : Json → String
  | null => out ++ "null"
  | int n => out ++ Decimal.write n
  | text s => out ++ quote s
  | list items => appendItems (out ++ "[") items
  | object members => appendMembers (out ++ "\x7b") members

/-- The texts of list items behind `out`, and the closing bracket. -/
def appendItems (out : String) : List Json → String
  | [] => out ++ "]"
  | [item] => appendTo out item ++ "]"
  | item :: rest => appendItems (appendTo out item ++ ",") rest

/-- The texts of members behind `out`, and the closing brace. -/
def appendMembers (out : String) : List (String × Json) → String
  | [] => out ++ "\x7d"
  | [(name, value)] => appendTo (out ++ quote name ++ ":") value ++ "\x7d"
  | (name, value) :: rest => appendMembers (appendTo (out ++ quote name ++ ":") value ++ ",") rest

end

/-- The compact text of a value. -/
def render (value : Json) : String := appendTo "" value

/-- Texts as a list value. -/
def texts (items : List String) : Json := list (items.map text)

example : render (object [("a", list [int 1, null]), ("b", text "\"\n\x1f")])
    = "\x7b\"a\":[1,null],\"b\":\"\\\"\\n\\u001f\"\x7d" := by decide +kernel

end Json

end CodeGrant
