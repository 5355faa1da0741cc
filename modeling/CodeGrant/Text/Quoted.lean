import CodeGrant.Text.Invisible

/-! # Quoted text

A text is shown between quotation marks, with a backslash before a quotation mark
and before a backslash, with short escapes for tab, line feed, carriage return and
the zero character, and with `\u` and the code in braces for every other invisible
character. -/

namespace CodeGrant.Text

/-- A character as it is shown. -/
def showChar (c : Char) : List Char :=
  if c = '\x00' then ['\\', '0']
  else if c = '\t' then ['\\', 't']
  else if c = '\n' then ['\\', 'n']
  else if c = '\r' then ['\\', 'r']
  else if c = '"' then ['\\', '"']
  else if c = '\\' then ['\\', '\\']
  else if isInvisible c then
    '\\' :: 'u' :: '\x7b' :: (Nat.toDigits 16 c.toNat ++ ['\x7d'])
  else [c]

/-- A text as it is shown. -/
def quoted (text : String) : String :=
  String.ofList ('"' :: (text.toList.flatMap showChar ++ ['"']))

example : quoted "a\"\\'\t\x1b" = "\"a\\\"\\\\'\\t\\u\x7b1b\x7d\"" := by decide +kernel

end CodeGrant.Text
