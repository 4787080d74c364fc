import Mathlib.Data.List.Basic

/-!
# Text as the debug formatter writes it

The `{:?}` of a text: double quotes around it, an escape for the quote, the backslash and the
control characters, and every other character as it is.  (Which characters beyond ASCII count as
unprintable is a matter of Unicode tables, and only the control characters among them are here.)
-/

namespace DebugText

def isControl (c : Char) : Bool := c.toNat < 32 || (127 ≤ c.toNat && c.toNat < 160)

/-- `escape_debug` of a character between double quotes. -/
def escapeChar (c : Char) : List Char :=
  if c = '\x00' then ['\\', '0']
  else if c = '\t' then ['\\', 't']
  else if c = '\r' then ['\\', 'r']
  else if c = '\n' then ['\\', 'n']
  else if c = '"' then ['\\', '"']
  else if c = '\\' then ['\\', '\\']
  else if isControl c then '\\' :: 'u' :: '\x7b' :: (Nat.toDigits 16 c.toNat ++ ['\x7d'])
  else [c]

/-- `{text:?}`. -/
def quote (text : String) : String :=
  String.ofList ('"' :: (text.toList.flatMap escapeChar ++ ['"']))

/-- `{slice:?}`. -/
def quoteAll (slice : List String) : String :=
  "[" ++ ", ".intercalate (slice.map quote) ++ "]"

example : quote "a\"b\\\n\x1b" = "\"a\\\"b\\\\\\n\\u\x7b1b\x7d\"" := by decide

end DebugText
