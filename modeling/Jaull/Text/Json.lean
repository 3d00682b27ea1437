import Mathlib.Tactic.Common

/-!
# JSON texts

Python's `json.dumps` on the values the modelled code dumps: a tuple of strings, with everything
outside printable ASCII escaped.
-/

namespace Jaull.Text

/-- The last `width` hexadecimal digits of a number. -/
def hex : ℕ → ℕ → List Char
  | 0, _ => []
  | width + 1, n => hex width (n / 16) ++ [Nat.digitChar (n % 16)]

/-- One UTF-16 code unit, escaped. -/
def escapeUnit (n : ℕ) : List Char :=
  ['\\', 'u'] ++ hex 4 n

/-- One character of a JSON string (Python `json.encoder.py_encode_basestring_ascii`). -/
def escapeChar (c : Char) : List Char :=
  if c = '"' then ['\\', '"']
  else if c = '\\' then ['\\', '\\']
  else if c = '\n' then ['\\', 'n']
  else if c = '\r' then ['\\', 'r']
  else if c = '\t' then ['\\', 't']
  else if c.toNat = 12 then ['\\', 'f']
  else if c.toNat = 8 then ['\\', 'b']
  else if 32 ≤ c.toNat ∧ c.toNat ≤ 126 then [c]
  else if c.toNat < 0x10000 then escapeUnit c.toNat
  -- Outside the basic plane a character takes a surrogate pair.
  else
    let offset := c.toNat - 0x10000
    escapeUnit (0xd800 + offset / 0x400) ++ escapeUnit (0xdc00 + offset % 0x400)

/-- A JSON string. -/
def quoted (text : String) : String :=
  "\"" ++ String.ofList (text.toList.flatMap escapeChar) ++ "\""

/-- Python `dumps` of a tuple of strings. -/
def dumps (texts : List String) : String :=
  "[" ++ ", ".intercalate (texts.map quoted) ++ "]"

example : dumps ["a\"b", "é"] = "[\"a\\\"b\", \"\\u00e9\"]" := by decide +kernel

end Jaull.Text
