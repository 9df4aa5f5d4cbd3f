import Synthesis.Text.Printable

/-!
# Quoted text

Text between double quotes. A backslash stands before a quote and before a backslash; the usual
control characters have letters, and every other character that is not shown as itself is
written by its code point: `\u{301}`.
-/
namespace Synthesis.Text

def codePoint (c : Char) : String :=
  "\\u\x7b" ++ String.ofList (Nat.toDigits 16 c.toNat) ++ "\x7d"

def quotedChar (c : Char) : String :=
  if c = '\x00' then "\\0"
  else if c = '\t' then "\\t"
  else if c = '\r' then "\\r"
  else if c = '\n' then "\\n"
  else if c = '"' then "\\\""
  else if c = '\\' then "\\\\"
  else if isPrintable c then c.toString
  else codePoint c

def quoted (text : String) : String :=
  "\"" ++ String.join (text.toList.map quotedChar) ++ "\""

end Synthesis.Text
