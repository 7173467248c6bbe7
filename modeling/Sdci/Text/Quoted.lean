import Sdci.Text.Visible

/-!
# Quoted text

A quoted text stands between double quotes. Quotes, backslashes and the common controls are written
with a backslash, and other characters that are not visible on their own as their code point in
hexadecimal.
-/

namespace Sdci.Text

/-- A character inside quotes. -/
def quoteChar (c : Char) : String :=
  match c with
  | '\x00' => "\\0"
  | '\t' => "\\t"
  | '\r' => "\\r"
  | '\n' => "\\n"
  | '"' => "\\\""
  | '\\' => "\\\\"
  | c =>
    if isVisible c then .singleton c
    else "\\u\x7b" ++ .ofList (Nat.toDigits 16 c.toNat) ++ "\x7d"

/-- A text between quotes. -/
def quote (text : List Char) : String :=
  "\"" ++ .join (text.map quoteChar) ++ "\""

end Sdci.Text
