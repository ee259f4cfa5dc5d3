/-
  Quoting a text inside a message.

  `quote` puts a text between quotation marks so that a person sees what is in it: the quotation
  mark and the backslash are written with a backslash, the usual control characters by their
  letters, and every other hidden character by its number in braces.
-/
import TodoSite.Text.Hidden

namespace TodoSite.Text

/-- One character of a quoted text. -/
def quoteChar (c : Char) : String :=
  match c with
  | '\x00' => "\\0"
  | '\t' => "\\t"
  | '\n' => "\\n"
  | '\r' => "\\r"
  | '"' => "\\\""
  | '\\' => "\\\\"
  | c =>
    if isHidden c then "\\u\x7b" ++ String.ofList (Nat.toDigits 16 c.toNat) ++ "\x7d"
    else String.singleton c

/-- `text` between quotation marks. -/
def quote (text : String) : String :=
  "\"" ++ String.join (text.toList.map quoteChar) ++ "\""

end TodoSite.Text
