/-
# Shown text — text in quotes, for inspection

A message that shows a text puts it in quotes and spells out whatever could
not be seen or would confuse: quotes, backslashes, line ends, and the
characters that have no shape of their own or attach to another.
-/
import WriteBack.Text.Extending
import WriteBack.Text.Shapeless

namespace WriteBack.Text

/-- A character spelled by its number. -/
def spelled (c : Char) : String :=
  "\\u\x7b" ++ String.ofList (Nat.toDigits 16 c.toNat) ++ "\x7d"

/-- A character as it stands in a text that is shown. -/
def shownChar (c : Char) : String :=
  match c with
  | '\x00' => "\\0"
  | '\t' => "\\t"
  | '\r' => "\\r"
  | '\n' => "\\n"
  | '\\' => "\\\\"
  | '"' => "\\\""
  | _ => if isExtending c || isShapeless c then spelled c else c.toString

/-- A text as it is shown, with its quotes. -/
def shown (text : String) : String :=
  "\"" ++ text.toList.foldl (fun s c => s ++ shownChar c) "" ++ "\""

end WriteBack.Text
