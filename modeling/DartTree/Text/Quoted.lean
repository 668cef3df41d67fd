import DartTree.Text.Visible

/-! Text in double quotes, as messages quote what they found: every character
that would not show is written by its code point. -/
namespace DartTree.Text

def quoteChar (char : Char) : String :=
  if char = '"' then "\\\""
  else if char = '\\' then "\\\\"
  else if char = '\n' then "\\n"
  else if char = '\r' then "\\r"
  else if char = '\t' then "\\t"
  else if char.toNat = 0 then "\\0"
  else if isVisible char then char.toString
  else "\\u\x7b" ++ String.ofList (Nat.toDigits 16 char.toNat) ++ "\x7d"

def quote (text : String) : String :=
  text.toList.foldl (fun quoted char => quoted ++ quoteChar char) "\"" ++ "\""

end DartTree.Text
