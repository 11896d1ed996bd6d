import PackageModel.Unicode.Printable

/-!
# PackageModel.Unicode.Quoted

Text in quotation marks as messages show it: what would not be visible by itself is escaped.
-/

namespace PackageModel.Unicode

/-- A character inside quotation marks.  Characters that do not print, and those that would
combine with the character before them, show as their code points. -/
def escapeInvisible (c : Char) : String :=
  match c with
  | '\x00' => "\\0"
  | '\t' => "\\t"
  | '\r' => "\\r"
  | '\n' => "\\n"
  | '"' => "\\\""
  | '\\' => "\\\\"
  | c =>
    if attaches c || !isPrintable c then
      "\\u\x7b" ++ String.ofList (Nat.toDigits 16 c.toNat) ++ "\x7d"
    else String.singleton c

/-- The text in quotation marks. -/
def quoted (s : String) : String := "\"" ++ String.join (s.toList.map escapeInvisible) ++ "\""

end PackageModel.Unicode
