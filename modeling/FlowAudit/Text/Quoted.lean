import FlowAudit.Text.Numeral
import FlowAudit.Unicode.Table.GraphemeExtend
import FlowAudit.Unicode.Table.Unprintable

/-!
# Quoted texts in messages

A text is quoted so that every character of it can be told: quotes and backslashes are marked by a
backslash, and characters that cannot be shown, or would join the one before them, are given by
their numbers.
-/

namespace FlowAudit.Text

/-- Whether a character is shown as it is. -/
def isShown (c : Char) : Bool :=
  (' ' ≤ c && c ≤ '~') || !(Unicode.graphemeExtendRuns.has c || Unicode.unprintableRuns.has c)

/-- A character inside a quoted text. -/
def quotedChar (c : Char) : List Char :=
  match c with
  | '"' => ['\\', '"']
  | '\\' => ['\\', '\\']
  | '\n' => ['\\', 'n']
  | '\r' => ['\\', 'r']
  | '\t' => ['\\', 't']
  | '\x00' => ['\\', '0']
  | c =>
    if isShown c then [c]
    else ['\\', 'u', '\x7b'] ++ digits 16 c.toNat ++ ['\x7d']

/-- A text in quotes. -/
def quoted (s : String) : String :=
  String.ofList ('"' :: (s.toList.flatMap quotedChar ++ ['"']))

end FlowAudit.Text
