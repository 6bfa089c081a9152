import SpinLocks.Text.Visible

namespace SpinLocks.Text

def hex (code : Nat) : String :=
  String.ofList (Nat.toDigits 16 code)

def escapeChar (c : Char) : String :=
  match c with
  | '\x00' => "\\0"
  | '\t' => "\\t"
  | '\n' => "\\n"
  | '\r' => "\\r"
  | '"' => "\\\""
  | '\\' => "\\\\"
  | c => if isVisible c then c.toString else "\\u\x7b" ++ hex c.toNat ++ "\x7d"

def quoted (s : String) : String :=
  "\"" ++ String.join (s.toList.map escapeChar) ++ "\""

end SpinLocks.Text
