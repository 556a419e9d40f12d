import MacroSandbox.Text.Character
import MacroSandbox.Text.Substitution

/-! Text in quotation marks, with marks, backslashes and every character that cannot be seen as
itself escaped. -/

namespace MacroSandbox.Text

def escapeCharacter (character : Char) : List Char :=
  match character with
  | '"' => ['\\', '"']
  | '\\' => ['\\', '\\']
  | '\n' => ['\\', 'n']
  | '\r' => ['\\', 'r']
  | '\t' => ['\\', 't']
  | '\x00' => ['\\', '0']
  | other =>
      if isPlainlyVisible other then [other]
      else ['\\', 'u', '\x7b'] ++ Nat.toDigits 16 other.toNat ++ ['\x7d']

def quoted (text : String) : String :=
  "\"" ++ mapCharacters escapeCharacter text ++ "\""

end MacroSandbox.Text
