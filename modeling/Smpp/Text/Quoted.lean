import Smpp.Text.Numeral
import Smpp.Text.Unprintable

/-!
Characters and texts in quotes, as messages show what was found. The quote itself, the backslash,
the controls with a letter of their own and all that cannot be shown stand escaped.
-/

namespace Smpp.Quoted

def escape (quote character : Char) : String :=
  match character with
  | '\x00' => "\\0"
  | '\t' => "\\t"
  | '\n' => "\\n"
  | '\r' => "\\r"
  | '\\' => "\\\\"
  | _ =>
      if character = quote then String.ofList ['\\', character]
      else if Unicode.isCombining character || Unicode.isUnprintable character then
        "\\u\x7b" ++ Numeral.hexadecimal 1 character.toNat ++ "\x7d"
      else character.toString

def character (shown : Char) : String := "'" ++ escape '\'' shown ++ "'"

def text (shown : String) : String := "\"" ++ String.join (shown.toList.map (escape '"')) ++ "\""

end Smpp.Quoted
