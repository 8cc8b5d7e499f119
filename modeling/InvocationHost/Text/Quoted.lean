import InvocationHost.Text.Printable
import InvocationHost.Text.Combining

/-! # Texts in quotes for messages

`quoted` makes a text visible on one line: quotes, backslashes and the usual control characters are
escaped by a letter, characters that cannot be seen alone by their code point in hexadecimal.
-/
namespace InvocationHost.Text

def hexDigits (n : Nat) : List Char := Nat.toDigits 16 n

def escapeUnseen (c : Char) : List Char := "\\u\x7b".toList ++ hexDigits c.toNat ++ ['\x7d']

def quotedChar : Char → List Char
  | '\x00' => ['\\', '0']
  | '\t' => ['\\', 't']
  | '\r' => ['\\', 'r']
  | '\n' => ['\\', 'n']
  | '"' => ['\\', '"']
  | '\\' => ['\\', '\\']
  | c => if isPrintable c && !isCombining c then [c] else escapeUnseen c

def quoted (s : String) : String := String.ofList ('"' :: s.toList.flatMap quotedChar ++ ['"'])

end InvocationHost.Text
