import Raid.Text.Hidden

/-!
A text between quotes, as it is shown to people who look for the exact characters: quotes and
backslashes are escaped, and every hidden character is written by its number.
-/

namespace Raid.Text

def shownAs (c : Char) : List Char :=
  match c with
  | '"' => ['\\', '"']
  | '\\' => ['\\', '\\']
  | '\n' => ['\\', 'n']
  | '\r' => ['\\', 'r']
  | '\t' => ['\\', 't']
  | '\x00' => ['\\', '0']
  | c =>
    if isHidden c then '\\' :: 'u' :: '\x7b' :: Nat.toDigits 16 c.toNat ++ ['\x7d'] else [c]

def shown (text : String) : String :=
  String.ofList ('"' :: text.toList.flatMap shownAs ++ ['"'])

def shownList (texts : List String) : String :=
  "[" ++ ", ".intercalate (texts.map shown) ++ "]"

end Raid.Text
