import ComposeCluster.Text.Unprintable

/-!
# Quoted text

Error messages show names between double quotes, in a form in which every character can be told
apart: the quote and the backslash are escaped, the common controls have a letter, and what
cannot be printed is shown by its number.
-/

set_option autoImplicit false

namespace ComposeCluster.Text

/-- A character as it stands between the quotes. -/
def quotedChar (c : Char) : List Char :=
  match c with
  | '"' => ['\\', '"']
  | '\\' => ['\\', '\\']
  | '\n' => ['\\', 'n']
  | '\r' => ['\\', 'r']
  | '\t' => ['\\', 't']
  | '\x00' => ['\\', '0']
  | c =>
    if isUnprintable c then
      ['\\', 'u', '{'] ++ Nat.toDigits 16 c.toNat ++ ['}']
    else [c]

/-- Text between double quotes. -/
def quoted (text : String) : String :=
  String.ofList ('"' :: text.toList.flatMap quotedChar ++ ['"'])

end ComposeCluster.Text
