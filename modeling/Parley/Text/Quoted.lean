import Parley.Text.Hidden

/-!
Quoted text for diagnostics: quotes and backslashes are escaped, and a hidden character is shown
by its code.
-/

namespace Parley.Text

def hexDigits (value : Nat) : List Char := Nat.toDigits 16 value

def escaped (quote char : Char) : List Char :=
  if char = '\x00' then ['\\', '0']
  else if char = '\t' then ['\\', 't']
  else if char = '\r' then ['\\', 'r']
  else if char = '\n' then ['\\', 'n']
  else if char = '\\' ∨ char = quote then ['\\', char]
  else if isHidden char then ['\\', 'u', '\x7b'] ++ hexDigits char.toNat ++ ['\x7d']
  else [char]

def quote (text : String) : String :=
  String.ofList ('"' :: text.toList.flatMap (escaped '"') ++ ['"'])

def quoteChar (char : Char) : String := String.ofList ('\'' :: escaped '\'' char ++ ['\''])

end Parley.Text
