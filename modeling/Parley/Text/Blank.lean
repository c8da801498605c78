/-!
Blank characters: the Unicode property White_Space, and trimming by it.
-/

namespace Parley.Text

def isBlank (char : Char) : Bool :=
  let code := char.toNat
  (9 ≤ code && code ≤ 13) || code == 32 || code == 0x85 || code == 0xA0 || code == 0x1680 ||
    (0x2000 ≤ code && code ≤ 0x200A) || code == 0x2028 || code == 0x2029 || code == 0x202F ||
    code == 0x205F || code == 0x3000

def trimChars (chars : List Char) : List Char :=
  ((chars.dropWhile isBlank).reverse.dropWhile isBlank).reverse

def trim (text : String) : String := String.ofList (trimChars text.toList)

def splitChars (separates : Char → Bool) : List Char → List (List Char)
  | [] => [[]]
  | char :: rest =>
    if separates char then [] :: splitChars separates rest
    else
      match splitChars separates rest with
      | [] => [[char]]
      | piece :: pieces => (char :: piece) :: pieces

def split (separates : Char → Bool) (text : String) : List String :=
  (splitChars separates text.toList).map String.ofList

def lowerAscii (text : String) : String := String.ofList (text.toList.map Char.toLower)

end Parley.Text
