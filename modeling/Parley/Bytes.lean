/-!
Byte strings: numbers as big-endian words and text as UTF-8.
-/

namespace Parley

abbrev Bytes := List UInt8

namespace Bytes

def word16 (number : Nat) : Bytes := [UInt8.ofNat (number / 256), UInt8.ofNat number]

def word32 (number : Nat) : Bytes := word16 (number / 65536) ++ word16 number

def number (bytes : Bytes) : Nat := bytes.foldl (fun total byte => total * 256 + byte.toNat) 0

def ofText (text : String) : Bytes := text.toList.flatMap String.utf8EncodeChar

def text? (bytes : Bytes) : Option String := String.fromUTF8? (ByteArray.mk bytes.toArray)

theorem length_word16 (number : Nat) : (word16 number).length = 2 := rfl

theorem length_word32 (number : Nat) : (word32 number).length = 4 := rfl

end Bytes

end Parley
