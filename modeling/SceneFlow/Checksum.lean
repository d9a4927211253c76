/-!
Checksums of listings. Any function from bytes to words makes one; the usual one is the cyclic
redundancy check CRC-32C (polynomial `1EDC6F41`, bits reversed).
-/

namespace SceneFlow

class Checksum where
  word : List UInt8 → UInt32

namespace Checksum

def shift (register : UInt32) : UInt32 :=
  if register &&& 1 = 1 then (register >>> 1) ^^^ 0x82F63B78 else register >>> 1

def take (register : UInt32) (byte : UInt8) : UInt32 :=
  (List.range 8).foldl (fun register _ => shift register) (register ^^^ byte.toUInt32)

def crc32c (bytes : List UInt8) : UInt32 := bytes.foldl take 0xFFFFFFFF ^^^ 0xFFFFFFFF

instance : Checksum := ⟨crc32c⟩

def hex (word : UInt32) : String :=
  let digits := Nat.toDigits 16 word.toNat
  String.ofList (List.replicate (8 - digits.length) '0' ++ digits)

def ofText [Checksum] (text : String) : String := hex (word text.toUTF8.toList)

end Checksum

end SceneFlow
