import SensorRelay.Crypto.Sha256

/-!
# Keyed digests

HMAC over SHA-256. A key longer than a block is replaced by its digest.
-/

namespace SensorRelay.Crypto

def blockLength : Nat := 64

/-- The key, filled up with zeros to one block. -/
def blockKey (key : List UInt8) : List UInt8 :=
  let short := if key.length ≤ blockLength then key else sha256 key
  short ++ List.replicate (blockLength - short.length) 0

def hmacSha256 (key message : List UInt8) : List UInt8 :=
  let k := blockKey key
  sha256 (k.map (· ^^^ 0x5c) ++ sha256 (k.map (· ^^^ 0x36) ++ message))

end SensorRelay.Crypto
