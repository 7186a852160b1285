import SavedNetworks.Digest.Sha256

/-!
Keyed digests: HMAC over SHA-256.
-/

namespace SavedNetworks.Hmac

/-- The key filled up with zeros to a block; a longer key is replaced by its digest first. -/
def blockKey (key : List UInt8) : List UInt8 :=
  let short := if key.length > Sha256.blockSize then Sha256.digest key else key
  short ++ List.replicate (Sha256.blockSize - short.length) 0

def digest (key message : List UInt8) : List UInt8 :=
  let key := blockKey key
  Sha256.digest (key.map (· ^^^ 0x5C) ++ Sha256.digest (key.map (· ^^^ 0x36) ++ message))

def digestText (key : List UInt8) (text : String) : List UInt8 := digest key text.toUTF8.toList

end SavedNetworks.Hmac
