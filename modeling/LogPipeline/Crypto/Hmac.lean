import LogPipeline.Crypto.Sha256

/-!
# Keyed hashing

HMAC (RFC 2104) over SHA-256.
-/

namespace LogPipeline.Crypto

def keyBlock (key : Bytes) : Bytes :=
  let key := if key.length > 64 then sha256 key else key
  key ++ List.replicate (64 - key.length) 0

def hmacSha256 (key message : Bytes) : Bytes :=
  let block := keyBlock key
  sha256 (block.map (· ^^^ 0x5c) ++ sha256 (block.map (· ^^^ 0x36) ++ message))

end LogPipeline.Crypto
