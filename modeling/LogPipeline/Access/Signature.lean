import LogPipeline.Crypto.Base64
import LogPipeline.Crypto.Hmac

namespace LogPipeline.Signature

def message (accessKey timestamp body : String) : Crypto.Bytes :=
  accessKey.toUTF8.toList ++ timestamp.toUTF8.toList ++ body.toUTF8.toList

def sign (secret accessKey timestamp body : String) : String :=
  Crypto.base64 (Crypto.hmacSha256 secret.toUTF8.toList (message accessKey timestamp body))

def verify (signature secret accessKey timestamp body : String) : Bool :=
  signature = sign secret accessKey timestamp body

end LogPipeline.Signature
