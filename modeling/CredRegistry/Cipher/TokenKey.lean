import CredRegistry.Cipher.Gcm
import CredRegistry.Host.Environment
import CredRegistry.Text.Blank
import CredRegistry.Text.Hex

/-!
# Sealing tokens

Tokens can be stored sealed under a key of 32 bytes, which is given as 64
hexadecimal digits. A sealed token is the hexadecimal text of a nonce and the bytes
sealed with it.
-/

namespace CredRegistry

open CredRegistry.Text CredRegistry.Cipher

/-- Why a sealed token cannot be read. -/
inductive UnsealFault where
  | notHex (fault : Hex.Fault)
  | tooShort
  /-- The bytes were not sealed with this key, or were changed since. -/
  | rejected
  | notText (fault : Utf8Fault)
deriving Repr, DecidableEq

def UnsealFault.message : UnsealFault → String
  | .notHex fault => s!"Invalid hex: {fault.message}"
  | .tooShort => "Ciphertext too short"
  | .rejected => "aead::Error"
  | .notText fault => s!"Invalid UTF-8: {fault.message}"

/-- Why a text is no key. -/
inductive KeyFault where
  | notHex (fault : Hex.Fault)
  | wrongSize (bytes : Nat)
deriving Repr, DecidableEq

def KeyFault.message : KeyFault → String
  | .notHex fault => s!"Invalid hex key: {fault.message}"
  | .wrongSize bytes => s!"Key must be 32 bytes (64 hex chars), got {bytes} bytes"

/-- Why there is no secret, or no use for it. -/
inductive SecretError where
  | noSource
  | unreadableFile (path : String) (error : FileError)
  | variableUnset (name : String)
  | variableNotText (name : String)
  | unsealing (fault : UnsealFault)
  | invalidKey (fault : KeyFault)
deriving Repr, DecidableEq

def SecretError.message : SecretError → String
  | .noSource =>
      "No secret source provided (need one of: direct value, file path, or env var name)"
  | .unreadableFile path e => s!"Failed to read secret from file '{path}': {e.message}"
  | .variableUnset name => s!"Environment variable '{name}' not set"
  | .variableNotText name => s!"Environment variable '{name}' contains invalid UTF-8"
  | .unsealing fault => s!"Decryption error: {fault.message}"
  | .invalidKey fault => s!"Invalid encryption key: {fault.message}"

/-- A key that tokens are sealed with. -/
structure TokenKey where
  bytes : Cipher.Key
deriving Repr, DecidableEq

namespace TokenKey

def summary : String := "TokenEncryptor \x7b .. \x7d"

/-- The key that a text spells, blanks around it aside. -/
def ofText (s : String) : Except SecretError TokenKey :=
  match Hex.decode (trim s) with
  | .error fault => .error (.invalidKey (.notHex fault))
  | .ok bs =>
      if h : bs.length = 32 then .ok ⟨⟨bs.toArray, by simp [h]⟩⟩
      else .error (.invalidKey (.wrongSize bs.length))

def nonceSize : Nat := 12

def encrypt (key : TokenKey) (nonce : Nonce) (token : String) : String :=
  Hex.encode (nonce.toList ++ Gcm.sealed (Aes.encrypt key.bytes) nonce (utf8 token))

def unsealedBytes (key : TokenKey) (bs : List UInt8) : Except UnsealFault (List UInt8) :=
  if h : (bs.take nonceSize).length = nonceSize then
    let nonce : Nonce := ⟨(bs.take nonceSize).toArray, by simpa [nonceSize] using h⟩
    match Gcm.unsealed? (Aes.encrypt key.bytes) nonce (bs.drop nonceSize) with
    | some plain => .ok plain
    | none => .error .rejected
  else .error .tooShort

def decrypt (key : TokenKey) (s : String) : Except SecretError String :=
  match Hex.decode s with
  | .error fault => .error (.unsealing (.notHex fault))
  | .ok bs =>
      match key.unsealedBytes bs with
      | .error fault => .error (.unsealing fault)
      | .ok plain =>
          match fromUtf8 plain with
          | .ok token => .ok token
          | .error fault => .error (.unsealing (.notText fault))

end TokenKey

end CredRegistry
