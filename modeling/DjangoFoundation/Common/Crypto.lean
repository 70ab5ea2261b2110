/-
`common/crypto.py`: keyed hashes and encryption under the configured secret.

HMAC, SHA-256, Fernet and Django's password hashers are outside the code base.  A
`Keyring` is what they come to under one unchanged secret, with what the code relies on:
hashes tell values apart, decryption undoes encryption whatever nonce went into it, and
a password that has been set can be checked and is not marked unusable.
-/
import Mathlib.Data.List.Basic
import Mathlib.Logic.Function.Basic

namespace DjangoFoundation

structure Keyring where
  /-- `keyed_hash(value, purpose=purpose)`. -/
  keyedHash : (purpose value : String) → String
  /-- `hashlib.sha256(data).hexdigest()`. -/
  sha256 : List UInt8 → String
  /-- `encrypt_value(value, purpose=purpose)`, with the nonce Fernet draws. -/
  encryptValue : (purpose : String) → (nonce : Nat) → (value : String) → String
  /-- `decrypt_value(value, purpose=purpose)`, `none` where it raises `ValueError`. -/
  decryptValue : (purpose value : String) → Option String
  /-- `user.get_session_auth_hash()`, of the user's password column. -/
  sessionAuthHash : (password : String) → String
  /-- `make_password(raw)`, with the salt it draws. -/
  makePassword : (salt raw : String) → String
  /-- `check_password(raw, encoded)`. -/
  checkPassword : (raw encoded : String) → Bool
  keyedHash_injective : ∀ purpose, Function.Injective (keyedHash purpose)
  sha256_injective : Function.Injective sha256
  decrypt_encrypt : ∀ purpose nonce value,
    decryptValue purpose (encryptValue purpose nonce value) = some value
  sessionAuthHash_injective : Function.Injective sessionAuthHash
  check_make : ∀ salt raw, checkPassword raw (makePassword salt raw) = true
  make_usable : ∀ salt raw, (makePassword salt raw).toList.head? ≠ some '!'

/-- `is_password_usable(encoded)`: it does not start with the mark `set_unusable_password`
puts there. -/
def usablePassword (encoded : String) : Bool := encoded.toList.head? ≠ some '!'

/-- `make_password(None)`: the mark and a random suffix. -/
def unusablePassword (suffix : String) : String := String.ofList ('!' :: suffix.toList)

theorem usablePassword_unusablePassword (suffix : String) :
    usablePassword (unusablePassword suffix) = false := by
  simp [usablePassword, unusablePassword]

theorem Keyring.usablePassword_makePassword (keyring : Keyring) (salt raw : String) :
    usablePassword (keyring.makePassword salt raw) = true := by
  simpa [usablePassword] using keyring.make_usable salt raw

private theorem ofUInt8_injective : Function.Injective Char.ofUInt8 := by
  intro a b h
  have hval : a.toUInt32.toNat = b.toUInt32.toNat := congrArg Char.toNat h
  rwa [UInt8.toNat_toUInt32, UInt8.toNat_toUInt32, UInt8.toNat_inj] at hval

/-- The laws can be met: digests that are the data itself, no encryption, and passwords
kept behind a prefix and their salt. -/
def Keyring.plain : Keyring where
  keyedHash _ value := value
  sha256 data := String.ofList (data.map Char.ofUInt8)
  encryptValue _ _ value := value
  decryptValue _ value := some value
  sessionAuthHash password := password
  makePassword salt raw := "plain$" ++ salt ++ "$" ++ raw
  checkPassword raw encoded := raw.toList.isSuffixOf encoded.toList
  keyedHash_injective _ _ _ h := h
  sha256_injective _ _ h :=
    List.map_injective_iff.mpr ofUInt8_injective (String.ofList_injective h)
  decrypt_encrypt _ _ _ := rfl
  sessionAuthHash_injective _ _ h := h
  check_make salt raw := by
    rw [List.isSuffixOf_iff_suffix, String.toList_append]
    exact List.suffix_append _ _
  make_usable salt raw := by
    simp [String.toList_append]

end DjangoFoundation
