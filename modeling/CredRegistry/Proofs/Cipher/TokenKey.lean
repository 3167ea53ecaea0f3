import CredRegistry.Cipher.TokenKey
import CredRegistry.Proofs.Text.Bytes

/-!
# What a key unseals

A sealed token is the hexadecimal text of `TokenKey.sealedBytes`: the nonce, and behind it the
token's bytes with their tag. Each layer is undone by its reader and by nothing else, the tag by
`Gcm.unsealed?_eq_some` and UTF-8 by `fromUtf8_eq_ok`, so a key reads a token from just the
texts that spell such bytes (`TokenKey.decrypt_eq_ok`). All other texts are told apart by an
`UnsealFault` (`TokenKey.decrypt_eq_error`).
-/

namespace CredRegistry

open CredRegistry.Text CredRegistry.Cipher

namespace TokenKey

/-- The bytes whose digits `encrypt` writes. -/
def sealedBytes (key : TokenKey) (nonce : Nonce) (token : String) : List UInt8 :=
  nonce.toList ++ Gcm.sealed (Aes.encrypt key.bytes) nonce (utf8 token)

variable {key : TokenKey} {nonce : Nonce}

theorem take_sealedBytes (token : String) :
    (key.sealedBytes nonce token).take nonceSize = nonce.toList :=
  List.take_left' Vector.length_toList

theorem length_sealedBytes (token : String) :
    (key.sealedBytes nonce token).length = 28 + (utf8 token).length := by
  rw [sealedBytes, List.length_append, Vector.length_toList, Gcm.sealed, List.length_append,
    Gcm.length_crypt, Gcm.length_tag, Gcm.tagSize]
  omega

/-- The first bytes are the nonce, and the others are sealed with it. -/
theorem unsealedBytes_eq_ok {bs plain : List UInt8} :
    key.unsealedBytes bs = .ok plain ↔
      ∃ nonce : Nonce, bs = nonce.toList ++ Gcm.sealed (Aes.encrypt key.bytes) nonce plain := by
  constructor
  · intro h
    simp only [unsealedBytes] at h
    split at h
    next hsize =>
      split at h
      next hplain =>
        cases h
        refine ⟨⟨(bs.take nonceSize).toArray, by simpa [nonceSize] using hsize⟩, ?_⟩
        rw [← Gcm.unsealed?_eq_some.mp hplain]
        exact (List.take_append_drop nonceSize bs).symm
      next => cases h
    next => cases h
  · rintro ⟨nonce, rfl⟩
    have hsize : nonce.toList.length = nonceSize := Vector.length_toList
    have hnonce (h : (nonce.toList.toArray).size = 12) :
        (⟨nonce.toList.toArray, h⟩ : Nonce) = nonce := by
      apply Vector.toArray_inj.mp
      rfl
    simp only [unsealedBytes, List.take_left' hsize, List.drop_left' hsize, hsize, hnonce,
      Gcm.unsealed?_sealed, dif_pos]

theorem decrypt_eq_ok {text token : String} :
    key.decrypt text = .ok token ↔
      ∃ nonce, Hex.decode text = .ok (key.sealedBytes nonce token) := by
  constructor
  · intro h
    unfold decrypt at h
    split at h
    · cases h
    next bs hdecode =>
      split at h
      · cases h
      next plain hunsealed =>
        split at h
        next htext =>
          cases h
          obtain ⟨nonce, rfl⟩ := unsealedBytes_eq_ok.mp hunsealed
          rw [fromUtf8_eq_ok.mp htext] at hdecode
          exact ⟨nonce, hdecode⟩
        · cases h
  · rintro ⟨nonce, hdecode⟩
    have hunsealed : key.unsealedBytes (key.sealedBytes nonce token) = .ok (utf8 token) :=
      unsealedBytes_eq_ok.mpr ⟨nonce, rfl⟩
    simp only [decrypt, hdecode, hunsealed, fromUtf8_utf8]

theorem decrypt_eq_error {text : String} {e : SecretError} (h : key.decrypt text = .error e) :
    ∃ fault, e = .unsealing fault := by
  unfold decrypt at h
  split at h
  · cases h
    exact ⟨_, rfl⟩
  split at h
  · cases h
    exact ⟨_, rfl⟩
  split at h
  · cases h
  · cases h
    exact ⟨_, rfl⟩

/-- A sealed token is unsealed with the same key, whatever the nonce was. -/
theorem decrypt_encrypt (key : TokenKey) (nonce : Nonce) (token : String) :
    key.decrypt (key.encrypt nonce token) = .ok token :=
  decrypt_eq_ok.mpr ⟨nonce, Hex.decode_encode (key.sealedBytes nonce token)⟩

/-! ## Sealing is undone exactly -/

/-- A key writes lower-case digits and reads the token from them in any case. A text that it
reads a token from decodes to the nonce and the bytes sealed with it, so nonce and token leave
no choice in the bytes. Every other text is a fault of unsealing. -/
theorem decrypt_inverts_encrypt (key : TokenKey) :
    (∀ nonce token,
      (∀ c ∈ (key.encrypt nonce token).toList, c ∈ "0123456789abcdef".toList) ∧
        (key.encrypt nonce token).length = 2 * (28 + (utf8 token).length) ∧
        ∀ text, Hex.Respelled (key.encrypt nonce token) text → key.decrypt text = .ok token) ∧
      (∀ text token, key.decrypt text = .ok token → ∃ nonce : Nonce,
        Hex.decode text
          = .ok (nonce.toList ++ Gcm.sealed (Aes.encrypt key.bytes) nonce (utf8 token))) ∧
      (∀ text text' token bs bs', key.decrypt text = .ok token → key.decrypt text' = .ok token →
        Hex.decode text = .ok bs → Hex.decode text' = .ok bs' →
        bs.take nonceSize = bs'.take nonceSize → bs = bs') ∧
      ∀ text,
        (∀ (nonce : Nonce) token, Hex.decode text
          ≠ .ok (nonce.toList ++ Gcm.sealed (Aes.encrypt key.bytes) nonce (utf8 token))) →
        ∃ fault, key.decrypt text = .error (.unsealing fault) := by
  refine ⟨fun nonce token => ⟨fun c hc => Hex.mem_digits_of_mem_encode hc, ?_, ?_⟩, ?_, ?_, ?_⟩
  · rw [← length_sealedBytes]
    exact Hex.length_encode (key.sealedBytes nonce token)
  · intro text hrespelled
    exact decrypt_eq_ok.mpr ⟨nonce, Hex.decode_of_respelled hrespelled⟩
  · intro text token h
    exact decrypt_eq_ok.mp h
  · intro text text' token bs bs' h h' hbs hbs' hnonce
    obtain ⟨nonce, hdecode⟩ := decrypt_eq_ok.mp h
    obtain ⟨nonce', hdecode'⟩ := decrypt_eq_ok.mp h'
    cases hbs.symm.trans hdecode
    cases hbs'.symm.trans hdecode'
    rw [take_sealedBytes, take_sealedBytes] at hnonce
    rw [Vector.toList_inj.mp hnonce]
  · intro text hother
    cases hread : key.decrypt text with
    | ok token =>
        obtain ⟨nonce, hdecode⟩ := decrypt_eq_ok.mp hread
        exact absurd hdecode (hother nonce token)
    | error e =>
        obtain ⟨fault, rfl⟩ := decrypt_eq_error hread
        exact ⟨fault, rfl⟩

end TokenKey

end CredRegistry
