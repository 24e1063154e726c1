/-
  ObjectStream.Proofs.Signing

  A signature is the standard Base64 text of the standard keyed digest
  (`sign_eq_standard`). What is written always fits its buffer and is always text,
  so that no signature is empty.
-/

import ObjectStream.Proofs.Base64
import ObjectStream.Proofs.MessageDigest
import ObjectStream.Signature
import Mathlib.Data.Bool.AllAny

namespace ObjectStream

namespace Hmac

theorem blockKey_eq_standard (key : Bytes) :
    blockKey key = Standard.keyBlock Standard.sha1 Sha1.blockLength key := by
  have hdigest : Sha1.digest key = Standard.sha1 key := by
    have h := Sha1.Hasher.digest_pieces [key]
    rwa [List.flatten_singleton] at h
  unfold blockKey Standard.keyBlock
  rw [hdigest]
  by_cases hlong : key.length > Sha1.blockLength
  · rw [if_pos hlong, if_neg (Nat.not_le_of_gt hlong)]
  · rw [if_neg hlong, if_pos (Nat.le_of_not_gt hlong)]

/-- The keyed digest is the standard one. -/
theorem digest_eq_standard (key message : Bytes) :
    digest key message = Standard.hmac Standard.sha1 Sha1.blockLength key message := by
  have htwo : ∀ a b : Bytes,
      ((Sha1.Hasher.new.update a).update b).digest = Standard.sha1 (a ++ b) := by
    intro a b
    have h := Sha1.Hasher.digest_pieces [a, b]
    rwa [List.flatten_cons, List.flatten_singleton] at h
  simp only [digest, Standard.hmac, htwo, padded, blockKey_eq_standard]

end Hmac

namespace Signature

theorem bytes_sign (key message : Bytes) :
    (sign key message).bytes = Base64.encode (Hmac.digest key message) := by
  have h : ∀ (r : Except Base64.WriteError Signature) (s : Signature) (hr : r = .ok s)
      (hsome : r.toOption.isSome), r.toOption.get hsome = s := by
    rintro _ s rfl _
    rfl
  rw [sign, h _ _ (sign?_eq_ok key message)]

theorem sign?_eq_sign (key message : Bytes) : sign? key message = .ok (sign key message) := by
  rw [sign?_eq_ok, ← bytes_sign]

/-- The characters of the alphabet are ASCII. -/
theorem lt_of_mem_alphabet {c : UInt8} (h : c ∈ Base64.Standard.alphabet) : c < 0x80 := by
  have hall : ∀ c ∈ Base64.Standard.alphabet, c < 0x80 := List.all_iff_forall_prop.mp (by decide)
  exact hall c h

/-- The twenty bytes of a digest take twenty-seven characters and one `=`. -/
theorem bytes_sign_eq_append (key message : Bytes) :
    (sign key message).bytes =
        Base64.Standard.symbols (Hmac.digest key message) ++ [Base64.pad] ∧
      (Base64.Standard.symbols (Hmac.digest key message)).length = 27 := by
  have hlength : (Hmac.digest key message).length = 20 := Hmac.length_digest key message
  rw [bytes_sign, Base64.encode_eq_standard, Base64.Standard.encode_eq_append,
    Base64.Standard.length_symbols, hlength]
  exact ⟨rfl, rfl⟩

theorem length_bytes_sign (key message : Bytes) : (sign key message).bytes.length = length := by
  obtain ⟨happend, hsymbols⟩ := bytes_sign_eq_append key message
  rw [happend, List.length_append, hsymbols]
  rfl

/-- The bytes of a signature are ASCII. -/
theorem lt_of_mem_bytes_sign {key message : Bytes} {b : UInt8} (hb : b ∈ (sign key message).bytes) :
    b < 0x80 := by
  rw [(bytes_sign_eq_append key message).1] at hb
  rcases List.mem_append.mp hb with hb | hb
  · exact lt_of_mem_alphabet (Base64.Standard.mem_alphabet_of_mem_symbols hb)
  · rw [List.eq_of_mem_singleton hb]
    decide

/-- The text of a signature is never the empty one that stands for bytes that are no text. -/
theorem decode?_bytes_sign (key message : Bytes) :
    Utf8.decode? (sign key message).bytes =
      some (String.ofList ((sign key message).bytes.map fun b => Char.ofNat b.toNat)) :=
  Utf8.decode?_of_ascii fun _ => lt_of_mem_bytes_sign

theorem text_sign (key message : Bytes) :
    (sign key message).text =
      String.ofList ((sign key message).bytes.map fun b => Char.ofNat b.toNat) := by
  rw [text, decode?_bytes_sign, Option.getD_some]

/-- The text of a signature is sent as the bytes of the signature. -/
theorem encode_text_sign (key message : Bytes) :
    Utf8.encode (sign key message).text = (sign key message).bytes := by
  rw [text_sign, Utf8.encode_of_ascii, Base64.map_ofNat_toNat]
  intro c hc
  obtain ⟨b, hb, rfl⟩ := List.mem_map.mp hc
  rw [Base64.toNat_char]
  exact lt_of_mem_bytes_sign hb

/-- A signature is the Base64 text of the keyed digest, both as their standards define them. The text
fits its buffer, it has twenty-seven characters of the alphabet and one `=`, its bytes read as text,
and decoding them gives the twenty bytes of the digest. -/
theorem sign_eq_standard (key message : Bytes) :
    let signature := sign key message
    let digest := Standard.hmac Standard.sha1 64 key message
    sign? key message = .ok signature ∧
      signature.bytes = Base64.Standard.encode digest ∧
      (∃ front, signature.bytes = front ++ [Base64.pad] ∧ front.length = 27 ∧
        ∀ c ∈ front, c ∈ Base64.Standard.alphabet) ∧
      Utf8.decode? signature.bytes = some signature.text ∧
      signature.text = String.ofList (signature.bytes.map fun b => Char.ofNat b.toNat) ∧
      Base64.Standard.decode? signature.bytes = some digest ∧ digest.length = 20 := by
  intro signature digest
  have hdigest : Hmac.digest key message = digest := Hmac.digest_eq_standard key message
  have hbytes : signature.bytes = Base64.encode digest := by rw [← hdigest]; exact bytes_sign key message
  obtain ⟨happend, hlength⟩ := bytes_sign_eq_append key message
  refine ⟨sign?_eq_sign key message, ?_, ⟨_, happend, hlength, fun c => ?_⟩, ?_,
    text_sign key message, ?_, ?_⟩
  · rw [hbytes, Base64.encode_eq_standard]
  · exact Base64.Standard.mem_alphabet_of_mem_symbols
  · exact (decode?_bytes_sign key message).trans (congrArg some (text_sign key message).symm)
  · rw [hbytes, Base64.decode?_encode]
  · rw [← hdigest, Hmac.length_digest]
    rfl

end Signature
end ObjectStream
