import CodeGrant.Proofs.Json.Value
import CodeGrant.Proofs.Token.Claims
import CodeGrant.Token.Jwk

/-! # The documents of a token server are read back

Claims, published keys and sets of keys are written as objects without blanks.  What is written has
the members of its type by their names and in their order, and the reader of the type finds the
value again (`Json.RoundTrips`), whatever characters and numbers are in it and however many keys
there are.

A reader takes more than what is written: blanks, escapes, members in another order, members that
nobody asked for.  But what it takes is written in one way only, so that to read a document and to
write it again changes it once at most. -/

namespace CodeGrant

namespace Json

variable {α : Type*} {read : Bytes → Except Fault α} {document : α → Json}
  {members : α → List (String × Json)}

/-- The bytes that are written for a value. -/
def written (document : α → Json) (value : α) : Bytes := Utf8.encode (document value).render

/-- What is written for the value that is read in the bytes, if there is one. -/
def rewritten? (read : Bytes → Except Fault α) (document : α → Json) (bytes : Bytes) :
    Option Bytes :=
  (read bytes).toOption.map (written document)

/-- What is written for a value is read back. -/
structure RoundTrips (read : Bytes → Except Fault α) (document : α → Json)
    (members : α → List (String × Json)) : Prop where
  /-- Whoever expects nothing in particular finds the members of the type, in their order. -/
  named : ∀ value, read? (written document value) = some (.object (members value))
  /-- Whoever expects the type finds the value. -/
  readBack : ∀ value, read (written document value) = .ok value
  /-- What has been read and written once does not change any more. -/
  settled : ∀ bytes normal, rewritten? read document bytes = some normal →
    rewritten? read document normal = some normal

/-- **A type whose values are read back settles after one step.** -/
theorem roundTrips_of_readBack (hmembers : ∀ value, document value = .object (members value))
    (hread : ∀ value, read (written document value) = .ok value) :
    RoundTrips read document members where
  named value := by rw [written, hmembers, read?_render]
  readBack := hread
  settled bytes normal hnormal := by
    obtain ⟨value, -, rfl⟩ := Option.map_eq_some_iff.mp hnormal
    rw [rewritten?, hread]
    rfl

end Json

namespace Jwk

theorem fit?_document (key : Jwk) : key.document.source.fit? shape = some key.document :=
  Json.fit?_record (by simp [Json.IsMemberOf]) (by decide)

/-- **The document of a key reads as the key.** -/
theorem read_render_document (key : Jwk) : read (Utf8.encode key.document.render) = .ok key := by
  have hread := Json.read_render_of_fit (by decide) key.fit?_document
  simp [read, hread, bind, Except.bind]

end Jwk

namespace JwkSet

theorem fit?_document (set : JwkSet) : set.document.source.fit? shape = some set.document := by
  have hkeys : (Json.list (set.keys.map Jwk.document)).source.fit? (.list Jwk.shape)
      = some (.list (set.keys.map Jwk.document)) := by
    refine Json.fit?_list fun item hitem => ?_
    obtain ⟨key, -, rfl⟩ := List.mem_map.mp hitem
    exact key.fit?_document
  exact Json.fit?_record (by simp [Json.IsMemberOf, hkeys]) (by decide)

/-- **The document of a set of keys reads as the set.** -/
theorem read_render_document (set : JwkSet) : read (Utf8.encode set.document.render) = .ok set := by
  have hread := Json.read_render_of_fit (by decide) set.fit?_document
  simp [read, hread, bind, Except.bind]

end JwkSet

/-- **What a token server writes is read back**, and settles after one step.  The members are named
and ordered as here, also those of every key in a set. -/
theorem TokenIssuer.documents_round_trip :
    Json.RoundTrips Claims.read Claims.document (fun claims =>
      [("iss", .text claims.issuer), ("aud", .text claims.audience), ("scope", .text claims.scope),
        ("iat", .int claims.issuedAt.toInt), ("exp", .int claims.expiresAt.toInt)]) ∧
    Json.RoundTrips Jwk.read Jwk.document (fun key =>
      [("kty", .text key.keyType), ("kid", .text key.keyId), ("use", .text key.use),
        ("alg", .text key.algorithm), ("n", .text key.modulus), ("e", .text key.exponent)]) ∧
    Json.RoundTrips JwkSet.read JwkSet.document (fun set =>
      [("keys", .list (set.keys.map fun key => .object
        [("kty", .text key.keyType), ("kid", .text key.keyId), ("use", .text key.use),
          ("alg", .text key.algorithm), ("n", .text key.modulus), ("e", .text key.exponent)]))]) :=
  ⟨Json.roundTrips_of_readBack (fun _ => rfl) Claims.read_render_document,
    Json.roundTrips_of_readBack (fun _ => rfl) Jwk.read_render_document,
    Json.roundTrips_of_readBack (fun _ => rfl) JwkSet.read_render_document⟩

end CodeGrant
