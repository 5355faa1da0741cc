import CodeGrant.Proofs.Json.Fit
import CodeGrant.Proofs.Token.Compact

/-! # Claims are read as they were asked for

Whoever cuts a token at its dots, decodes its second segment and reads that as claims
(`CompactToken.claims?`) finds the claims of its issuer (`TokenIssuer.claims?_of_sign`): the name of
the issuer, the audience and the scope as they were asked for, whatever characters are in them, and
the time in whole seconds (`Claims.AreAsked`).  No instant of the calendar is so far away that its
seconds, or those an hour later, do not fit into sixty-four bits. -/

namespace CodeGrant

/-- The nanoseconds since the start of 1970. -/
def Instant.nanosSince1970 (t : Instant) : Int := t.seconds * 1000000000 + t.nanos

/-- But for a leap second, the seconds of an instant are its nanoseconds rounded down. -/
theorem Instant.nanosSince1970_div {t : Instant} (h : t.nanos < 1000000000) :
    t.nanosSince1970 / 1000000000 = t.seconds := by
  unfold nanosSince1970
  omega

namespace Claims

theorem fit?_document (claims : Claims) :
    claims.document.source.fit? shape = some claims.document :=
  Json.fit?_record (by simp [Json.IsMemberOf]) (by decide)

/-- **The document of claims reads as the claims.** -/
theorem read_render_document (claims : Claims) :
    read (Utf8.encode claims.document.render) = .ok claims := by
  have hread := Json.read_render_of_fit (by decide) claims.fit?_document
  simp [read, hread, bind, Except.bind]

/-- Seconds that fit into sixty-four bits are kept as they are. -/
theorem toInt_clampSeconds {n : Int} (h : Json.isInt64 n = true) : (clampSeconds n).toInt = n := by
  obtain ⟨hmin, hmax⟩ := Json.isInt64_iff.mp h
  have hlimit : Int64.maxValue.toInt + 1 = 2 ^ 63 := Int64.toInt_maxValue_add_one
  have hclamp : max Int64.minValue.toInt (min n Int64.maxValue.toInt) = n := by
    rw [Int64.toInt_minValue]
    omega
  rw [clampSeconds, hclamp, Int64.toInt_ofInt_of_le hmin hmax]

/-- The claims are what an issuer was asked for at an instant. -/
structure AreAsked (claims : Claims) (issuer audience scope : String) (now : Instant) : Prop where
  issuer : claims.issuer = issuer
  audience : claims.audience = audience
  scope : claims.scope = scope
  /-- A leap second counts as the second before it. -/
  issuedAt : claims.issuedAt.toInt = now.seconds
  /-- Any other instant is rounded down to whole seconds, also before 1970. -/
  roundedDown : now.nanos < 1000000000 →
    claims.issuedAt.toInt = now.nanosSince1970 / 1000000000
  expiresAt : claims.expiresAt.toInt = now.seconds + 3600

/-- **What is issued in the calendar is what was asked for.** -/
theorem areAsked_issue {now : Instant} (hnow : now.inCalendar) (issuer audience scope : String) :
    (issue issuer audience scope now 3600).AreAsked issuer audience scope now := by
  obtain ⟨hmin, hmax⟩ := hnow
  have hissued : (clampSeconds now.seconds).toInt = now.seconds :=
    toInt_clampSeconds (Json.isInt64_iff.mpr (by omega))
  have hexpires : (clampSeconds (now.seconds + 3600)).toInt = now.seconds + 3600 :=
    toInt_clampSeconds (Json.isInt64_iff.mpr (by omega))
  refine ⟨rfl, rfl, rfl, hissued, fun hleap => ?_, ?_⟩
  · rw [Instant.nanosSince1970_div hleap]
    exact hissued
  · rw [issue, hissued]
    exact hexpires

end Claims

namespace CompactToken

/-- The claims that are read in the second segment of a token. -/
def claims? (token : CompactToken) : Option Claims :=
  (Base64Url.decode? token.claims).bind fun payload => (Claims.read payload).toOption

/-- **The claims of a signed token are read in it**, and its first two segments hold characters of
the alphabet only. -/
theorem claims?_of_sign {key : Rsa.PrivateKey} {header : String} {claims : Claims}
    {token : CompactToken} (h : sign key header claims.document.render = .ok token) :
    token.claims? = some claims ∧
      ∀ c ∈ token.header.toList ++ token.claims.toList, Base64Url.IsAlphabetic c := by
  obtain ⟨signature, -, rfl⟩ := exists_signature_of_sign h
  constructor
  · rw [CompactToken.claims?, Base64Url.decode?_encode, Option.bind_some,
      claims.read_render_document]
    rfl
  · intro c hc
    rcases List.mem_append.mp hc with hc | hc <;> exact Base64Url.isAlphabetic_of_mem_encode hc

end CompactToken

/-- The text is a token that says what its issuer was asked for at an instant. -/
def TokenIssuer.SaysWhatWasAsked (issuer : TokenIssuer) (audience scope : String) (now : Instant)
    (text : String) : Prop :=
  ∃ token claims, CompactToken.ofText? text = some token ∧
    (∀ c ∈ token.header.toList ++ token.claims.toList, Base64Url.IsAlphabetic c) ∧
    token.claims? = some claims ∧ claims.AreAsked issuer.name audience scope now

/-- **A token that is issued says what was asked for.** -/
theorem TokenIssuer.saysWhatWasAsked_of_issueAt {issuer : TokenIssuer}
    {audience scope text : String} {now : Instant} (hnow : now.inCalendar)
    (h : issuer.issueAt audience scope now = .ok text) :
    issuer.SaysWhatWasAsked audience scope now text := by
  obtain ⟨token, hsign, rfl⟩ := exists_sign_of_issueAt h
  obtain ⟨htoken, -⟩ := CompactToken.of_sign hsign
  obtain ⟨hclaims, halphabet⟩ := CompactToken.claims?_of_sign hsign
  exact ⟨token, _, htoken, halphabet, hclaims, Claims.areAsked_issue hnow _ _ _⟩

end CodeGrant
