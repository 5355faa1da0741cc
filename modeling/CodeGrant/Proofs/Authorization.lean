import Mathlib.Tactic.SplitIfs
import CodeGrant.Authorization
import CodeGrant.Proofs.Base64Url
import CodeGrant.Proofs.Form.RoundTrip
import CodeGrant.Proofs.Hex
import CodeGrant.Proofs.Text.Ascii

/-! # Who gets a code

The checks of a request for a code come to one condition
(`AuthorizationRequest.check_eq_ok_iff`).  A code and a state can always stand in a
header, so whether the browser can be sent back depends on the redirect URI alone
(`isHeaderSafe_redirectLocation`). -/

namespace CodeGrant

open Http (Response)

/-- No verifier has an empty challenge. -/
theorem Pkce.challenge_ne_empty (verifier : String) : challenge verifier ≠ "" := by
  intro h
  have hdigest : Sha256.digest (Utf8.encode verifier) = [] := Base64Url.encode_injective h
  have hlength := Sha256.length_digest (Utf8.encode verifier)
  rw [hdigest] at hlength
  cases hlength

namespace AuthorizationRequest

/-- **A query reads as the parameters that it was written for.** -/
theorem ofQuery_encode (params : Form.Params) :
    ofQuery (some (Form.encode params)) = ofParams params := by
  rw [ofQuery, Option.getD_some, Form.decode_encode]

variable {store : Store} {request : AuthorizationRequest}

/-- What is wrong with a request for a code is not the fault of the server. -/
theorem status_of_check {error : ProtocolError} (h : request.check store = .error error) :
    error.status = 400 := by
  unfold check at h
  split at h
  · cases h
    rfl
  · split_ifs at h <;> cases h <;> rfl

/-- **A known client gets a code that shows one of its redirect URIs, a challenge and a
resource.** -/
theorem check_eq_ok_iff : request.check store = .ok () ↔
    (∃ client, store.client? request.clientId = some client ∧
        request.redirectUri ∈ client.redirectUris) ∧
      request.responseType = "code" ∧ request.challenge ≠ "" ∧
      request.challengeMethod = Pkce.method ∧ request.resource ≠ "" := by
  unfold check
  cases hclient : store.client? request.clientId with
  | none => simp
  | some client =>
    simp only [Option.some.injEq, exists_eq_left', ← Client.allowsRedirect_iff]
    split_ifs with hallows hcode hchallenge hresource
    · simp [hallows]
    · simp [hcode]
    · rcases hchallenge with hempty | hmethod
      · simp [hempty]
      · simp [hmethod]
    · simp [hresource]
    · rw [not_or, Decidable.not_not] at hchallenge
      rw [Bool.not_eq_false] at hallows
      exact ⟨fun _ => ⟨hallows, Decidable.not_not.mp hcode, hchallenge.1, hchallenge.2, hresource⟩,
        fun _ => rfl⟩

end AuthorizationRequest

/-! ## The location of a redirect -/

theorem Response.isHeaderSafe_append (s t : String) :
    Response.isHeaderSafe (s ++ t) = (Response.isHeaderSafe s && Response.isHeaderSafe t) := by
  simp [Response.isHeaderSafe]

/-- **A text can stand in a header if none of its bytes is a control character other than the tab.**
The bytes of a character beyond ASCII never are. -/
theorem Response.isHeaderSafe_iff {text : String} : Response.isHeaderSafe text = true ↔
    ∀ b ∈ Utf8.encode text, ¬ ((b < 0x20 ∧ b ≠ 0x09) ∨ b = 0x7F) := by
  have hbyte : ∀ b : UInt8, ¬ ((b < 0x20 ∧ b ≠ 0x09) ∨ b = 0x7F) ↔
      b.toNat = 0x09 ∨ (0x20 ≤ b.toNat ∧ b.toNat ≠ 0x7F) :=
    Form.forall_byte (by decide +kernel)
  have hchar : ∀ c : Char, Response.isHeaderChar c = true ↔
      c.toNat = 0x09 ∨ (0x20 ≤ c.toNat ∧ c.toNat ≠ 0x7F) := by
    intro c
    have htab : c = '\t' ↔ c.toNat = 0x09 := Char.toNat_inj.symm
    simp [Response.isHeaderChar, htab]
  rw [Response.isHeaderSafe, List.all_eq_true]
  constructor
  · intro h b hb
    obtain ⟨c, hc, hbc⟩ := List.mem_flatMap.mp hb
    have hsafe := (hchar c).mp (h c hc)
    rw [hbyte]
    rcases Ascii.toNat_of_mem_utf8EncodeChar hbc with hself | hbeyond
    · rwa [hself]
    · omega
  · intro h c hc
    rw [hchar]
    by_cases hascii : c.toNat < 0x80
    · have hmem : UInt8.ofNat c.toNat ∈ Utf8.encode text :=
        List.mem_flatMap.mpr ⟨c, hc, by rw [Ascii.utf8EncodeChar_of_lt hascii, List.mem_singleton]⟩
      have hsafe := (hbyte _).mp (h _ hmem)
      rwa [Ascii.toNat_ofNat_toNat hascii] at hsafe
    · omega

/-- Small hexadecimal digits can stand in a header. -/
theorem Hex.IsDigits.isHeaderSafe {count : Nat} {text : String} (h : Hex.IsDigits count text) :
    Response.isHeaderSafe text = true := by
  have hall : Hex.smallDigits.all Response.isHeaderChar = true := by decide
  exact List.all_eq_true.mpr fun c hc => List.all_eq_true.mp hall c (h.digits c hc)

theorem isHeaderSafe_codeText (draws : Draws) : Response.isHeaderSafe draws.codeText = true :=
  draws.isDigits_codeText.isHeaderSafe

theorem isHeaderSafe_encodeText (text : String) :
    Response.isHeaderSafe (Form.encodeText text) = true := by
  have hall : ∀ c ∈ Form.writtenChars, Response.isHeaderChar c = true :=
    List.forall_iff_forall_mem.mp (by decide)
  exact List.all_eq_true.mpr fun c hc => hall c (Form.mem_writtenChars_of_mem_encodeText hc)

/-- The parts of a location: the redirect URI, a mark, the code, and the state unless it is empty. -/
theorem redirectLocation_eq_append (redirectUri code state : String) :
    redirectLocation redirectUri code state = redirectUri
      ++ (if '?' ∈ redirectUri.toList then "&" else "?") ++ "code=" ++ code
      ++ (if state = "" then "" else "&state=" ++ Form.encodeText state) := by
  simp only [redirectLocation, List.contains_iff_mem]

/-- **The browser can be sent back if the redirect URI can stand in a header.** -/
theorem isHeaderSafe_redirectLocation (redirectUri state : String) (draws : Draws) :
    Response.isHeaderSafe (redirectLocation redirectUri draws.codeText state)
      = Response.isHeaderSafe redirectUri := by
  have hmark : Response.isHeaderSafe (if redirectUri.toList.contains '?' then "&" else "?") = true := by
    split <;> decide
  have hstate : Response.isHeaderSafe (if state = "" then "" else "&state=" ++ Form.encodeText state)
      = true := by
    split
    · rfl
    · rw [Response.isHeaderSafe_append, isHeaderSafe_encodeText]
      decide
  have hname : Response.isHeaderSafe "code=" = true := by decide
  simp only [redirectLocation, Response.isHeaderSafe_append, hmark, hstate, hname,
    isHeaderSafe_codeText, Bool.and_true]

end CodeGrant
