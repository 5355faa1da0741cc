import Mathlib.Tactic.SplitIfs
import CodeGrant.Proofs.Form.RoundTrip
import CodeGrant.Proofs.Json.Text
import CodeGrant.Redemption

/-! # How a code is redeemed

A code that is shown is unknown, or has expired, or is not good for its bearer, or is
good.  `Store.redeem` has one equation for each; only an expired code and a good one
leave the store.

What is wrong with a bearer is never told in the words for an expired code
(`TokenRequest.ne_codeExpired_of_check`), and no two errors have the same text
(`ProtocolError.eq_of_render_eq`), so the body of a refusal tells whether the code is
still there. -/

namespace CodeGrant

/-! ## The texts of errors -/

namespace ProtocolError

theorem document_injective {a b : ProtocolError} (h : a.document = b.document) : a = b := by
  have hcode : a.code = b.code := by
    injection h with hmembers
    injection hmembers with hmember _
    injection (Prod.mk.inj hmember).2
  have hdescription : a.description? = b.description? := by
    cases ha : a.description? <;> cases hb : b.description? <;> simp_all [document]
  cases a <;> cases b <;> simp_all [code, description?]

/-- **No two errors have the same text.** -/
theorem eq_of_render_eq {a b : ProtocolError} (h : a.document.render = b.document.render) : a = b :=
  document_injective (Json.render_injective h)

end ProtocolError

/-! ## What is wrong with a bearer -/

namespace TokenRequest

variable {request : TokenRequest} {grant : Grant} {error : ProtocolError}

/-- **A form-encoded body reads as the parameters that it was written for.** -/
theorem ofBody_encode {http : Http.Request} (h : hasForm http = true) (params : Form.Params) :
    ofBody http (Utf8.encode (Form.encode params)) = ofParams params := by
  rw [ofBody, if_pos h, Form.decode_encode]

theorem status_of_check (h : request.check grant = .error error) : error.status = 400 := by
  unfold check at h
  split_ifs at h <;> cases h <;> rfl

theorem ne_codeExpired_of_check (h : request.check grant = .error error) :
    error ≠ .codeExpired := by
  unfold check at h
  split_ifs at h <;> cases h <;> decide

/-- A bearer passes who shows the client, the resource and the verifier of the grant, and the
redirect URI of the grant if any. -/
theorem check_eq_ok_iff : request.check grant = .ok () ↔
    request.clientId = grant.clientId ∧ (request.redirectUri = "" ∨
      request.redirectUri = grant.redirectUri) ∧ request.resource ≠ "" ∧
      request.resource = grant.resource ∧ Pkce.challenge request.verifier = grant.challenge := by
  rw [← Pkce.verify_iff]
  unfold check
  split_ifs with hclient hredirect hresource hmismatch hverify
  · exact ⟨nofun, fun h => absurd h.1 hclient⟩
  · exact ⟨nofun, fun h => not_or.mpr hredirect h.2.1⟩
  · exact ⟨nofun, fun h => absurd hresource h.2.2.1⟩
  · exact ⟨nofun, fun h => absurd h.2.2.2.1 hmismatch⟩
  · rw [hverify]
    exact ⟨nofun, fun h => absurd h.2.2.2.2 (by decide)⟩
  · exact ⟨fun _ => ⟨Decidable.not_not.mp hclient, Decidable.or_iff_not_imp_left.mpr (by simpa using hredirect),
      hresource, Decidable.not_not.mp hmismatch, by simpa using hverify⟩, fun _ => rfl⟩

end TokenRequest

/-! ## The cases of redemption -/

namespace Store

variable {store : Store} {code : String} {grant : Grant} {now : Instant}
  {check : Grant → Except ProtocolError Unit}

/-- An unknown code changes nothing. -/
theorem redeem_of_unknown (h : store.grant? code = none) :
    store.redeem code now check = (.error (.invalidGrant none), store) := by
  rw [redeem, takeCode, h, eraseCode_of_grant?_eq_none h]

/-- An expired code is refused for good. -/
theorem redeem_of_expired (h : store.grant? code = some grant)
    (hexpired : grant.isExpiredAt now = true) :
    store.redeem code now check = (.error .codeExpired, store.eraseCode code) := by
  rw [redeem, takeCode, h]
  exact if_pos hexpired

/-- **A code that is not good for its bearer stays in the store.** -/
theorem redeem_of_refused {error : ProtocolError} (h : store.grant? code = some grant)
    (hlive : grant.isExpiredAt now = false) (hcheck : check grant = .error error) :
    store.redeem code now check = (.error error, store) := by
  simp only [redeem, takeCode, h, hlive, hcheck, Bool.false_eq_true, if_false, putCode_eraseCode h]

/-- **A good code is handed out and gone.** -/
theorem redeem_of_accepted (h : store.grant? code = some grant)
    (hlive : grant.isExpiredAt now = false) (hcheck : check grant = .ok ()) :
    store.redeem code now check = (.ok grant, store.eraseCode code) := by
  simp only [redeem, takeCode, h, hlive, hcheck, Bool.false_eq_true, if_false]

end Store

end CodeGrant
