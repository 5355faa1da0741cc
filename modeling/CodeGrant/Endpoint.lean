/-! # Endpoints

The six things that the server answers for, each under a path of its own. -/

namespace CodeGrant

/-- What a path of the server stands for. -/
inductive Endpoint where
  /-- Whether the server is alive. -/
  | health
  /-- Registration of new clients. -/
  | registration
  /-- The description of the server itself. -/
  | metadata
  /-- The public keys that tokens verify against. -/
  | keys
  /-- Authorization codes are issued here. -/
  | authorization
  /-- Authorization codes are exchanged for tokens here. -/
  | token
  deriving DecidableEq, Repr

namespace Endpoint

/-- The path of an endpoint, behind the name of the issuer. -/
def path : Endpoint → String
  | health => "/health"
  | registration => "/register"
  | metadata => "/.well-known/oauth-authorization-server"
  | keys => "/.well-known/jwks.json"
  | authorization => "/oauth/authorize"
  | token => "/oauth/token"

/-- All endpoints. -/
def all : List Endpoint := [health, registration, metadata, keys, authorization, token]

/-- The endpoint at a path; paths are compared character for character. -/
def ofPath? (path : String) : Option Endpoint := all.find? fun e => e.path == path

/-- **Each endpoint is found under its own path and under no other.** -/
theorem ofPath?_eq_some_iff (text : String) (e : Endpoint) :
    ofPath? text = some e ↔ text = e.path := by
  constructor
  · intro h
    have := List.find?_some h
    exact (beq_iff_eq.mp this).symm
  · rintro rfl
    cases e <;> decide

theorem path_injective {e f : Endpoint} (h : e.path = f.path) : e = f := by
  have he := (ofPath?_eq_some_iff f.path e).mpr h.symm
  have hf := (ofPath?_eq_some_iff f.path f).mpr rfl
  exact Option.some.inj (he.symm.trans hf)

end Endpoint

end CodeGrant
