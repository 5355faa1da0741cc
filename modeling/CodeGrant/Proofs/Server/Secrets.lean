import CodeGrant.Proofs.Server.Footprint

/-! # Secrets make no difference

A client is registered with a secret, with a method by which it wants to authenticate, and at
some time.  Nothing that the server does later depends on any of the three: runs from two
stores that differ in nothing else get the same responses, and the stores behind them again
differ in nothing else (`Server.run_eqUpToSecrets`).  So no response tells a secret, not even
by being an error or not, but the one to the registration itself. -/

namespace CodeGrant

open Http (Response)

/-- What is used of a client: its identifier and its redirect URIs. -/
def Client.profile (client : Client) : String × List String := (client.id, client.redirectUris)

namespace Store

/-- Whether two stores hold the same codes and the same clients, up to the secrets of the clients,
the methods by which they authenticate, and the times when they were registered. -/
structure EqUpToSecrets (s t : Store) : Prop where
  grants : s.grants = t.grants
  profile : ∀ id, (s.client? id).map Client.profile = (t.client? id).map Client.profile

namespace EqUpToSecrets

variable {s t : Store}

theorem grant?_eq (h : s.EqUpToSecrets t) (code : String) : s.grant? code = t.grant? code := by
  rw [grant?, grant?, h.grants]

/-- **Any change keeps stores equal up to secrets.** -/
theorem apply (h : s.EqUpToSecrets t) (c : Change) : (c.apply s).EqUpToSecrets (c.apply t) := by
  cases c with
  | nothing => exact h
  | insertClient client =>
    refine ⟨h.grants, fun id => ?_⟩
    rw [Change.apply, Change.apply, client?_insertClient, client?_insertClient]
    split
    · rfl
    · exact h.profile id
  | putCode code grant => exact ⟨congrArg (·.insert code grant) h.grants, h.profile⟩
  | eraseCode code => exact ⟨congrArg (·.erase code) h.grants, h.profile⟩

/-- **No request sees a secret.** -/
theorem seesAlike (h : s.EqUpToSecrets t) (a : Arrival) : a.SeesAlike s t where
  redirectUris id _ := by
    have hsnd : Client.redirectUris = Prod.snd ∘ Client.profile := rfl
    rw [hsnd, ← Option.map_map, h.profile id, Option.map_map]
  grant code _ := h.grant?_eq code

end EqUpToSecrets

end Store

namespace Server

variable (server : Server) {s t : Store}

/-- Equal up to secrets before a request, the stores are so behind it, and its response is the
same. -/
theorem exchange_eqUpToSecrets (h : s.EqUpToSecrets t) (a : Arrival) :
    (server.exchange s a).response = (server.exchange t a).response ∧
      (server.exchange s a).after.EqUpToSecrets (server.exchange t a).after := by
  obtain ⟨response, change, -, hs, ht⟩ := server.exchange_congr (h.seesAlike a)
  rw [hs, ht]
  exact ⟨rfl, h.apply change⟩

/-- **Runs from stores that are equal up to secrets get the same responses**, and the stores behind
them are equal up to secrets. -/
theorem run_eqUpToSecrets (h : s.EqUpToSecrets t) (arrivals : List Arrival) :
    (server.run s arrivals).map (·.response) = (server.run t arrivals).map (·.response) ∧
      (server.storeAfter s arrivals).EqUpToSecrets (server.storeAfter t arrivals) := by
  induction arrivals generalizing s t with
  | nil => exact ⟨rfl, h⟩
  | cons a arrivals ih =>
    obtain ⟨hresponse, hafter⟩ := server.exchange_eqUpToSecrets h a
    obtain ⟨hresponses, hend⟩ := ih hafter
    refine ⟨?_, hend⟩
    rw [run_cons, run_cons, List.map_cons, List.map_cons, hresponse, hresponses]

end Server

namespace Sample

/-- The store that a server starts with, if the sample client had a secret. -/
def otherStore : Store :=
  Store.insertClient ⟨∅, ∅⟩
    { Client.sample ⟨0, 0⟩ with secret := "other", authMethod := "client_secret_post", issuedAt := 7 }

theorem eqUpToSecrets_otherStore : (Store.initial ⟨0, 0⟩).EqUpToSecrets otherStore where
  grants := rfl
  profile id := by
    rw [Store.initial, otherStore, Store.client?_insertClient, Store.client?_insertClient]
    split
    · rfl
    · rfl

end Sample

/-- From a registration to a token, nobody can tell whether the sample client has a secret. -/
theorem Server.run_eqUpToSecrets_otherStore :
    let arrivals := [Sample.enrol, Sample.ask, Sample.bearer "verifier"]
    (Store.initial ⟨0, 0⟩).EqUpToSecrets Sample.otherStore ∧
      (Sample.server.run (.initial ⟨0, 0⟩) arrivals).map (·.response)
        = (Sample.server.run Sample.otherStore arrivals).map (·.response) ∧
      (Sample.server.storeAfter (.initial ⟨0, 0⟩) arrivals).EqUpToSecrets
        (Sample.server.storeAfter Sample.otherStore arrivals) :=
  ⟨Sample.eqUpToSecrets_otherStore,
    Sample.server.run_eqUpToSecrets Sample.eqUpToSecrets_otherStore _⟩

end CodeGrant
