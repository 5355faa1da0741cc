import Std.Data.ExtTreeMap
import CodeGrant.Client
import CodeGrant.Grant
import CodeGrant.ProtocolError

/-! # The store

What the server remembers between requests: the registered clients and the codes
that are outstanding.  Both are finite maps, and two stores that answer every
question alike are equal, so that "the store is unchanged" is an equation.

A code is redeemed in two steps: it is taken out of the store, and put back if it
is not good for what the bearer wants (`Store.redeem`).  Whoever takes a code owns
it, so no code is redeemed twice. -/

namespace CodeGrant

/-- The clients by their identifiers, and the grants by their codes. -/
structure Store where
  clients : Std.ExtTreeMap String Client
  grants : Std.ExtTreeMap String Grant

namespace Store

/-- The client of an identifier. -/
def client? (store : Store) (id : String) : Option Client := store.clients[id]?

/-- The grant of a code. -/
def grant? (store : Store) (code : String) : Option Grant := store.grants[code]?

/-- Stores that know the same clients and the same codes are equal. -/
@[ext] theorem ext_lookup {s t : Store} (hc : ∀ id, s.client? id = t.client? id)
    (hg : ∀ code, s.grant? code = t.grant? code) : s = t := by
  obtain ⟨sc, sg⟩ := s
  obtain ⟨tc, tg⟩ := t
  have hc' : sc = tc := Std.ExtTreeMap.ext_getElem? fun {id} => hc id
  have hg' : sg = tg := Std.ExtTreeMap.ext_getElem? fun {code} => hg code
  rw [hc', hg']

/-- Adds a client, or replaces the one of the same identifier. -/
def insertClient (store : Store) (client : Client) : Store :=
  { store with clients := store.clients.insert client.id client }

/-- Adds a code, or replaces its grant. -/
def putCode (store : Store) (code : String) (grant : Grant) : Store :=
  { store with grants := store.grants.insert code grant }

/-- The store without a code. -/
def eraseCode (store : Store) (code : String) : Store :=
  { store with grants := store.grants.erase code }

/-- Takes a code out of the store, whether it is good or not. -/
def takeCode (store : Store) (code : String) : Option Grant × Store :=
  (store.grant? code, store.eraseCode code)

/-- The store that a server starts with: the sample client and no codes. -/
def initial (now : Instant) : Store :=
  insertClient ⟨∅, ∅⟩ (Client.sample now)

/-- The identifiers of the clients, in order. -/
def clientIds (store : Store) : List String := store.clients.keys

/-- The codes that are outstanding, in order. -/
def codes (store : Store) : List String := store.grants.keys

/-! ## What the operations change -/

@[simp] theorem client?_insertClient (store : Store) (client : Client) (id : String) :
    (store.insertClient client).client? id =
      if client.id = id then some client else store.client? id := by
  simp [client?, insertClient, Std.ExtTreeMap.getElem?_insert]

@[simp] theorem grant?_insertClient (store : Store) (client : Client) (code : String) :
    (store.insertClient client).grant? code = store.grant? code := rfl

@[simp] theorem client?_putCode (store : Store) (code : String) (grant : Grant) (id : String) :
    (store.putCode code grant).client? id = store.client? id := rfl

@[simp] theorem grant?_putCode (store : Store) (code : String) (grant : Grant) (other : String) :
    (store.putCode code grant).grant? other =
      if code = other then some grant else store.grant? other := by
  simp [grant?, putCode, Std.ExtTreeMap.getElem?_insert]

@[simp] theorem client?_eraseCode (store : Store) (code id : String) :
    (store.eraseCode code).client? id = store.client? id := rfl

@[simp] theorem grant?_eraseCode (store : Store) (code other : String) :
    (store.eraseCode code).grant? other = if code = other then none else store.grant? other := by
  simp [grant?, eraseCode, Std.ExtTreeMap.getElem?_erase]

/-- **A code that is put back leaves the store as it was before it was taken.** -/
theorem putCode_eraseCode {store : Store} {code : String} {grant : Grant}
    (h : store.grant? code = some grant) : (store.eraseCode code).putCode code grant = store := by
  apply ext_lookup
  · intro id; simp
  · intro other
    by_cases hc : code = other
    · subst hc; simp [h]
    · simp [hc]

/-- Taking out a code that is not there changes nothing. -/
theorem eraseCode_of_grant?_eq_none {store : Store} {code : String}
    (h : store.grant? code = none) : store.eraseCode code = store := by
  apply ext_lookup
  · intro id; simp
  · intro other
    by_cases hc : code = other
    · subst hc; simp [h]
    · simp [hc]

/-! ## Redemption -/

/-- Redeems a code for a bearer whose wishes are judged by `check`: a code that is not there and a
code that has expired are refused, the latter for good; a code that fails the check is put back;
any other is handed out and gone. -/
def redeem (store : Store) (code : String) (now : Instant) (check : Grant → Except ProtocolError Unit) :
    Except ProtocolError Grant × Store :=
  match store.takeCode code with
  | (none, store) => (.error (.invalidGrant none), store)
  | (some grant, store) =>
    if grant.isExpiredAt now then (.error .codeExpired, store)
    else
      match check grant with
      | .error error => (.error error, store.putCode code grant)
      | .ok () => (.ok grant, store)

end Store

end CodeGrant
