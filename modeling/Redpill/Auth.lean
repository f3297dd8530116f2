/-
Authentication by shared key (`auth.rs`, `users.rs` and the `AuthMode` of the
server).  The keyed hash is a parameter; checking a tag compares all of it.
-/
import Redpill.Control

namespace Redpill

/-- `HMAC-SHA256` as a function of key and nonce. -/
abbrev Hmac := Bytes32 → Bytes32 → Bytes32

/-- `verify_slice`: the tag is the expected one. -/
def Hmac.verifySlice (hmac : Hmac) (psk nonce mac : Bytes32) : Bool :=
  decide (hmac psk nonce = mac)

structure PskAuthenticator where
  psk : Bytes32
deriving Repr, DecidableEq

namespace PskAuthenticator

def verify (hmac : Hmac) (auth : PskAuthenticator) (nonce mac : Bytes32) :
    Bool :=
  hmac.verifySlice auth.psk nonce mac

def computeMac (hmac : Hmac) (auth : PskAuthenticator) (nonce : Bytes32) :
    Bytes32 :=
  hmac auth.psk nonce

def verifyAuth (hmac : Hmac) (auth : PskAuthenticator) (nonce mac : Bytes32) :
    Option String :=
  if auth.verify hmac nonce mac then some "default" else none

end PskAuthenticator

/-- The users by key.  The order of the list is the order in which the map is
iterated, which is arbitrary. -/
structure UserStore where
  users : List (Bytes32 × String)
  distinct : (users.map Prod.fst).Nodup
deriving Repr, DecidableEq

namespace UserStore

/-- Trial verification: the user of the first key that produces the tag. -/
def verify (hmac : Hmac) (store : UserStore) (nonce mac : Bytes32) :
    Option String :=
  (store.users.find? fun entry => hmac.verifySlice entry.1 nonce mac).map
    Prod.snd

def verifyAuth (hmac : Hmac) (store : UserStore) (nonce mac : Bytes32) :
    Option String :=
  store.verify hmac nonce mac

end UserStore

inductive AuthMode where
  | singlePsk (auth : PskAuthenticator)
  | multiUser (store : UserStore)
deriving Repr, DecidableEq

namespace AuthMode

/-- The name of the authenticated user, which is `default` under a single
key. -/
def verify (hmac : Hmac) (mode : AuthMode) (nonce mac : Bytes32) :
    Option String :=
  match mode with
  | singlePsk auth =>
      if auth.verify hmac nonce mac then some "default" else none
  | multiUser store => store.verify hmac nonce mac

/-- Verification through the `Authenticator` of the mode. -/
def verifyAuth (hmac : Hmac) (mode : AuthMode) (nonce mac : Bytes32) :
    Option String :=
  match mode with
  | singlePsk auth => auth.verifyAuth hmac nonce mac
  | multiUser store => store.verifyAuth hmac nonce mac

/-- The stored keys with the user name that each one stands for. -/
def keys : AuthMode → List (Bytes32 × String)
  | singlePsk auth => [(auth.psk, "default")]
  | multiUser store => store.users

theorem keys_distinct (mode : AuthMode) : (mode.keys.map Prod.fst).Nodup := by
  cases mode with
  | singlePsk auth => simp [keys]
  | multiUser store => exact store.distinct

/-- Both verification paths try the stored keys in turn. -/
theorem verify_eq_find? (hmac : Hmac) (mode : AuthMode) (nonce mac : Bytes32) :
    mode.verify hmac nonce mac =
      (mode.keys.find? fun entry =>
        decide (hmac entry.1 nonce = mac)).map Prod.snd := by
  cases mode with
  | singlePsk auth =>
      by_cases htag : hmac auth.psk nonce = mac
      · simp [verify, keys, PskAuthenticator.verify, Hmac.verifySlice, htag]
      · simp [verify, keys, PskAuthenticator.verify, Hmac.verifySlice, htag]
  | multiUser store => rfl

theorem verifyAuth_eq_verify (hmac : Hmac) (mode : AuthMode)
    (nonce mac : Bytes32) :
    mode.verifyAuth hmac nonce mac = mode.verify hmac nonce mac := by
  cases mode <;> rfl

/-- A verified name belongs to a stored key that produces the tag. -/
theorem exists_key_of_verify {hmac : Hmac} {mode : AuthMode}
    {nonce mac : Bytes32} {username : String}
    (h : mode.verify hmac nonce mac = some username) :
    ∃ psk, (psk, username) ∈ mode.keys ∧ hmac psk nonce = mac := by
  rw [verify_eq_find?, Option.map_eq_some_iff] at h
  obtain ⟨⟨psk, name⟩, hfind, rfl⟩ := h
  have htag := List.find?_some hfind
  exact ⟨psk, List.mem_of_find?_eq_some hfind, by simpa using htag⟩

/-- A tag made with a stored key is never rejected. -/
theorem verify_isSome_of_mem {hmac : Hmac} {mode : AuthMode}
    {nonce mac psk : Bytes32} {username : String}
    (hmem : (psk, username) ∈ mode.keys) (htag : hmac psk nonce = mac) :
    ∃ name, mode.verify hmac nonce mac = some name := by
  rw [verify_eq_find?]
  cases hfind : mode.keys.find? fun entry =>
      decide (hmac entry.1 nonce = mac) with
  | none =>
      have hnone := List.find?_eq_none.mp hfind _ hmem
      simp [htag] at hnone
  | some entry => exact ⟨entry.2, rfl⟩

theorem key_unique {mode : AuthMode} {psk : Bytes32} {first second : String}
    (hfirst : (psk, first) ∈ mode.keys) (hsecond : (psk, second) ∈ mode.keys) :
    first = second := by
  have hinj := List.inj_on_of_nodup_map mode.keys_distinct hfirst hsecond rfl
  exact congrArg Prod.snd hinj

/-- Without a collision at this nonce, the verified name is that of the key
that made the tag. -/
theorem verify_eq_of_no_collision {hmac : Hmac} {mode : AuthMode}
    {nonce psk : Bytes32} {username : String}
    (hmem : (psk, username) ∈ mode.keys)
    (hunique : ∀ entry ∈ mode.keys, hmac entry.1 nonce = hmac psk nonce →
      entry.1 = psk) :
    mode.verify hmac nonce (hmac psk nonce) = some username := by
  obtain ⟨name, hverify⟩ := verify_isSome_of_mem hmem (rfl : hmac psk nonce = _)
  obtain ⟨other, hother, htag⟩ := exists_key_of_verify hverify
  have hsame : other = psk := hunique _ hother htag
  subst hsame
  rw [hverify, key_unique hother hmem]

/-- The bytes start with the message of a client that knows one of the keys. -/
def Admits (hmac : Hmac) (mode : AuthMode) (data : List UInt8)
    (username : String) : Prop :=
  ∃ clientAuth, ClientAuth.decode data = some clientAuth ∧
    mode.verify hmac clientAuth.nonce clientAuth.mac = some username

end AuthMode

end Redpill
