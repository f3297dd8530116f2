/-
The control stream messages (`control.rs`): client authentication, session
configuration and session update.  Multi-byte fields are big-endian.
-/
import Redpill.Packet

namespace Redpill

open ByteStream

def msgClientAuth : UInt8 := 0x01
def msgSessionConfig : UInt8 := 0x02
def msgSessionUpdate : UInt8 := 0x03

def clientAuthLen : Nat := 66
def sessionConfigLen : Nat := 17

/-- Length without the flags byte, as older servers send it. -/
def sessionConfigLenV1 : Nat := 16

def sessionUpdateLen : Nat := 3

/-- A byte array of length 32: a nonce, a tag or a key. -/
structure Bytes32 where
  bytes : Bytes
  length_eq : bytes.length = 32
deriving Repr, DecidableEq

/-- The same byte 32 times. -/
def Bytes32.replicate (byte : UInt8) : Bytes32 :=
  ⟨List.replicate 32 byte, List.length_replicate⟩

/-- The 32 bytes of `data` from position `start` on. -/
def Bytes32.slice (data : Bytes) (start : Nat)
    (h : start + 32 ≤ data.length) : Bytes32 :=
  ⟨(data.drop start).take 32, by simp; omega⟩

/-- Client to server: proof of knowledge of a key. -/
structure ClientAuth where
  nonce : Bytes32
  mac : Bytes32
  version : UInt8
deriving Repr, DecidableEq

namespace ClientAuth

def encode (auth : ClientAuth) : Bytes :=
  msgClientAuth :: (auth.nonce.bytes ++ auth.mac.bytes ++ [auth.version])

def decode (data : Bytes) : Option ClientAuth :=
  if h : data.length < clientAuthLen then none
  else
    have hlen : 66 ≤ data.length := Nat.le_of_not_lt h
    if data[0] ≠ msgClientAuth then none
    else
      some {
        nonce := Bytes32.slice data 1 (by omega)
        mac := Bytes32.slice data 33 (by omega)
        version := data[65] }

theorem encode_length (auth : ClientAuth) :
    auth.encode.length = clientAuthLen := by
  simp [encode, clientAuthLen, auth.nonce.length_eq, auth.mac.length_eq]

theorem decode_encode_append (auth : ClientAuth) (rest : Bytes) :
    decode (auth.encode ++ rest) = some auth := by
  obtain ⟨⟨nonce, hnonce⟩, ⟨mac, hmac⟩, version⟩ := auth
  have hlen : ¬ (encode ⟨⟨nonce, hnonce⟩, ⟨mac, hmac⟩, version⟩ ++
      rest).length < clientAuthLen := by
    rw [List.length_append, encode_length]
    omega
  simp only [decode, hlen, dite_false]
  have hversion : (nonce ++ (mac ++ version :: rest))[64]? = some version := by
    rw [List.getElem?_append_right (by omega),
      List.getElem?_append_right (by omega)]
    simp [hnonce, hmac]
  have hmacs : ((nonce ++ (mac ++ version :: rest)).drop 32).take 32 = mac := by
    rw [← hnonce, List.drop_left, hnonce, ← hmac, List.take_left]
  have hnonces : (nonce ++ (mac ++ version :: rest)).take 32 = nonce := by
    rw [← hnonce, List.take_left]
  have hget : ∀ h : 64 < (nonce ++ (mac ++ version :: rest)).length,
      (nonce ++ (mac ++ version :: rest))[64] = version := by
    intro h
    rw [List.getElem?_eq_getElem h, Option.some.injEq] at hversion
    exact hversion
  simp [encode, Bytes32.slice, msgClientAuth, hmacs, hnonces, hget]

/-- A message decodes exactly when it starts with the encoding of what it
decodes to. -/
theorem decode_eq_some {data : Bytes} {auth : ClientAuth} :
    decode data = some auth ↔ ∃ rest, data = auth.encode ++ rest := by
  constructor
  · intro hdecode
    unfold decode at hdecode
    split at hdecode
    · cases hdecode
    · rename_i hshort
      have hlen : 66 ≤ data.length := Nat.le_of_not_lt hshort
      simp only at hdecode
      split at hdecode
      · cases hdecode
      · rename_i htag
        obtain rfl := Option.some.inj hdecode
        refine ⟨data.drop 66, ?_⟩
        obtain ⟨tag, tail, rfl⟩ : ∃ tag tail, data = tag :: tail := by
          cases data with
          | nil => simp at hlen
          | cons tag tail => exact ⟨tag, tail, rfl⟩
        have htag' : tag = msgClientAuth := by simpa using htag
        simp only [List.length_cons] at hlen
        simp only [encode, Bytes32.slice, htag', List.drop_succ_cons,
          List.drop_zero, List.getElem_cons_succ, List.cons_append,
          List.cons.injEq, true_and, List.append_assoc, List.nil_append]
        rw [← List.drop_eq_getElem_cons (by omega : 64 < tail.length)]
        have hmid : (tail.drop 32).take 32 ++ tail.drop 64 = tail.drop 32 := by
          rw [show tail.drop 64 = (tail.drop 32).drop 32 by
            rw [List.drop_drop], List.take_append_drop]
        rw [hmid, List.take_append_drop]
  · intro ⟨rest, hdata⟩
    rw [hdata]
    exact decode_encode_append auth rest

theorem decode_of_length_lt {data : Bytes} (h : data.length < clientAuthLen) :
    decode data = none := by
  simp [decode, h]

/-- Only the first 66 bytes matter. -/
theorem decode_take (data : Bytes) :
    decode (data.take clientAuthLen) = decode data := by
  apply Option.ext
  intro auth
  rw [decode_eq_some, decode_eq_some]
  constructor
  · intro ⟨rest, hrest⟩
    refine ⟨rest ++ data.drop clientAuthLen, ?_⟩
    rw [← List.append_assoc, ← hrest, List.take_append_drop]
  · intro ⟨rest, hrest⟩
    refine ⟨[], ?_⟩
    rw [hrest, ← auth.encode_length, List.take_left, List.append_nil]

end ClientAuth

/-- Server to client: the parameters of the session. -/
structure SessionConfig where
  clientIp : Ipv4Addr
  serverIp : Ipv4Addr
  dnsIp : Ipv4Addr
  mtu : Nat
  mtu_lt : mtu < 65536
  keepaliveSecs : UInt8
  flags : UInt8
deriving Repr, DecidableEq

namespace SessionConfig

def encode (config : SessionConfig) : Bytes :=
  msgSessionConfig :: (config.clientIp.octets ++ config.serverIp.octets ++
    config.dnsIp.octets ++ u16ToBeBytes config.mtu ++
    [config.keepaliveSecs, config.flags])

/-- Accepts the 16-byte and the 17-byte format. -/
def decode (data : Bytes) : Option SessionConfig :=
  if h : data.length < sessionConfigLenV1 then none
  else
    have hlen : 16 ≤ data.length := Nat.le_of_not_lt h
    if data[0] ≠ msgSessionConfig then none
    else
      some {
        clientIp := ⟨data[1], data[2], data[3], data[4]⟩
        serverIp := ⟨data[5], data[6], data[7], data[8]⟩
        dnsIp := ⟨data[9], data[10], data[11], data[12]⟩
        mtu := u16FromBeBytes data[13] data[14]
        mtu_lt := u16FromBeBytes_lt _ _
        keepaliveSecs := data[15]
        flags := if h : sessionConfigLen ≤ data.length then
            have hlen : 17 ≤ data.length := h
            data[16]
          else 0 }

theorem encode_length (config : SessionConfig) :
    config.encode.length = sessionConfigLen :=
  rfl

theorem decode_encode (config : SessionConfig) :
    decode config.encode = some config := by
  obtain ⟨clientIp, serverIp, dnsIp, mtu, hmtu, keepaliveSecs, flags⟩ := config
  simp [decode, encode, Ipv4Addr.octets, u16ToBeBytes, sessionConfigLen,
    sessionConfigLenV1, msgSessionConfig, u16FromBeBytes_ofNat hmtu]

end SessionConfig

/-- Server to client: the path MTU has changed. -/
structure SessionUpdate where
  mtu : Nat
  mtu_lt : mtu < 65536
deriving Repr, DecidableEq

namespace SessionUpdate

def encode (update : SessionUpdate) : Bytes :=
  msgSessionUpdate :: u16ToBeBytes update.mtu

def decode (data : Bytes) : Option SessionUpdate :=
  if h : data.length < sessionUpdateLen then none
  else
    have hlen : 3 ≤ data.length := Nat.le_of_not_lt h
    if data[0] ≠ msgSessionUpdate then none
    else some ⟨u16FromBeBytes data[1] data[2], u16FromBeBytes_lt _ _⟩

theorem encode_length (update : SessionUpdate) :
    update.encode.length = sessionUpdateLen :=
  rfl

theorem decode_encode (update : SessionUpdate) :
    decode update.encode = some update := by
  obtain ⟨mtu, hmtu⟩ := update
  simp [decode, encode, u16ToBeBytes, sessionUpdateLen, msgSessionUpdate,
    u16FromBeBytes_ofNat hmtu]

end SessionUpdate

end Redpill
