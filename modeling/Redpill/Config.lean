/-
The server configuration (`config.rs`): the fields that validation and the
start of the server read, and the server that they describe.  The check for
socket addresses is a parameter, since nothing else depends on which strings
pass it.
-/
import Redpill.Machine
import Redpill.ServerSteps

namespace Redpill

/-- One part of a dotted address: one to three digits without a leading zero,
at most 255. -/
def parseOctet (digits : List Char) : Option UInt8 :=
  if digits = [] ∨ 3 < digits.length then none
  else if digits.any fun c => !c.isDigit then none
  else if digits.head? = some '0' ∧ 1 < digits.length then none
  else
    let value := digits.foldl (fun n c => n * 10 + (c.toNat - '0'.toNat)) 0
    if value ≤ 255 then some (UInt8.ofNat value) else none

/-- `str::parse::<Ipv4Addr>`. -/
def parseIpv4Addr (text : String) : Option Ipv4Addr :=
  match (text.toList.splitOn '.').map parseOctet with
  | [some a, some b, some c, some d] => some ⟨a, b, c, d⟩
  | _ => none

structure ServerConfig where
  listen : String
  tunAddress : String
  tunPrefixLen : Nat
  mtu : Nat
  maxConnections : Nat
  maxBandwidthMbps : Nat
  metricsListen : String
  dns : String
deriving Repr, DecidableEq

/-- Recognises the two socket addresses of the default configuration. -/
def isDefaultSocket (text : String) : Bool :=
  decide (text = "0.0.0.0:443" ∨ text = "127.0.0.1:9093")

namespace ServerConfig

/-- The values of the fields that a configuration file leaves out. -/
def default : ServerConfig where
  listen := "0.0.0.0:443"
  tunAddress := "10.0.1.1"
  tunPrefixLen := 24
  mtu := 1200
  maxConnections := 64
  maxBandwidthMbps := 0
  metricsListen := "127.0.0.1:9093"
  dns := "1.1.1.1"

/-- A check of an address field. -/
def checkAddress (valid : Bool) (field text kind : String) :
    Except String Unit :=
  if valid then .ok ()
  else .error ("invalid " ++ field ++ " '" ++ text ++ "': invalid " ++ kind ++
    " address syntax")

/-- A check of a numeric field. -/
def checkRange (valid : Bool) (message : String) : Except String Unit :=
  if valid then .ok () else .error message

def validate (isSocketAddr : String → Bool) (config : ServerConfig) :
    Except String Unit := do
  checkAddress (isSocketAddr config.listen) "listen address" config.listen
    "socket"
  checkAddress (parseIpv4Addr config.tunAddress).isSome "tun_address"
    config.tunAddress "IPv4"
  checkAddress (parseIpv4Addr config.dns).isSome "dns" config.dns "IPv4"
  checkAddress (isSocketAddr config.metricsListen) "metrics_listen"
    config.metricsListen "socket"
  checkRange (!(decide (config.mtu < 576) || decide (1500 < config.mtu)))
    ("mtu must be 576..1500, got " ++ toString config.mtu)
  checkRange
    (!(decide (config.tunPrefixLen = 0) || decide (32 < config.tunPrefixLen)))
    ("tun_prefix_len must be 1..32, got " ++ toString config.tunPrefixLen)
  checkRange (!decide (config.maxConnections = 0))
    "max_connections must be > 0"

theorem checkAddress_bind {valid : Bool} {field text kind : String}
    {rest : Unit → Except String Unit} :
    (checkAddress valid field text kind >>= rest) = .ok () ↔
      valid = true ∧ rest () = .ok () := by
  cases valid with
  | false => simp [checkAddress, bind, Except.bind]
  | true => simp [checkAddress, bind, Except.bind]

theorem checkRange_bind {valid : Bool} {message : String}
    {rest : Unit → Except String Unit} :
    (checkRange valid message >>= rest) = .ok () ↔
      valid = true ∧ rest () = .ok () := by
  cases valid with
  | false => simp [checkRange, bind, Except.bind]
  | true => simp [checkRange, bind, Except.bind]

theorem checkRange_eq_ok {valid : Bool} {message : String} :
    checkRange valid message = .ok () ↔ valid = true := by
  cases valid <;> simp [checkRange]

/-- What validation accepts. -/
theorem validate_eq_ok {isSocketAddr : String → Bool} {config : ServerConfig} :
    config.validate isSocketAddr = .ok () ↔
      isSocketAddr config.listen = true ∧
        (parseIpv4Addr config.tunAddress).isSome = true ∧
        (parseIpv4Addr config.dns).isSome = true ∧
        isSocketAddr config.metricsListen = true ∧
        (576 ≤ config.mtu ∧ config.mtu ≤ 1500) ∧
        (1 ≤ config.tunPrefixLen ∧ config.tunPrefixLen ≤ 32) ∧
        0 < config.maxConnections := by
  simp only [validate, checkAddress_bind, checkRange_bind, checkRange_eq_ok,
    Bool.not_eq_true', Bool.or_eq_false_iff, decide_eq_false_iff_not,
    Nat.not_lt, Nat.pos_iff_ne_zero, Nat.one_le_iff_ne_zero]

/-- The default configuration is valid, if its two socket addresses are. -/
theorem validate_default {isSocketAddr : String → Bool}
    (hlisten : isSocketAddr "0.0.0.0:443" = true)
    (hmetrics : isSocketAddr "127.0.0.1:9093" = true) :
    default.validate isSocketAddr = .ok () := by
  apply validate_eq_ok.mpr
  exact ⟨hlisten, by decide, by decide +kernel, hmetrics, by decide,
    by decide, by decide⟩

theorem validate_defaultSockets :
    default.validate isDefaultSocket = .ok () :=
  validate_default (by decide) (by decide)

/-- The server that `main` starts.  The pool serves the /24 of the TUN address,
whatever the configured length of the subnet. -/
def startServer (config : ServerConfig) (auth : AuthMode) : Option Server :=
  (parseIpv4Addr config.tunAddress).bind fun serverIp =>
    (parseIpv4Addr config.dns).map fun dnsIp =>
      Server.start auth ⟨serverIp.a, serverIp.b, serverIp.c, 0⟩ serverIp dnsIp
        config.mtu config.maxConnections config.maxBandwidthMbps

theorem startServer_isSome {isSocketAddr : String → Bool}
    {config : ServerConfig} (h : config.validate isSocketAddr = .ok ())
    (auth : AuthMode) : (config.startServer auth).isSome = true := by
  obtain ⟨_, htun, hdns, _⟩ := validate_eq_ok.mp h
  obtain ⟨serverIp, hserverIp⟩ := Option.isSome_iff_exists.mp htun
  obtain ⟨dnsIp, hdnsIp⟩ := Option.isSome_iff_exists.mp hdns
  simp [startServer, hserverIp, hdnsIp]

end ServerConfig

/-- The fields of the shared state that only the configuration decides. -/
structure ServerState.ConfiguredBy (config : ServerConfig)
    (state : ServerState) : Prop where
  mtu : state.mtu = config.mtu
  serverIp : parseIpv4Addr config.tunAddress = some state.serverIp
  dnsIp : parseIpv4Addr config.dns = some state.dnsIp

/-- What a reload can change. -/
def ServerState.reloadable (state : ServerState) : AuthMode × Nat :=
  (state.auth, state.maxConnections)

/-- A session changes neither a setting nor what a reload can change. -/
theorem Session.step_configured {hmac : Hmac} {index : Nat}
    {state : ServerState} {session : Session} {event : SessionEvent}
    {next : ServerState × Session}
    (h : session.step hmac index state event = some next) :
    next.1.settings = state.settings ∧
      next.1.reloadable = state.reloadable := by
  rcases Session.step_frame h with ⟨outcome, hresume⟩ | ⟨_, _, _, rfl⟩ |
    ⟨_, _, _, _, _, _, _, _, rfl⟩
  · obtain ⟨_, _, _, _, hstate⟩ := Session.resume_frame hresume
    rw [hstate]
    exact ⟨rfl, rfl⟩
  · exact ⟨rfl, rfl⟩
  · exact ⟨rfl, rfl⟩

theorem ServerState.readTun_configured {state next : ServerState} {now : Nat}
    (h : state.readTun now = some next) :
    next.settings = state.settings ∧ next.reloadable = state.reloadable := by
  obtain ⟨_, _, _, hstate⟩ := ServerState.readTun_frame h
  rw [hstate]
  exact ⟨rfl, rfl⟩

/-- No step of the server changes a setting, not even a reload; keys and limit
change at a reload only, and as it says. -/
theorem Server.step_configured {hmac : Hmac} {server next : Server}
    {label : ServerLabel} (h : server.step hmac label = some next) :
    next.state.settings = server.state.settings ∧
      (next.state.reloadable = server.state.reloadable ∨
        ∃ auth maxConnections, label = .reload auth maxConnections ∧
          next.state.reloadable =
            (auth.getD server.state.auth, maxConnections)) := by
  cases label with
  | accept handler =>
      simp only [Server.step] at h
      split at h
      · obtain rfl := Option.some.inj h
        exact ⟨rfl, Or.inl rfl⟩
      · obtain rfl := Option.some.inj h
        exact ⟨rfl, Or.inl rfl⟩
  | reload auth maxConnections =>
      obtain rfl := Option.some.inj h
      exact ⟨rfl, Or.inr ⟨auth, maxConnections, rfl, rfl⟩⟩
  | arrive bytes =>
      obtain rfl := Option.some.inj h
      exact ⟨rfl, Or.inl rfl⟩
  | readTun now =>
      obtain ⟨state, hread, rfl⟩ := Option.map_eq_some_iff.mp h
      obtain ⟨hsettings, hreloadable⟩ := ServerState.readTun_configured hread
      exact ⟨hsettings, Or.inl hreloadable⟩
  | session index event =>
      simp only [Server.step] at h
      split at h
      · cases h
      · obtain ⟨moved, hmoved, rfl⟩ := Option.map_eq_some_iff.mp h
        obtain ⟨hsettings, hreloadable⟩ := Session.step_configured hmoved
        exact ⟨hsettings, Or.inl hreloadable⟩

/-- A shared state of the server that was started with a configuration, after
any run. -/
def ServerConfig.Running (hmac : Hmac) (config : ServerConfig)
    (state : ServerState) : Prop :=
  ∃ auth start server, config.startServer auth = some start ∧
    Machine.Reachable (Server.step hmac) start server ∧ server.state = state

theorem ServerConfig.startServer_configuredBy {config : ServerConfig}
    {auth : AuthMode} {start : Server}
    (h : config.startServer auth = some start) :
    start.state.ConfiguredBy config := by
  obtain ⟨serverIp, hserverIp, h⟩ := Option.bind_eq_some_iff.mp h
  obtain ⟨dnsIp, hdnsIp, rfl⟩ := Option.map_eq_some_iff.mp h
  exact ⟨rfl, hserverIp, hdnsIp⟩

theorem ServerState.ConfiguredBy.of_settings {config : ServerConfig}
    {state next : ServerState} (h : state.ConfiguredBy config)
    (hsettings : next.settings = state.settings) :
    next.ConfiguredBy config := by
  simp only [ServerState.settings, Prod.mk.injEq] at hsettings
  obtain ⟨hmtu, hserverIp, hdnsIp⟩ := hsettings
  exact ⟨hmtu.trans h.mtu, by rw [hserverIp, h.serverIp], by rw [hdnsIp, h.dnsIp]⟩

/-- A running server keeps to its configuration. -/
theorem ServerConfig.Running.configuredBy {hmac : Hmac} {config : ServerConfig}
    {state : ServerState} (h : config.Running hmac state) :
    state.ConfiguredBy config := by
  obtain ⟨auth, start, server, hstart, hreach, rfl⟩ := h
  apply Machine.Reachable.invariant _ _ hreach
  · intro server label next hserver hstep
    exact hserver.of_settings (Server.step_configured hstep).1
  · exact ServerConfig.startServer_configuredBy hstart

end Redpill
