/-
The main loop of the client (`run_client`) and what it leaves behind.  The loop
connects, sets up routes, DNS and kill-switch once, tunnels, and backs off; a
shutdown in any phase leaves it through the cleanup, but an error of a setup
command returns at once.
-/
import Redpill.Machine
import Redpill.ClientSystem

namespace Redpill

structure ClientSettings where
  platform : Platform
  testMode : Bool
  loopback : Bool
  serverRealIp : String
deriving Repr, DecidableEq

inductive ClientPhase where
  | connecting
  | tunnelling
  | backoff
  | returned (error : Option ClientError)
deriving Repr, DecidableEq

/-- The locals of the loop, with the system they are about. -/
structure Client where
  system : System
  phase : ClientPhase
  attempt : Nat
  routesConfigured : Bool
  savedRoutes : Option SavedRoutes
  killswitchEnabled : Bool
deriving Repr, DecidableEq

/-- What the loop waits for.  A connection that is made brings the results of
the setup commands with it. -/
inductive ClientEvent where
  | connected (input : SetupInput)
  | connectFailed
  | tunnelLost
  | healthReconnect
  | backoffElapsed
  | shutdown

namespace Client

/-- The client before its first attempt.  Up to here nothing is installed, and
what an earlier run left was removed. -/
def start : Client := ⟨System.empty, .connecting, 0, false, none, false⟩

/-- An operation of the loop on the system. -/
def onSystem {α : Type} (operation : Operation α) :
    EStateM ClientError Client α := fun client =>
  match operation client.system with
  | .ok value system => .ok value { client with system := system }
  | .error error system => .error error { client with system := system }

/-- DNS and kill-switch, after the routes.  The routes count as saved only when
DNS is overridden as well. -/
def finishFullTunnel (settings : ClientSettings) (input : SetupInput)
    (saved : SavedRoutes) : EStateM ClientError Client Unit := do
  onSystem (input.setupClientDns settings.platform)
  modify fun client =>
    { client with savedRoutes := some saved, routesConfigured := true }
  onSystem (input.enable settings.platform)
  modify fun client => { client with killswitchEnabled := true }

/-- Routes, DNS and kill-switch, in this order. -/
def setupFullTunnel (settings : ClientSettings) (input : SetupInput) :
    EStateM ClientError Client Unit := do
  let gateway ← onSystem input.getDefaultGateway
  let saved ← onSystem (input.setupClientRoutes settings.serverRealIp gateway)
  finishFullTunnel settings input saved

/-- The arm of a successful connection.  An error of any part leaves the
function. -/
def onConnected (settings : ClientSettings) (input : SetupInput) :
    EStateM ClientError Client Unit := do
  modify fun client => { client with attempt := 0 }
  onSystem (input.configureClientInterface settings.platform)
  let client ← get
  if !settings.testMode && !client.routesConfigured then
    if settings.loopback then pure ()
    else setupFullTunnel settings input

/-- After the arm the tunnel runs; an error returns from the function. -/
def settle : EStateM.Result ClientError Client Unit → Client
  | .ok _ client => { client with phase := .tunnelling }
  | .error error client => { client with phase := .returned (some error) }

/-- What follows the loop. -/
def cleanup (settings : ClientSettings) (client : Client) : Client :=
  let system :=
    if client.killswitchEnabled then client.system.disable settings.platform
    else client.system
  match client.savedRoutes with
  | some saved =>
      { client with
        system := (system.cleanupClientDns settings.platform).cleanupClientRoutes
          saved settings.platform }
  | none => { client with system := system }

/-- One event of the loop. -/
def step (settings : ClientSettings) (client : Client) :
    ClientEvent → Option Client
  | .connected input =>
      if client.phase = .connecting then
        some (settle (onConnected settings input client))
      else none
  | .connectFailed =>
      if client.phase = .connecting then
        some { client with phase := .backoff, attempt := client.attempt + 1 }
      else none
  | .tunnelLost =>
      if client.phase = .tunnelling then
        some { client with phase := .backoff, attempt := client.attempt + 1 }
      else none
  | .healthReconnect =>
      if client.phase = .tunnelling then
        some { client with phase := .connecting, attempt := 0 }
      else none
  | .backoffElapsed =>
      if client.phase = .backoff then
        some { client with phase := .connecting }
      else none
  | .shutdown =>
      match client.phase with
      | .returned _ => none
      | _ => some { client.cleanup settings with phase := .returned none }

end Client

end Redpill
