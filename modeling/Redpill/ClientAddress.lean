/-
The addresses of the client's TUN device on Linux.  The device outlives the
sessions: every connection adds the address it was assigned, and no step of the
loop removes one.  Adding an address that the device already has is an error.
-/
import Redpill.ClientTeardown

namespace Redpill

/-- `ip addr add`. -/
def ipAddrAdd (addresses : List Ipv4Addr) (clientIp : Ipv4Addr) :
    List Ipv4Addr :=
  if clientIp ∈ addresses then addresses else addresses ++ [clientIp]

/-- The results of the setup commands on a device with these addresses. -/
def SetupInput.onDevice (input : SetupInput) (addresses : List Ipv4Addr)
    (clientIp : Ipv4Addr) : SetupInput :=
  { input with
    result := fun command =>
      if command = .setAddress then
        if clientIp ∈ addresses then .failure else .success
      else input.result command }

/-- The loop with the device: its addresses, and how many connections were
made. -/
structure AddressedClient where
  client : Client
  addresses : List Ipv4Addr
  connects : Nat
deriving Repr, DecidableEq

/-- The events of the loop; a connection comes with the assigned address. -/
inductive AddressedEvent where
  | connected (clientIp : Ipv4Addr) (input : SetupInput)
  | loop (event : ClientEvent)

namespace AddressedClient

def start : AddressedClient := ⟨Client.start, [], 0⟩

def step (settings : ClientSettings) (state : AddressedClient) :
    AddressedEvent → Option AddressedClient
  | .connected clientIp input =>
      (state.client.step settings
        (.connected (input.onDevice state.addresses clientIp))).map fun client =>
          ⟨client, ipAddrAdd state.addresses clientIp, state.connects + 1⟩
  | .loop (.connected _) => none
  | .loop event =>
      (state.client.step settings event).map fun client =>
        { state with client := client }

variable {settings : ClientSettings} {state next : AddressedClient}

theorem step_cases {event : AddressedEvent}
    (hstep : state.step settings event = some next) :
    (∃ clientIp input client, event = .connected clientIp input ∧
        state.client.step settings
          (.connected (input.onDevice state.addresses clientIp)) =
            some client ∧
        next = ⟨client, ipAddrAdd state.addresses clientIp,
          state.connects + 1⟩) ∨
      ∃ taken client, event = .loop taken ∧
        state.client.step settings taken = some client ∧
        next = { state with client := client } := by
  cases event with
  | connected clientIp input =>
      obtain ⟨client, hclient, hnext⟩ := Option.map_eq_some_iff.mp hstep
      exact Or.inl ⟨clientIp, input, client, rfl, hclient, hnext.symm⟩
  | loop taken =>
      right
      cases taken with
      | connected input => cases hstep
      | _ =>
          obtain ⟨client, hclient, hnext⟩ := Option.map_eq_some_iff.mp hstep
          exact ⟨_, client, rfl, hclient, hnext.symm⟩

/-- With its device the loop refines the one whose commands succeed or fail as
they like. -/
theorem reachable_client
    (hreach : Machine.Reachable (step settings) start state) :
    Machine.Reachable (Client.step settings) Client.start state.client := by
  apply hreach.project client
  intro state event next hstep
  rcases step_cases hstep with ⟨clientIp, input, client, _, hclient, rfl⟩ |
    ⟨taken, client, _, hclient, rfl⟩
  · exact Or.inr ⟨_, hclient⟩
  · exact Or.inr ⟨taken, hclient⟩

/-- The first connection gives the device an address, and none is removed. -/
def Kept (state : AddressedClient) : Prop :=
  state.connects = 0 ↔ state.addresses = []

theorem Kept.step {event : AddressedEvent} (h : state.Kept)
    (hstep : state.step settings event = some next) : next.Kept := by
  rcases step_cases hstep with ⟨clientIp, input, client, _, _, rfl⟩ |
    ⟨taken, client, _, _, rfl⟩
  · have hne : ipAddrAdd state.addresses clientIp ≠ [] := by
      unfold ipAddrAdd
      split
      · rename_i hmem
        exact List.ne_nil_of_mem hmem
      · simp
    simp [Kept, hne]
  · exact h

/-- A connection leaves the device with the address of its session alone, so
that what is sent from the device passes the server's source check. -/
def Hygienic (settings : ClientSettings) (state : AddressedClient) :
    AddressedEvent → Prop
  | .connected clientIp input =>
      (∃ system, (input.onDevice state.addresses
          clientIp).configureClientInterface settings.platform
            state.client.system = .ok () system) ∧
        ipAddrAdd state.addresses clientIp = [clientIp] ∧
        ∀ packet source, source ∈ ipAddrAdd state.addresses clientIp →
          HasIpv4Source packet source →
          validateSourceIp packet clientIp = true
  | .loop _ => True

/-- The connection is the first one of the run, and the interface comes up. -/
def FirstConnect (state : AddressedClient) : AddressedEvent → Prop
  | .connected _ input =>
      state.connects = 0 ∧ input.result .setMtu = .success
  | .loop _ => True

/-- The interface is set up exactly if the device does not have the address yet
and comes up. -/
theorem configure_onDevice (input : SetupInput) (addresses : List Ipv4Addr)
    (clientIp : Ipv4Addr) (system : System) :
    (∃ configured, (input.onDevice addresses
        clientIp).configureClientInterface .linux system =
          .ok () configured) ↔
      clientIp ∉ addresses ∧ input.result .setMtu = .success := by
  have hok : (input.onDevice addresses clientIp).interfaceOk .linux = true ↔
      clientIp ∉ addresses ∧ input.result .setMtu = .success := by
    by_cases hmem : clientIp ∈ addresses
    · simp [SetupInput.interfaceOk, SetupInput.succeeds, SetupInput.onDevice,
        hmem]
    · simp [SetupInput.interfaceOk, SetupInput.succeeds, SetupInput.onDevice,
        hmem]
  rw [← hok]
  rcases (input.onDevice addresses clientIp).configureClientInterface_cases
    .linux system with ⟨htrue, hrun⟩ | ⟨hfalse, error, hrun⟩
  · rw [hrun]
    exact ⟨fun _ => htrue, fun _ => ⟨system, rfl⟩⟩
  · rw [hrun, hfalse]
    simp

/-- On Linux a connection is hygienic exactly if it is the first one. -/
theorem hygienic_iff (hlinux : settings.platform = .linux) (h : state.Kept)
    (event : AddressedEvent) :
    state.Hygienic settings event ↔ state.FirstConnect event := by
  cases event with
  | loop taken => exact Iff.rfl
  | connected clientIp input =>
      have hfirst : state.connects = 0 ↔ state.addresses = [] := h
      rw [Hygienic, FirstConnect, hlinux, configure_onDevice, hfirst]
      constructor
      · intro ⟨⟨hnew, hmtu⟩, honly, _⟩
        rw [ipAddrAdd, if_neg hnew] at honly
        exact ⟨List.append_left_eq_self.mp honly, hmtu⟩
      · intro ⟨hempty, hmtu⟩
        rw [hempty]
        refine ⟨⟨List.not_mem_nil, hmtu⟩, rfl, ?_⟩
        intro packet source hsource hpacket
        rw [List.mem_singleton.mp hsource] at hpacket
        exact validateSourceIp_iff.mpr (Or.inr hpacket)

/-- In a run of the client on Linux every connection is hygienic exactly if
there is no reconnect. -/
theorem reconnect_address_hygiene (settings : ClientSettings)
    (hlinux : settings.platform = .linux) (schedule : List AddressedEvent) :
    Machine.Meets (step settings) (Hygienic settings) start schedule ↔
      Machine.Meets (step settings) FirstConnect start schedule := by
  apply Machine.meets_congr Kept
  · intro state event next hkept hstep
    exact hkept.step hstep
  · intro state event hkept
    exact hygienic_iff hlinux hkept event
  · exact ⟨fun _ => rfl, fun _ => rfl⟩

/-- One connection, until the client is shut down. -/
theorem first_address_hygiene :
    Machine.Meets (step Client.linuxSettings) (Hygienic Client.linuxSettings)
      start [.connected ⟨10, 0, 1, 2⟩ Client.allSucceed, .loop .shutdown] := by
  apply (reconnect_address_hygiene Client.linuxSettings rfl _).mpr
  exact ⟨⟨rfl, rfl⟩, trivial, trivial⟩

/-- A client that is assigned another address when it connects again has both
addresses on its device. -/
theorem reconnect_keeps_address :
    ¬ ∀ (settings : ClientSettings) (schedule : List AddressedEvent)
        (final : AddressedClient), settings.platform = .linux →
      Machine.run (step settings) start schedule = some final →
      Machine.Meets (step settings) (Hygienic settings) start schedule := by
  intro hall
  have hmeets := hall Client.linuxSettings
    [.connected ⟨10, 0, 1, 2⟩ Client.allSucceed, .loop .tunnelLost,
      .loop .backoffElapsed, .connected ⟨10, 0, 1, 3⟩ Client.allSucceed] _ rfl
      rfl
  obtain ⟨_, _, _, ⟨_, honly, _⟩, _⟩ := hmeets
  cases honly

end AddressedClient

end Redpill
