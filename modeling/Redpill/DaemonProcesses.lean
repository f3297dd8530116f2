/-
The background client (`daemon.rs`, `client.rs` main, `ipc.rs`): the PID file,
the status socket and the commands `up`, `down` and `status`, as processes that
run side by side on one machine.
-/
import Redpill.Firewall
import Redpill.KeyFiles
import Redpill.Machine

namespace Redpill

/-- `str::parse::<u32>`: decimal digits, after a plus sign if there is one. -/
def parseU32 (text : Text) : Option Nat :=
  let digits := if text.head? = some '+' then text.tail else text
  let value := Nat.ofDigitChars 10 digits 0
  if digits ≠ [] ∧ digits.all Char.isDigit ∧ value < 2 ^ 32 then
    some value
  else
    none

/-- `read_pid`, of the content of the file. -/
def readPid (file : Option Text) : Option Nat :=
  file.bind fun text => parseU32 (trim text)

/-- The number that `write_pid` has written is read back. -/
theorem readPid_decimal {pid : Nat} (hpid : pid < 2 ^ 32) :
    readPid (some (decimal pid)) = some pid := by
  have hdigit : ∀ c ∈ decimal pid, c.isDigit = true := fun c hc =>
    isDigit_of_mem_decimal hc
  have htrim : trim (decimal pid) = decimal pid :=
    trim_of_no_whitespace fun c hc => not_isWhitespace_of_isDigit (hdigit c hc)
  have hsign : (decimal pid).head? ≠ some '+' := by
    intro hhead
    exact absurd (hdigit '+' (List.mem_of_head? hhead)) (by decide)
  have hvalue : Nat.ofDigitChars 10 (decimal pid) 0 = pid :=
    Nat.ofDigitChars_ten_toDigits
  simp only [readPid, Option.bind_some, htrim, parseU32, if_neg hsign, hvalue]
  exact if_pos ⟨decimal_ne_nil pid, List.all_eq_true.mpr hdigit, hpid⟩

/-- Who asks whether a daemon is running. -/
inductive Purpose where
  | up
  | status
deriving DecidableEq

/-- What a process is about to do. -/
inductive Place where
  /-- Some other program. -/
  | other
  /-- `status`: ask over the socket. -/
  | query
  /-- `is_running`: read the file. -/
  | check (purpose : Purpose)
  /-- `is_running`: `kill(pid, 0)`. -/
  | probe (purpose : Purpose) (pid : Nat)
  /-- `is_running`: remove the file of a process that is gone. -/
  | clear (purpose : Purpose)
  /-- `daemonize`. -/
  | fork
  /-- `write_pid`: create the file, or empty it. -/
  | create
  /-- `write_pid`: write the number. -/
  | write
  /-- `run_client`, with the socket bound or not. -/
  | running (listening : Bool)
  | removePid
  | removeSocket
  /-- `stop_daemon`: read the file. -/
  | readPid
  /-- `stop_daemon`: `kill(pid, SIGTERM)`. -/
  | terminate (pid : Nat)
  /-- `stop_daemon`: wait for the process to end. -/
  | poll (pid left : Nat)
  /-- `stop_daemon`: remove the file of the process that is gone. -/
  | clearStopped
deriving DecidableEq

namespace Place

/-- The process is a daemon: from the writing of its number to its removal. -/
def holds : Place → Bool
  | .running _ => true
  | .removePid => true
  | _ => false

/-- The process is a command that acts on what it has read in the file. -/
def busy : Place → Bool
  | .probe _ _ => true
  | .clear _ => true
  | .fork => true
  | .create => true
  | .write => true
  | .terminate _ => true
  | .poll _ _ => true
  | .clearStopped => true
  | _ => false

/-- The process is about to read the file. -/
def reads : Place → Bool
  | .check _ => true
  | .readPid => true
  | _ => false

end Place

structure Process where
  /-- Who runs it; root is 0. -/
  user : Nat
  place : Place
deriving DecidableEq

/-- `kill` is permitted. -/
def Process.SignalledBy (process : Process) (user : Nat) : Prop :=
  user = 0 ∨ user = process.user

instance (process : Process) (user : Nat) :
    Decidable (process.SignalledBy user) :=
  inferInstanceAs (Decidable (user = 0 ∨ user = process.user))

/-- The machine: the two files of the client, and what runs. -/
structure DaemonHost where
  pidFile : Option Text
  /-- The process that the socket leads to. -/
  socket : Option Nat
  process : Nat → Option Process

/-- What is started from a shell. -/
inductive ShellCommand where
  | up
  | down
  | status
  | other
deriving DecidableEq

def ShellCommand.place : ShellCommand → Place
  | .up => .check .up
  | .down => .readPid
  | .status => .query
  | .other => .other

inductive HostEvent where
  | start (pid user : Nat) (command : ShellCommand)
  /-- A signal, a crash, or the end of some other program. -/
  | killed (pid : Nat)
  /-- The process goes on; `ok` tells how the call ends that may fail. -/
  | proceed (pid : Nat) (ok : Bool)
  /-- `daemonize` has forked; what goes on has another number. -/
  | forked (pid child : Nat)
deriving DecidableEq

namespace DaemonHost

def start : DaemonHost := ⟨none, none, fun _ => none⟩

/-- A number that the system can give to a new process. -/
def free (host : DaemonHost) (pid : Nat) : Bool :=
  decide (0 < pid) && decide (pid < 2 ^ 31) && (host.process pid).isNone

def put (host : DaemonHost) (pid : Nat) (process : Option Process) :
    DaemonHost :=
  { host with process := Function.update host.process pid process }

def exit (host : DaemonHost) (pid : Nat) : DaemonHost := host.put pid none

/-- `kill(pid, sig) == 0`.  The numbers in the file are those of processes:
the meanings that `kill` gives to zero and to negative numbers do not arise. -/
def signalled (host : DaemonHost) (user pid : Nat) : Bool :=
  match host.process pid with
  | some process => decide (process.SignalledBy user)
  | none => false

/-- `remove_pid`; a failure is ignored. -/
def removeFile (host : DaemonHost) (ok : Bool) : DaemonHost :=
  if ok then { host with pidFile := none } else host

/-- What follows when `is_running` has found no daemon. -/
def afterCheck (host : DaemonHost) (pid user : Nat) : Purpose → DaemonHost
  | .up => host.put pid (some ⟨user, .fork⟩)
  | .status => host.exit pid

/-- The socket leads to a daemon that listens, and that the user may reach. -/
def answers (host : DaemonHost) (user : Nat) : Bool :=
  match host.socket with
  | none => false
  | some daemon =>
      match host.process daemon with
      | none => false
      | some process =>
          decide (process.place = .running true) &&
            decide (process.SignalledBy user)

/-- The next step of a process. -/
def proceed (host : DaemonHost) (pid user : Nat) (place : Place) (ok : Bool) :
    Option DaemonHost :=
  match place with
  | .other => none
  | .query =>
      if ok then
        if host.answers user then some (host.exit pid) else none
      else
        some (host.put pid (some ⟨user, .check .status⟩))
  | .check purpose =>
      match readPid host.pidFile with
      | none => some (host.afterCheck pid user purpose)
      | some found => some (host.put pid (some ⟨user, .probe purpose found⟩))
  | .probe purpose found =>
      -- `up` refuses to start; `status` only reports the number.
      if host.signalled user found then some (host.exit pid)
      else some (host.put pid (some ⟨user, .clear purpose⟩))
  | .clear purpose => some ((host.removeFile ok).afterCheck pid user purpose)
  | .fork => some (host.exit pid)
  | .create =>
      if ok then
        some ({ host with pidFile := some [] }.put pid (some ⟨user, .write⟩))
      else
        some (host.exit pid)
  | .write =>
      if ok then
        some ({ host with pidFile := some (decimal pid) }.put pid
          (some ⟨user, .running false⟩))
      else
        some (host.exit pid)
  | .running listening =>
      if !listening && ok then
        some ({ host with socket := some pid }.put pid
          (some ⟨user, .running true⟩))
      else
        some (host.put pid (some ⟨user, .removePid⟩))
  | .removePid =>
      some ((host.removeFile ok).put pid (some ⟨user, .removeSocket⟩))
  | .removeSocket =>
      if ok then some ({ host with socket := none }.exit pid)
      else some (host.exit pid)
  | .readPid =>
      match readPid host.pidFile with
      | none => some (host.exit pid)
      | some found => some (host.put pid (some ⟨user, .terminate found⟩))
  | .terminate found =>
      if host.signalled user found then
        some (host.put pid (some ⟨user, .poll found 20⟩))
      else if (host.process found).isNone then
        some (host.put pid (some ⟨user, .clearStopped⟩))
      else
        -- EPERM
        some (host.exit pid)
  | .poll found left =>
      match left with
      | 0 => some (host.exit pid)
      | rest + 1 =>
          if host.signalled user found then
            some (host.put pid (some ⟨user, .poll found rest⟩))
          else
            some (host.put pid (some ⟨user, .clearStopped⟩))
  | .clearStopped => some ((host.removeFile ok).exit pid)

def step (host : DaemonHost) : HostEvent → Option DaemonHost
  | .start pid user command =>
      if host.free pid then some (host.put pid (some ⟨user, command.place⟩))
      else none
  | .killed pid =>
      if (host.process pid).isSome then some (host.exit pid) else none
  | .proceed pid ok =>
      match host.process pid with
      | none => none
      | some process => host.proceed pid process.user process.place ok
  | .forked pid child =>
      match host.process pid with
      | none => none
      | some process =>
          if process.place = .fork ∧ host.free child then
            some ((host.exit pid).put child (some ⟨process.user, .create⟩))
          else
            none

/-- This process is a daemon. -/
def Holder (host : DaemonHost) (pid : Nat) (process : Process) : Prop :=
  host.process pid = some process ∧ process.place.holds = true

/-- What a command that has read the file relies on. -/
def Relies (host : DaemonHost) (process : Process) : Prop :=
  match process.place with
  | .probe _ found => ∀ pid daemon, host.Holder pid daemon →
      pid = found ∧ daemon.SignalledBy process.user
  | .terminate found => ∀ pid daemon, host.Holder pid daemon →
      pid = found ∧ daemon.SignalledBy process.user
  | .poll found _ => ∀ pid daemon, host.Holder pid daemon →
      pid = found ∧ daemon.SignalledBy process.user
  | .clear _ => ∀ pid daemon, ¬ host.Holder pid daemon
  | .fork => ∀ pid daemon, ¬ host.Holder pid daemon
  | .create => ∀ pid daemon, ¬ host.Holder pid daemon
  | .write => ∀ pid daemon, ¬ host.Holder pid daemon
  | .clearStopped => ∀ pid daemon, ¬ host.Holder pid daemon
  | _ => True

/-- One command at a time acts on the file, and the file names the daemon. -/
structure Exclusive (host : DaemonHost) : Prop where
  range : ∀ {pid process}, host.process pid = some process →
    0 < pid ∧ pid < 2 ^ 31
  busy : ∀ {pid other process process'}, host.process pid = some process →
    host.process other = some process' → process.place.busy = true →
    process'.place.busy = true → pid = other
  relies : ∀ {pid process}, host.process pid = some process →
    host.Relies process
  named : ∀ {pid daemon}, host.Holder pid daemon →
    host.pidFile = some (decimal pid)

/-- A command reads the file only while no other one acts on what it has read,
and is run by somebody who may signal the daemon. -/
def Orderly (host : DaemonHost) : HostEvent → Prop
  | .proceed pid _ => ∀ process, host.process pid = some process →
      process.place.reads = true → ∀ other process',
        host.process other = some process' → process'.place.busy = false ∧
          (process'.place.holds = true → process'.SignalledBy process.user)
  | _ => True

@[simp] theorem put_pidFile (host : DaemonHost) (pid : Nat)
    (process : Option Process) : (host.put pid process).pidFile = host.pidFile :=
  rfl

@[simp] theorem put_socket (host : DaemonHost) (pid : Nat)
    (process : Option Process) : (host.put pid process).socket = host.socket :=
  rfl

theorem put_process (host : DaemonHost) (pid other : Nat)
    (process : Option Process) : (host.put pid process).process other =
      if other = pid then process else host.process other :=
  Function.update_apply host.process pid process other

theorem exit_process_eq_some {host : DaemonHost} {pid other : Nat}
    {process : Process} : (host.exit pid).process other = some process ↔
      other ≠ pid ∧ host.process other = some process := by
  rw [exit, put_process]
  by_cases heq : other = pid
  · simp [heq]
  · simp [heq]

theorem put_some_eq_some {host : DaemonHost} {pid other : Nat}
    {process process' : Process} :
    (host.put pid (some process)).process other = some process' ↔
      other = pid ∧ process = process' ∨
        other ≠ pid ∧ host.process other = some process' := by
  rw [put_process]
  by_cases heq : other = pid
  · simp [heq]
  · simp [heq]

/-- What a command relies on stays true as long as no other daemon appears. -/
theorem Relies.mono {host next : DaemonHost} {process : Process}
    (h : host.Relies process)
    (hfewer : ∀ pid daemon, next.Holder pid daemon →
      ∃ daemon', host.Holder pid daemon' ∧ daemon'.user = daemon.user) :
    next.Relies process := by
  have hknown : ∀ {found : Nat}, (∀ pid daemon, host.Holder pid daemon →
      pid = found ∧ daemon.SignalledBy process.user) →
      ∀ pid daemon, next.Holder pid daemon →
        pid = found ∧ daemon.SignalledBy process.user := by
    intro found hall pid daemon hholder
    obtain ⟨daemon', hold, huser⟩ := hfewer pid daemon hholder
    have hfound := hall pid daemon' hold
    rw [Process.SignalledBy, huser] at hfound
    exact hfound
  have hnone : (∀ pid daemon, ¬ host.Holder pid daemon) →
      ∀ pid daemon, ¬ next.Holder pid daemon := by
    intro hall pid daemon hholder
    obtain ⟨daemon', hold, _⟩ := hfewer pid daemon hholder
    exact hall pid daemon' hold
  simp only [Relies] at h ⊢
  split at h
  · exact hknown h
  · exact hknown h
  · exact hknown h
  · exact hnone h
  · exact hnone h
  · exact hnone h
  · exact hnone h
  · exact hnone h
  · trivial

/-- What is not busy relies on nothing. -/
theorem relies_of_not_busy {host : DaemonHost} {process : Process}
    (hidle : process.place.busy = false) : host.Relies process := by
  cases hplace : process.place <;> simp_all [Place.busy, Relies]

namespace Exclusive

theorem holder_unique {host : DaemonHost} (h : host.Exclusive)
    {pid other : Nat} {daemon daemon' : Process}
    (hpid : host.Holder pid daemon) (hother : host.Holder other daemon') :
    pid = other := by
  have hnames : some (decimal pid) = some (decimal other) :=
    (h.named hpid).symm.trans (h.named hother)
  exact decimal_inj (Option.some.inj hnames)

theorem exit {host : DaemonHost} (h : host.Exclusive) (pid : Nat) :
    (host.exit pid).Exclusive := by
  constructor
  · intro other process hprocess
    exact h.range (exit_process_eq_some.mp hprocess).2
  · intro first second process process' hfirst hsecond hbusy hbusy'
    exact h.busy (exit_process_eq_some.mp hfirst).2
      (exit_process_eq_some.mp hsecond).2 hbusy hbusy'
  · intro other process hprocess
    refine (h.relies (exit_process_eq_some.mp hprocess).2).mono ?_
    intro holder daemon hholder
    exact ⟨daemon, ⟨(exit_process_eq_some.mp hholder.1).2, hholder.2⟩, rfl⟩
  · intro other daemon hholder
    exact h.named ⟨(exit_process_eq_some.mp hholder.1).2, hholder.2⟩

/-- A process moves to another place, or a new one starts there. -/
theorem put {host : DaemonHost} (h : host.Exclusive) {pid : Nat}
    {process : Process} (hrange : 0 < pid ∧ pid < 2 ^ 31)
    (hbusy : process.place.busy = true → ∀ other process', other ≠ pid →
      host.process other = some process' → process'.place.busy = false)
    (hrelies : host.Relies process)
    (hholds : process.place.holds = true →
      ∃ daemon, host.Holder pid daemon ∧ daemon.user = process.user) :
    (host.put pid (some process)).Exclusive := by
  have hfewer : ∀ holder daemon,
      (host.put pid (some process)).Holder holder daemon →
      ∃ daemon', host.Holder holder daemon' ∧ daemon'.user = daemon.user := by
    intro holder daemon hholder
    rcases put_some_eq_some.mp hholder.1 with ⟨rfl, rfl⟩ | ⟨_, hold⟩
    · exact hholds hholder.2
    · exact ⟨daemon, ⟨hold, hholder.2⟩, rfl⟩
  constructor
  · intro other process' hprocess
    rcases put_some_eq_some.mp hprocess with ⟨rfl, _⟩ | ⟨_, hold⟩
    · exact hrange
    · exact h.range hold
  · intro first second process' process'' hfirst hsecond hone htwo
    rcases put_some_eq_some.mp hfirst with ⟨rfl, rfl⟩ | ⟨hne, hold⟩
    · rcases put_some_eq_some.mp hsecond with ⟨rfl, _⟩ | ⟨hne, hold⟩
      · rfl
      · rw [hbusy hone second process'' hne hold] at htwo
        cases htwo
    · rcases put_some_eq_some.mp hsecond with ⟨rfl, rfl⟩ | ⟨_, hold'⟩
      · rw [hbusy htwo first process' hne hold] at hone
        cases hone
      · exact h.busy hold hold' hone htwo
  · intro other process' hprocess
    rcases put_some_eq_some.mp hprocess with ⟨_, rfl⟩ | ⟨_, hold⟩
    · exact hrelies.mono hfewer
    · exact (h.relies hold).mono hfewer
  · intro holder daemon hholder
    obtain ⟨daemon', hold, _⟩ := hfewer holder daemon hholder
    exact h.named hold

/-- While there is no daemon the file can change. -/
theorem withFile {host : DaemonHost} (h : host.Exclusive)
    (hnone : ∀ pid daemon, ¬ host.Holder pid daemon) (file : Option Text) :
    { host with pidFile := file }.Exclusive := by
  constructor
  · intro pid process hprocess
    exact h.range hprocess
  · intro pid other process process' hprocess hother hone htwo
    exact h.busy hprocess hother hone htwo
  · intro pid process hprocess
    exact h.relies hprocess
  · intro pid daemon hholder
    exact absurd hholder (hnone pid daemon)

theorem removeFile {host : DaemonHost} (h : host.Exclusive)
    (hnone : ∀ pid daemon, ¬ host.Holder pid daemon) (ok : Bool) :
    (host.removeFile ok).Exclusive := by
  cases ok with
  | true => exact h.withFile hnone none
  | false => exact h

/-- A command that has read the file goes on. -/
theorem move {host : DaemonHost} (h : host.Exclusive) {pid user : Nat}
    {was place : Place} (hprocess : host.process pid = some ⟨user, was⟩)
    (hbusy : was.busy = true) (hrelies : host.Relies ⟨user, place⟩)
    (hholds : place.holds = false) :
    (host.put pid (some ⟨user, place⟩)).Exclusive := by
  refine h.put (h.range hprocess) ?_ hrelies ?_
  · intro _ other process' hne hother
    cases hidle : process'.place.busy with
    | false => rfl
    | true => exact absurd (h.busy hother hprocess hidle hbusy) hne
  · intro hnew
    rw [hholds] at hnew
    cases hnew

/-- `is_running` has found no daemon. -/
theorem afterCheck {host : DaemonHost} (h : host.Exclusive) {pid user : Nat}
    {was : Place} (hprocess : host.process pid = some ⟨user, was⟩)
    (hbusy : was.busy = true)
    (hnone : ∀ other daemon, ¬ host.Holder other daemon) (purpose : Purpose) :
    (host.afterCheck pid user purpose).Exclusive := by
  cases purpose with
  | up => exact h.move hprocess hbusy hnone rfl
  | status => exact h.exit pid

/-- The number is in the file, and the process is a daemon. -/
theorem written {host : DaemonHost} (h : host.Exclusive) {pid user : Nat}
    (hprocess : host.process pid = some ⟨user, .write⟩) :
    ({ host with pidFile := some (decimal pid) }.put pid
      (some ⟨user, .running false⟩)).Exclusive := by
  have hnone : ∀ other daemon, ¬ host.Holder other daemon := h.relies hprocess
  have hidle : ∀ other process', other ≠ pid →
      host.process other = some process' → process'.place.busy = false := by
    intro other process' hne hother
    cases hbusy : process'.place.busy with
    | false => rfl
    | true => exact absurd (h.busy hother hprocess hbusy rfl) hne
  constructor
  · intro other process' hother
    rcases put_some_eq_some.mp hother with ⟨rfl, _⟩ | ⟨_, hold⟩
    · exact h.range hprocess
    · exact h.range hold
  · intro first second process' process'' hfirst hsecond hone htwo
    rcases put_some_eq_some.mp hfirst with ⟨_, rfl⟩ | ⟨hne, hold⟩
    · cases hone
    · rw [hidle first process' hne hold] at hone
      cases hone
  · intro other process' hother
    apply relies_of_not_busy
    rcases put_some_eq_some.mp hother with ⟨_, rfl⟩ | ⟨hne, hold⟩
    · rfl
    · exact hidle other process' hne hold
  · intro other daemon hholder
    rcases put_some_eq_some.mp hholder.1 with ⟨rfl, _⟩ | ⟨_, hold⟩
    · rfl
    · exact absurd ⟨hold, hholder.2⟩ (hnone other daemon)

/-- The daemon removes its number. -/
theorem released {host : DaemonHost} (h : host.Exclusive) {pid user : Nat}
    (hprocess : host.process pid = some ⟨user, .removePid⟩) (ok : Bool) :
    ((host.removeFile ok).put pid (some ⟨user, .removeSocket⟩)).Exclusive := by
  have hmoved : (host.put pid (some ⟨user, .removeSocket⟩)).Exclusive := by
    refine h.put (h.range hprocess) ?_ trivial ?_
    · intro hbusy
      cases hbusy
    · intro hholds
      cases hholds
  have hnone : ∀ other daemon,
      ¬ (host.put pid (some ⟨user, .removeSocket⟩)).Holder other daemon := by
    intro other daemon hholder
    rcases put_some_eq_some.mp hholder.1 with ⟨_, rfl⟩ | ⟨hne, hold⟩
    · exact absurd hholder.2 Bool.false_ne_true
    · exact hne (h.holder_unique ⟨hold, hholder.2⟩ ⟨hprocess, rfl⟩)
  cases ok with
  | true => exact hmoved.withFile hnone none
  | false => exact hmoved

/-- A process that cannot be signalled, though its user may, is gone. -/
theorem no_holder_of_not_signalled {host : DaemonHost} {user found : Nat}
    (hrelies : ∀ pid daemon, host.Holder pid daemon →
      pid = found ∧ daemon.SignalledBy user)
    (hsignal : ¬ host.signalled user found = true) :
    ∀ pid daemon, ¬ host.Holder pid daemon := by
  intro pid daemon hholder
  obtain ⟨rfl, hmay⟩ := hrelies pid daemon hholder
  apply hsignal
  simp [signalled, hholder.1, hmay]

/-- The file names the only daemon there is. -/
theorem relies_of_read {host : DaemonHost} (h : host.Exclusive)
    {user found : Nat} (hread : readPid host.pidFile = some found)
    (hmay : ∀ other process', host.process other = some process' →
      process'.place.holds = true → process'.SignalledBy user) :
    ∀ pid daemon, host.Holder pid daemon →
      pid = found ∧ daemon.SignalledBy user := by
  intro pid daemon hholder
  have hrange := h.range hholder.1
  rw [h.named hholder, readPid_decimal (by omega)] at hread
  exact ⟨Option.some.inj hread, hmay pid daemon hholder.1 hholder.2⟩

/-- A file that names nobody means that there is no daemon. -/
theorem no_holder_of_read {host : DaemonHost} (h : host.Exclusive)
    (hread : readPid host.pidFile = none) :
    ∀ pid daemon, ¬ host.Holder pid daemon := by
  intro pid daemon hholder
  have hrange := h.range hholder.1
  rw [h.named hholder, readPid_decimal (by omega)] at hread
  cases hread

/-- A command reads the file and acts on it, as the only one. -/
theorem begins {host : DaemonHost} (h : host.Exclusive) {pid user : Nat}
    {was place : Place} (hprocess : host.process pid = some ⟨user, was⟩)
    (hturn : ∀ other process', host.process other = some process' →
      process'.place.busy = false ∧
        (process'.place.holds = true → process'.SignalledBy user))
    (hrelies : host.Relies ⟨user, place⟩) (hholds : place.holds = false) :
    (host.put pid (some ⟨user, place⟩)).Exclusive := by
  refine h.put (h.range hprocess) ?_ hrelies ?_
  · intro _ other process' _ hother
    exact (hturn other process' hother).1
  · intro hnew
    rw [hholds] at hnew
    cases hnew

/-- What `is_running` and `stop_daemon` share: the file is read, and the command
goes on with the number it found or with none. -/
theorem read {host next : DaemonHost} (h : host.Exclusive) {pid user : Nat}
    {was : Place} (absent : DaemonHost) (place : Nat → Place)
    (hprocess : host.process pid = some ⟨user, was⟩)
    (hturn : ∀ other process', host.process other = some process' →
      process'.place.busy = false ∧
        (process'.place.holds = true → process'.SignalledBy user))
    (hrelies : ∀ found, (∀ other daemon, host.Holder other daemon →
      other = found ∧ daemon.SignalledBy user) →
      host.Relies ⟨user, place found⟩)
    (hholds : ∀ found, (place found).holds = false)
    (habsent : (∀ other daemon, ¬ host.Holder other daemon) → absent.Exclusive)
    (hnone : Redpill.readPid host.pidFile = none → next = absent)
    (hsome : ∀ found, Redpill.readPid host.pidFile = some found →
      next = host.put pid (some ⟨user, place found⟩)) :
    next.Exclusive := by
  cases hread : Redpill.readPid host.pidFile with
  | none =>
      rw [hnone hread]
      exact habsent (h.no_holder_of_read hread)
  | some found =>
      have hnamed := h.relies_of_read hread fun other process' hother =>
        (hturn other process' hother).2
      rw [hsome found hread]
      exact h.begins hprocess hturn (hrelies found hnamed) (hholds found)

section Steps

variable {host next : DaemonHost} {pid user : Nat} {ok : Bool}

theorem query (h : host.Exclusive)
    (hprocess : host.process pid = some ⟨user, .query⟩)
    (hstep : host.proceed pid user .query ok = some next) :
    next.Exclusive := by
  cases ok with
  | true =>
      simp only [DaemonHost.proceed, if_true] at hstep
      split at hstep
      · obtain rfl := Option.some.inj hstep
        exact h.exit pid
      · cases hstep
  | false =>
      obtain rfl := Option.some.inj hstep
      refine h.put (h.range hprocess) ?_ trivial ?_
      · intro hbusy
        cases hbusy
      · intro hholds
        cases hholds

theorem check (h : host.Exclusive) {purpose : Purpose}
    (hprocess : host.process pid = some ⟨user, .check purpose⟩)
    (hturn : ∀ other process', host.process other = some process' →
      process'.place.busy = false ∧
        (process'.place.holds = true → process'.SignalledBy user))
    (hstep : host.proceed pid user (.check purpose) ok = some next) :
    next.Exclusive := by
  refine h.read (host.afterCheck pid user purpose) (.probe purpose) hprocess
    hturn (fun _ hnamed => hnamed) (fun _ => rfl) ?_ ?_ ?_
  · intro hnone
    cases purpose with
    | up => exact h.begins hprocess hturn hnone rfl
    | status => exact h.exit pid
  · intro hread
    simpa [DaemonHost.proceed, hread, eq_comm] using hstep
  · intro found hread
    simpa [DaemonHost.proceed, hread, eq_comm] using hstep

theorem probe (h : host.Exclusive) {purpose : Purpose} {found : Nat}
    (hprocess : host.process pid = some ⟨user, .probe purpose found⟩)
    (hstep : host.proceed pid user (.probe purpose found) ok = some next) :
    next.Exclusive := by
  have hrelies := h.relies hprocess
  simp only [DaemonHost.proceed] at hstep
  split at hstep
  · obtain rfl := Option.some.inj hstep
    exact h.exit pid
  · rename_i hsignal
    obtain rfl := Option.some.inj hstep
    exact h.move hprocess rfl (no_holder_of_not_signalled hrelies hsignal) rfl

theorem clear (h : host.Exclusive) {purpose : Purpose}
    (hprocess : host.process pid = some ⟨user, .clear purpose⟩) (ok : Bool) :
    ((host.removeFile ok).afterCheck pid user purpose).Exclusive := by
  have hrelies := h.relies hprocess
  have hprocess' : (host.removeFile ok).process pid =
      some ⟨user, .clear purpose⟩ := by
    cases ok <;> exact hprocess
  have hnone : ∀ other daemon,
      ¬ (host.removeFile ok).Holder other daemon := by
    cases ok <;> exact hrelies
  exact (h.removeFile hrelies ok).afterCheck hprocess' rfl hnone purpose

/-- The two calls of `write_pid`. -/
theorem create (h : host.Exclusive)
    (hprocess : host.process pid = some ⟨user, .create⟩)
    (hstep : host.proceed pid user .create ok = some next) :
    next.Exclusive := by
  have hrelies := h.relies hprocess
  cases ok with
  | true =>
      obtain rfl := Option.some.inj hstep
      exact (h.withFile hrelies (some [])).move hprocess rfl hrelies rfl
  | false =>
      obtain rfl := Option.some.inj hstep
      exact h.exit pid

theorem write (h : host.Exclusive)
    (hprocess : host.process pid = some ⟨user, .write⟩)
    (hstep : host.proceed pid user .write ok = some next) :
    next.Exclusive := by
  cases ok with
  | true =>
      obtain rfl := Option.some.inj hstep
      exact h.written hprocess
  | false =>
      obtain rfl := Option.some.inj hstep
      exact h.exit pid

/-- The daemon binds its socket, or `run_client` returns. -/
theorem running (h : host.Exclusive) {listening : Bool}
    (hprocess : host.process pid = some ⟨user, .running listening⟩)
    (hstep : host.proceed pid user (.running listening) ok = some next) :
    next.Exclusive := by
  have hkept : ∀ place' : Place, place'.busy = false →
      (host.put pid (some ⟨user, place'⟩)).Exclusive := by
    intro place' hidle
    refine h.put (h.range hprocess) ?_ (relies_of_not_busy hidle) ?_
    · intro hbusy
      rw [hidle] at hbusy
      cases hbusy
    · intro _
      exact ⟨_, ⟨hprocess, rfl⟩, rfl⟩
  simp only [DaemonHost.proceed] at hstep
  split at hstep
  · obtain rfl := Option.some.inj hstep
    have hbound := hkept (.running true) rfl
    exact ⟨hbound.range, hbound.busy, hbound.relies, hbound.named⟩
  · obtain rfl := Option.some.inj hstep
    exact hkept .removePid rfl

theorem removeSocket (h : host.Exclusive)
    (hstep : host.proceed pid user .removeSocket ok = some next) :
    next.Exclusive := by
  have hgone := h.exit pid
  simp only [DaemonHost.proceed] at hstep
  split at hstep
  · obtain rfl := Option.some.inj hstep
    exact ⟨hgone.range, hgone.busy, hgone.relies, hgone.named⟩
  · obtain rfl := Option.some.inj hstep
    exact hgone

theorem readPid (h : host.Exclusive)
    (hprocess : host.process pid = some ⟨user, .readPid⟩)
    (hturn : ∀ other process', host.process other = some process' →
      process'.place.busy = false ∧
        (process'.place.holds = true → process'.SignalledBy user))
    (hstep : host.proceed pid user .readPid ok = some next) :
    next.Exclusive := by
  refine h.read (host.exit pid) .terminate hprocess hturn
    (fun _ hnamed => hnamed) (fun _ => rfl) (fun _ => h.exit pid) ?_ ?_
  · intro hread
    simpa [DaemonHost.proceed, hread, eq_comm] using hstep
  · intro found hread
    simpa [DaemonHost.proceed, hread, eq_comm] using hstep

theorem terminate (h : host.Exclusive) {found : Nat}
    (hprocess : host.process pid = some ⟨user, .terminate found⟩)
    (hstep : host.proceed pid user (.terminate found) ok = some next) :
    next.Exclusive := by
  have hrelies := h.relies hprocess
  simp only [DaemonHost.proceed] at hstep
  split at hstep
  · obtain rfl := Option.some.inj hstep
    exact h.move hprocess rfl hrelies rfl
  · rename_i hsignal
    split at hstep
    · obtain rfl := Option.some.inj hstep
      exact h.move hprocess rfl (no_holder_of_not_signalled hrelies hsignal) rfl
    · obtain rfl := Option.some.inj hstep
      exact h.exit pid

theorem poll (h : host.Exclusive) {found left : Nat}
    (hprocess : host.process pid = some ⟨user, .poll found left⟩)
    (hstep : host.proceed pid user (.poll found left) ok = some next) :
    next.Exclusive := by
  have hrelies := h.relies hprocess
  cases left with
  | zero =>
      obtain rfl := Option.some.inj hstep
      exact h.exit pid
  | succ rest =>
      simp only [DaemonHost.proceed] at hstep
      split at hstep
      · obtain rfl := Option.some.inj hstep
        exact h.move hprocess rfl hrelies rfl
      · rename_i hsignal
        obtain rfl := Option.some.inj hstep
        exact h.move hprocess rfl
          (no_holder_of_not_signalled hrelies hsignal) rfl

theorem proceed {place : Place} (h : host.Exclusive)
    (hprocess : host.process pid = some ⟨user, place⟩)
    (horderly : place.reads = true → ∀ other process',
      host.process other = some process' → process'.place.busy = false ∧
        (process'.place.holds = true → process'.SignalledBy user))
    (hstep : host.proceed pid user place ok = some next) :
    next.Exclusive := by
  cases place with
  | other => cases hstep
  | query => exact h.query hprocess hstep
  | check purpose => exact h.check hprocess (horderly rfl) hstep
  | probe purpose found => exact h.probe hprocess hstep
  | clear purpose =>
      obtain rfl := Option.some.inj hstep
      exact h.clear hprocess ok
  | fork =>
      obtain rfl := Option.some.inj hstep
      exact h.exit pid
  | create => exact h.create hprocess hstep
  | write => exact h.write hprocess hstep
  | running listening => exact h.running hprocess hstep
  | removePid =>
      obtain rfl := Option.some.inj hstep
      exact h.released hprocess ok
  | removeSocket => exact h.removeSocket hstep
  | readPid => exact h.readPid hprocess (horderly rfl) hstep
  | terminate found => exact h.terminate hprocess hstep
  | poll found left => exact h.poll hprocess hstep
  | clearStopped =>
      obtain rfl := Option.some.inj hstep
      have hrelies := h.relies hprocess
      exact (h.removeFile hrelies ok).exit pid

end Steps

theorem start : DaemonHost.start.Exclusive := by
  constructor
  · intro pid process hprocess
    cases hprocess
  · intro pid other process process' hprocess
    cases hprocess
  · intro pid process hprocess
    cases hprocess
  · intro pid daemon hholder
    cases hholder.1

theorem step {host next : DaemonHost} (h : host.Exclusive) {event : HostEvent}
    (horderly : host.Orderly event) (hstep : host.step event = some next) :
    next.Exclusive := by
  have hfree : ∀ {pid : Nat}, host.free pid = true → 0 < pid ∧ pid < 2 ^ 31 := by
    intro pid hfree
    simp only [free, Bool.and_eq_true, decide_eq_true_eq] at hfree
    exact hfree.1
  cases event with
  | start pid user command =>
      simp only [DaemonHost.step, Option.ite_none_right_eq_some] at hstep
      obtain ⟨hpid, hnext⟩ := hstep
      obtain rfl := Option.some.inj hnext
      have hidle : command.place.busy = false := by
        cases command <;> rfl
      have hholds : command.place.holds = false := by
        cases command <;> rfl
      refine h.put (hfree hpid) ?_ (relies_of_not_busy hidle) ?_
      · intro hbusy
        rw [hidle] at hbusy
        cases hbusy
      · intro hnew
        rw [hholds] at hnew
        cases hnew
  | killed pid =>
      simp only [DaemonHost.step, Option.ite_none_right_eq_some] at hstep
      obtain ⟨_, hnext⟩ := hstep
      obtain rfl := Option.some.inj hnext
      exact h.exit pid
  | proceed pid ok =>
      cases hprocess : host.process pid with
      | none => simp [DaemonHost.step, hprocess] at hstep
      | some process =>
          simp only [DaemonHost.step, hprocess] at hstep
          exact h.proceed hprocess (horderly process hprocess) hstep
  | forked pid child =>
      cases hprocess : host.process pid with
      | none => simp [DaemonHost.step, hprocess] at hstep
      | some process =>
          simp only [DaemonHost.step, hprocess,
            Option.ite_none_right_eq_some] at hstep
          obtain ⟨⟨hplace, hchild⟩, hnext⟩ := hstep
          obtain rfl := Option.some.inj hnext
          have hrelies := h.relies hprocess
          rw [Relies, hplace] at hrelies
          have hbusy : process.place.busy = true := by rw [hplace]; rfl
          refine (h.exit pid).put (hfree hchild) ?_ ?_ ?_
          · intro _ other process' _ hother
            obtain ⟨hne, hold⟩ := exit_process_eq_some.mp hother
            cases hidle : process'.place.busy with
            | false => rfl
            | true => exact absurd (h.busy hold hprocess hidle hbusy) hne
          · intro other daemon hholder
            exact hrelies other daemon
              ⟨(exit_process_eq_some.mp hholder.1).2, hholder.2⟩
          · intro hholds
            cases hholds

end Exclusive

/-- This daemon answers on the socket that it has bound. -/
def Listens (host : DaemonHost) (pid : Nat) : Prop :=
  ∃ user, host.process pid = some ⟨user, .running true⟩

/-- A daemon binds the socket only when no earlier one is about to remove
it. -/
def QuietBind (host : DaemonHost) : HostEvent → Prop
  | .proceed pid _ => ∀ user, host.process pid = some ⟨user, .running false⟩ →
      ∀ other user', host.process other ≠ some ⟨user', .removeSocket⟩
  | _ => True

/-- The socket leads to the daemon that listens, and nobody is about to remove
it. -/
def Reached (host : DaemonHost) : Prop :=
  ∀ pid, host.Listens pid → host.socket = some pid ∧
    ∀ other user, host.process other ≠ some ⟨user, .removeSocket⟩

/-- What a step of a process does, the PID file apart. -/
inductive Advance (host next : DaemonHost) (pid user : Nat) (place : Place) :
    Prop
  | exits (hsocket : next.socket = host.socket)
      (hprocess : next.process = (host.exit pid).process) :
      Advance host next pid user place
  | moves (place' : Place) (hlistens : place' ≠ .running true)
      (hremoves : place' ≠ .removeSocket) (hsocket : next.socket = host.socket)
      (hprocess : next.process = (host.put pid (some ⟨user, place'⟩)).process) :
      Advance host next pid user place
  | binds (hplace : place = .running false) (hsocket : next.socket = some pid)
      (hprocess :
        next.process = (host.put pid (some ⟨user, .running true⟩)).process) :
      Advance host next pid user place
  | releases (hplace : place = .removePid) (hsocket : next.socket = host.socket)
      (hprocess :
        next.process = (host.put pid (some ⟨user, .removeSocket⟩)).process) :
      Advance host next pid user place
  | unlinks (hplace : place = .removeSocket)
      (hprocess : next.process = (host.exit pid).process) :
      Advance host next pid user place

theorem removeFile_socket (host : DaemonHost) (ok : Bool) :
    (host.removeFile ok).socket = host.socket := by
  cases ok <;> rfl

theorem removeFile_process (host : DaemonHost) (ok : Bool) :
    (host.removeFile ok).process = host.process := by
  cases ok <;> rfl

theorem advance_afterCheck {host host' : DaemonHost} {pid user : Nat}
    {place : Place} (purpose : Purpose) (hsocket : host'.socket = host.socket)
    (hprocess : host'.process = host.process) :
    Advance host (host'.afterCheck pid user purpose) pid user place := by
  cases purpose with
  | up =>
      refine .moves .fork (by simp) (by simp) hsocket ?_
      simp [afterCheck, put, hprocess]
  | status =>
      refine .exits hsocket ?_
      simp [afterCheck, exit, put, hprocess]

theorem advance_of_proceed {host next : DaemonHost} {pid user : Nat}
    {place : Place} {ok : Bool}
    (hstep : host.proceed pid user place ok = some next) :
    Advance host next pid user place := by
  cases place with
  | other => cases hstep
  | query =>
      simp only [proceed] at hstep
      split at hstep
      · rw [Option.ite_none_right_eq_some] at hstep
        obtain rfl := Option.some.inj hstep.2
        exact .exits rfl rfl
      · obtain rfl := Option.some.inj hstep
        exact .moves (.check .status) (by simp) (by simp) rfl rfl
  | check purpose =>
      simp only [proceed] at hstep
      split at hstep
      · obtain rfl := Option.some.inj hstep
        exact advance_afterCheck purpose rfl rfl
      · obtain rfl := Option.some.inj hstep
        exact .moves _ (by simp) (by simp) rfl rfl
  | probe purpose found =>
      simp only [proceed] at hstep
      split at hstep
      · obtain rfl := Option.some.inj hstep
        exact .exits rfl rfl
      · obtain rfl := Option.some.inj hstep
        exact .moves _ (by simp) (by simp) rfl rfl
  | clear purpose =>
      obtain rfl := Option.some.inj hstep
      exact advance_afterCheck purpose (host.removeFile_socket ok)
        (host.removeFile_process ok)
  | fork =>
      obtain rfl := Option.some.inj hstep
      exact .exits rfl rfl
  | create =>
      simp only [proceed] at hstep
      split at hstep
      · obtain rfl := Option.some.inj hstep
        exact .moves _ (by simp) (by simp) rfl rfl
      · obtain rfl := Option.some.inj hstep
        exact .exits rfl rfl
  | write =>
      simp only [proceed] at hstep
      split at hstep
      · obtain rfl := Option.some.inj hstep
        exact .moves _ (by simp) (by simp) rfl rfl
      · obtain rfl := Option.some.inj hstep
        exact .exits rfl rfl
  | running listening =>
      simp only [proceed] at hstep
      split at hstep
      · rename_i hbind
        obtain rfl := Option.some.inj hstep
        simp only [Bool.and_eq_true, Bool.not_eq_true'] at hbind
        exact .binds (by rw [hbind.1]) rfl rfl
      · obtain rfl := Option.some.inj hstep
        exact .moves _ (by simp) (by simp) rfl rfl
  | removePid =>
      obtain rfl := Option.some.inj hstep
      refine .releases rfl (host.removeFile_socket ok) ?_
      simp [put, host.removeFile_process ok]
  | removeSocket =>
      simp only [proceed] at hstep
      split at hstep
      · obtain rfl := Option.some.inj hstep
        exact .unlinks rfl rfl
      · obtain rfl := Option.some.inj hstep
        exact .unlinks rfl rfl
  | readPid =>
      simp only [proceed] at hstep
      split at hstep
      · obtain rfl := Option.some.inj hstep
        exact .exits rfl rfl
      · obtain rfl := Option.some.inj hstep
        exact .moves _ (by simp) (by simp) rfl rfl
  | terminate found =>
      simp only [proceed] at hstep
      split at hstep
      · obtain rfl := Option.some.inj hstep
        exact .moves _ (by simp) (by simp) rfl rfl
      · split at hstep
        · obtain rfl := Option.some.inj hstep
          exact .moves _ (by simp) (by simp) rfl rfl
        · obtain rfl := Option.some.inj hstep
          exact .exits rfl rfl
  | poll found left =>
      cases left with
      | zero =>
          obtain rfl := Option.some.inj hstep
          exact .exits rfl rfl
      | succ rest =>
          simp only [proceed] at hstep
          split at hstep
          · obtain rfl := Option.some.inj hstep
            exact .moves _ (by simp) (by simp) rfl rfl
          · obtain rfl := Option.some.inj hstep
            exact .moves _ (by simp) (by simp) rfl rfl
  | clearStopped =>
      obtain rfl := Option.some.inj hstep
      refine .exits (host.removeFile_socket ok) ?_
      simp [exit, put, host.removeFile_process ok]

namespace Reached

theorem exit {host next : DaemonHost} (h : host.Reached) {pid : Nat}
    (hsocket : next.socket = host.socket)
    (hprocess : next.process = (host.exit pid).process) : next.Reached := by
  intro daemon hlistens
  obtain ⟨user, hdaemon⟩ := hlistens
  rw [hprocess] at hdaemon
  obtain ⟨hleads, hnobody⟩ := h daemon ⟨user, (exit_process_eq_some.mp hdaemon).2⟩
  refine ⟨hsocket.trans hleads, ?_⟩
  intro other user' hother
  rw [hprocess] at hother
  exact hnobody other user' (exit_process_eq_some.mp hother).2

theorem put {host next : DaemonHost} (h : host.Reached) {pid user : Nat}
    {place : Place} (hlistens : place ≠ .running true)
    (hremoves : place ≠ .removeSocket) (hsocket : next.socket = host.socket)
    (hprocess : next.process = (host.put pid (some ⟨user, place⟩)).process) :
    next.Reached := by
  intro daemon hdaemon
  obtain ⟨user', hdaemon⟩ := hdaemon
  rw [hprocess] at hdaemon
  rcases put_some_eq_some.mp hdaemon with ⟨_, heq⟩ | ⟨_, hold⟩
  · exact absurd (congrArg Process.place heq) hlistens
  obtain ⟨hleads, hnobody⟩ := h daemon ⟨user', hold⟩
  refine ⟨hsocket.trans hleads, ?_⟩
  intro other user'' hother
  rw [hprocess] at hother
  rcases put_some_eq_some.mp hother with ⟨_, heq⟩ | ⟨_, hold'⟩
  · exact absurd (congrArg Process.place heq) hremoves
  · exact hnobody other user'' hold'

theorem advance {host next : DaemonHost} (h : host.Reached)
    (hexclusive : host.Exclusive) {pid user : Nat} {place : Place}
    (hprocess : host.process pid = some ⟨user, place⟩)
    (hquiet : place = .running false → ∀ other user',
      host.process other ≠ some ⟨user', .removeSocket⟩)
    (hadvance : Advance host next pid user place) : next.Reached := by
  cases hadvance with
  | exits hsocket hnext => exact h.exit hsocket hnext
  | moves place' hlistens hremoves hsocket hnext =>
      exact h.put hlistens hremoves hsocket hnext
  | binds hplace hsocket hnext =>
      intro daemon hdaemon
      obtain ⟨user', hdaemon⟩ := hdaemon
      rw [hnext] at hdaemon
      constructor
      · rcases put_some_eq_some.mp hdaemon with ⟨rfl, _⟩ | ⟨_, hold⟩
        · exact hsocket
        · -- the only daemon is the one that binds the socket
          rw [hplace] at hprocess
          rw [hexclusive.holder_unique ⟨hold, rfl⟩ ⟨hprocess, rfl⟩]
          exact hsocket
      · intro other user'' hother
        rw [hnext] at hother
        rcases put_some_eq_some.mp hother with ⟨_, heq⟩ | ⟨_, hold⟩
        · cases heq
        · exact hquiet hplace other user'' hold
  | releases hplace hsocket hnext =>
      intro daemon hdaemon
      obtain ⟨user', hdaemon⟩ := hdaemon
      rw [hnext] at hdaemon
      rcases put_some_eq_some.mp hdaemon with ⟨_, heq⟩ | ⟨hne, hold⟩
      · cases heq
      · rw [hplace] at hprocess
        exact absurd (hexclusive.holder_unique ⟨hold, rfl⟩ ⟨hprocess, rfl⟩) hne
  | unlinks hplace hnext =>
      intro daemon hdaemon
      obtain ⟨user', hdaemon⟩ := hdaemon
      rw [hnext] at hdaemon
      obtain ⟨_, hold⟩ := exit_process_eq_some.mp hdaemon
      rw [hplace] at hprocess
      exact absurd hprocess ((h daemon ⟨user', hold⟩).2 pid user)

theorem step {host next : DaemonHost} (h : host.Reached)
    (hexclusive : host.Exclusive) {event : HostEvent}
    (hquiet : host.QuietBind event) (hstep : host.step event = some next) :
    next.Reached := by
  cases event with
  | start pid user command =>
      simp only [DaemonHost.step, Option.ite_none_right_eq_some] at hstep
      obtain rfl := Option.some.inj hstep.2
      refine h.put ?_ ?_ rfl rfl <;> cases command <;> simp [ShellCommand.place]
  | killed pid =>
      simp only [DaemonHost.step, Option.ite_none_right_eq_some] at hstep
      obtain rfl := Option.some.inj hstep.2
      exact h.exit rfl rfl
  | proceed pid ok =>
      cases hprocess : host.process pid with
      | none => simp [DaemonHost.step, hprocess] at hstep
      | some process =>
          simp only [DaemonHost.step, hprocess] at hstep
          refine h.advance hexclusive hprocess ?_ (advance_of_proceed hstep)
          intro hplace
          apply hquiet process.user
          rw [hprocess, ← hplace]
  | forked pid child =>
      cases hprocess : host.process pid with
      | none => simp [DaemonHost.step, hprocess] at hstep
      | some process =>
          simp only [DaemonHost.step, hprocess,
            Option.ite_none_right_eq_some] at hstep
          obtain rfl := Option.some.inj hstep.2
          have hgone : (host.exit pid).Reached := h.exit rfl rfl
          exact hgone.put (by simp) (by simp) rfl rfl

end Reached

structure Served (host : DaemonHost) : Prop where
  exclusive : host.Exclusive
  reached : host.Reached

namespace Served

theorem start : DaemonHost.start.Served := by
  refine ⟨Exclusive.start, ?_⟩
  intro pid hlistens
  obtain ⟨user, hprocess⟩ := hlistens
  cases hprocess

theorem step {host next : DaemonHost} {event : HostEvent} (h : host.Served)
    (hevent : host.Orderly event ∧ host.QuietBind event)
    (hstep : host.step event = some next) : next.Served :=
  ⟨h.exclusive.step hevent.1 hstep, h.reached.step h.exclusive hevent.2 hstep⟩

end Served

end DaemonHost

/-- An `up` that starts a daemon, up to the binding of its socket. -/
def upOnce (shell child : Nat) : List HostEvent :=
  [.start shell 0 .up, .proceed shell true, .forked shell child,
    .proceed child true, .proceed child true, .proceed child true]

/-- Out of order, two daemons can run: the shell has its prompt back when `up`
forks, before the number is in the file. -/
example : (Machine.run DaemonHost.step DaemonHost.start
    [.start 10 0 .up, .proceed 10 true, .forked 10 11,
      .start 20 0 .up, .proceed 20 true, .forked 20 21,
      .proceed 11 true, .proceed 11 true, .proceed 21 true,
      .proceed 21 true]).map
        (fun host => (host.process 11, host.process 21)) =
    some (some ⟨0, .running false⟩, some ⟨0, .running false⟩) := by
  decide

/-- A `down` that is still waiting removes the file of the next daemon. -/
example : (Machine.run DaemonHost.step DaemonHost.start
    (upOnce 10 11 ++ [.start 30 0 .down, .proceed 30 true, .proceed 30 true,
      .proceed 11 true, .proceed 11 true, .proceed 11 true] ++ upOnce 20 21 ++
      [.proceed 30 true, .proceed 30 true])).map
        (fun host => (host.process 21, host.pidFile)) =
    some (some ⟨0, .running true⟩, none) := by
  decide

end Redpill
