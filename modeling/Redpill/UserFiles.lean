/-
The user store and its directory (`users.rs`): `add_user`, `remove_user` and
`reload` change the map in memory and the key files on disk, in some order
and with file operations that may fail in between.
-/
import Redpill.KeyFiles
import Redpill.Machine

namespace Redpill

open ByteStream

/-- The files of the directory, by name. -/
structure KeyDir where
  files : List KeyFile
  distinct : (files.map KeyFile.name).Nodup
deriving Repr, DecidableEq

namespace KeyDir

def Has (dir : KeyDir) (name : FileName) : Prop :=
  name ∈ dir.files.map KeyFile.name

instance (dir : KeyDir) (name : FileName) : Decidable (dir.Has name) :=
  inferInstanceAs (Decidable (_ ∈ _))

/-- `fs::write`: the content of a file that is there is replaced. -/
def write (dir : KeyDir) (name : FileName) (content : Text) : KeyDir :=
  if hold : dir.Has name then
    ⟨dir.files.map fun file =>
        if file.name = name then { file with content := content } else file, by
      have hnames : (dir.files.map fun file =>
          if file.name = name then { file with content := content }
          else file).map KeyFile.name = dir.files.map KeyFile.name := by
        rw [List.map_map]
        apply List.map_congr_left
        intro file _
        simp only [Function.comp]
        split <;> rfl
      rw [hnames]
      exact dir.distinct⟩
  else
    ⟨dir.files ++ [⟨name, true, content⟩], by
      rw [List.map_append, List.nodup_append']
      refine ⟨dir.distinct, List.nodup_singleton _, ?_⟩
      simpa [Has] using hold⟩

/-- `fs::remove_file`. -/
def removeFile (dir : KeyDir) (name : FileName) : KeyDir :=
  ⟨dir.files.filter fun file => file.name ≠ name,
    dir.distinct.sublist (List.filter_sublist.map KeyFile.name)⟩

end KeyDir

/-- The directory as reading it in some order gives it. -/
def usersDir (order : List KeyFile) : UsersDir :=
  ⟨true, true, order.map KeyFile.entry, by simp⟩

/-- What the path of a key file denotes: an entry of the directory, a place
elsewhere, with or without a file, or nothing that could be a file. -/
inductive PathTarget where
  | entry (name : FileName)
  | elsewhere (present : Bool)
  | invalid
deriving Repr, DecidableEq

/-- `dir.join(format!("{name}.key"))`.  A name with a slash leads where the
file system says, which may be back to an entry of the directory. -/
def keyPath (name : String) (resolved : PathTarget) : PathTarget :=
  if hplain : Plain name then .entry (.ofUser name hplain)
  else if '\x00' ∈ name.toList then .invalid
  else resolved

inductive UserError where
  | alreadyExists (name : String)
  | notFound (name : String)
  | io
  | load (error : LoadError)
deriving Repr, DecidableEq

/-- The store in memory and its directory. -/
structure UserFiles where
  store : UserStore
  dir : KeyDir
deriving Repr, DecidableEq

namespace UserStore

/-- `HashMap::insert`: a key that is there already gets the new user. -/
def put (store : UserStore) (psk : Bytes32) (username : String) : UserStore :=
  ⟨store.users.filter (fun user => user.1 ≠ psk) ++ [(psk, username)], by
    rw [List.map_append, List.nodup_append']
    refine ⟨store.distinct.sublist (List.filter_sublist.map Prod.fst),
      List.nodup_singleton _, ?_⟩
    intro key hkey hpsk
    obtain ⟨user, huser, rfl⟩ := List.mem_map.mp hkey
    have hne := (List.mem_filter.mp huser).2
    rw [List.map_singleton, List.mem_singleton] at hpsk
    simp [hpsk] at hne⟩

/-- `HashMap::remove`. -/
def remove (store : UserStore) (psk : Bytes32) : UserStore :=
  ⟨store.users.filter fun user => user.1 ≠ psk,
    store.distinct.sublist (List.filter_sublist.map Prod.fst)⟩

/-- The user names, in the order of the map. -/
def usernames (store : UserStore) : List String := store.users.map Prod.snd

end UserStore

namespace UserFiles

/-- `path.exists()` for the path of a user's key file. -/
def keyFileExists (state : UserFiles) (name : String)
    (resolved : PathTarget) : Bool :=
  match keyPath name resolved with
  | .entry file => decide (state.dir.Has file)
  | .elsewhere present => present
  | .invalid => false

/-- `add_user` with the random key and whether the file is written. -/
def addUser (state : UserFiles) (name : String) (psk : Bytes32)
    (resolved : PathTarget) (written : Bool) :
    Except UserError Text × UserFiles :=
  if name ∈ state.store.usernames then (.error (.alreadyExists name), state)
  else
    match written, keyPath name resolved with
    | true, .entry file =>
        (.ok (hexText psk),
          ⟨state.store.put psk name, state.dir.write file (hexText psk)⟩)
    | true, .elsewhere _ =>
        (.ok (hexText psk), { state with store := state.store.put psk name })
    | true, .invalid => (.error .io, state)
    | false, _ => (.error .io, state)

/-- `remove_user` with whether a file that is there is removed.  The user
leaves the map before the file is touched. -/
def removeUser (state : UserFiles) (name : String) (resolved : PathTarget)
    (removed : Bool) : Except UserError Unit × UserFiles :=
  match state.store.users.find? fun user => user.2 = name with
  | none => (.error (.notFound name), state)
  | some (psk, _) =>
      let forgotten := { state with store := state.store.remove psk }
      if state.keyFileExists name resolved then
        if removed then
          match keyPath name resolved with
          | .entry file =>
              (.ok (), { forgotten with dir := state.dir.removeFile file })
          | _ => (.ok (), forgotten)
        else (.error .io, forgotten)
      else (.ok (), forgotten)

/-- `reload`, given what reading the directory gives. -/
def reload (state : UserFiles) (seen : UsersDir) :
    Except UserError Unit × UserFiles :=
  match UserStore.load seen with
  | .error error => (.error (.load error), state)
  | .ok new => (.ok (), { state with store := new })

end UserFiles

/-- A call on the store, with what its file operations do. -/
inductive UserCall where
  | addUser (name : String) (psk : Bytes32) (resolved : PathTarget)
      (written : Bool)
  | removeUser (name : String) (resolved : PathTarget) (removed : Bool)
  | reload (seen : UsersDir)

namespace UserFiles

/-- Whether the call succeeds, and the state after it. -/
def call (state : UserFiles) : UserCall → Except UserError Unit × UserFiles
  | .addUser name psk resolved written =>
      let added := state.addUser name psk resolved written
      (added.1.map fun _ => (), added.2)
  | .removeUser name resolved removed =>
      state.removeUser name resolved removed
  | .reload seen => state.reload seen

/-- The call removes a user whose key file is there and cannot be removed. -/
def CannotDelete (state : UserFiles) : UserCall → Prop
  | .removeUser name resolved removed =>
      name ∈ state.store.usernames ∧ removed = false ∧
        state.keyFileExists name resolved = true
  | _ => False

theorem addUser_atomic {state : UserFiles} {name : String} {psk : Bytes32}
    {resolved : PathTarget} {written : Bool} {error : UserError}
    (herror : (state.addUser name psk resolved written).1 = .error error) :
    (state.addUser name psk resolved written).2 = state := by
  unfold addUser at herror ⊢
  by_cases hold : name ∈ state.store.usernames
  · rw [if_pos hold]
  · rw [if_neg hold] at herror ⊢
    cases written with
    | false => rfl
    | true =>
        cases hpath : keyPath name resolved with
        | entry file => simp [hpath] at herror
        | elsewhere present => simp [hpath] at herror
        | invalid => rfl

theorem reload_atomic {state : UserFiles} {seen : UsersDir}
    {error : UserError} (herror : (state.reload seen).1 = .error error) :
    (state.reload seen).2 = state := by
  unfold reload at herror ⊢
  cases hload : UserStore.load seen with
  | error reason => rfl
  | ok new =>
      rw [hload] at herror
      cases herror

theorem find_username {store : UserStore} {name : String}
    (hmem : name ∈ store.usernames) :
    ∃ psk, store.users.find? (fun user => user.2 = name) =
      some (psk, name) ∧ (psk, name) ∈ store.users := by
  obtain ⟨user, huser, rfl⟩ := List.mem_map.mp hmem
  cases hfind : store.users.find? fun other => decide (other.2 = user.2) with
  | none =>
      rw [List.find?_eq_none] at hfind
      exact absurd (hfind user huser) (by simp)
  | some found =>
      have hname : found.2 = user.2 := by
        simpa using List.find?_some hfind
      refine ⟨found.1, ?_, ?_⟩
      · rw [← hname]
      · rw [← hname]
        exact List.mem_of_find?_eq_some hfind

theorem find_username_none {store : UserStore} {name : String}
    (hmem : name ∉ store.usernames) :
    store.users.find? (fun user => user.2 = name) = none := by
  rw [List.find?_eq_none]
  intro user huser
  simp only [decide_eq_true_eq]
  rintro rfl
  exact hmem (List.mem_map_of_mem huser)

theorem remove_ne {store : UserStore} {psk : Bytes32} {name : String}
    (hmem : (psk, name) ∈ store.users) : store.remove psk ≠ store := by
  intro hsame
  rw [← hsame] at hmem
  simp [UserStore.remove] at hmem

/-- The one failure that is not undone: the user is forgotten and the key file
stays. -/
theorem removeUser_of_cannotDelete {state : UserFiles} {name : String}
    {resolved : PathTarget} (hmem : name ∈ state.store.usernames)
    (hexists : state.keyFileExists name resolved = true) :
    (state.removeUser name resolved false).1 = .error .io ∧
      (state.removeUser name resolved false).2 ≠ state := by
  obtain ⟨psk, hfind, huser⟩ := find_username hmem
  simp only [removeUser, hfind, hexists, if_true, Bool.false_eq_true, if_false,
    true_and]
  intro hsame
  exact remove_ne huser (congrArg UserFiles.store hsame)

theorem removeUser_atomic {state : UserFiles} {name : String}
    {resolved : PathTarget} {removed : Bool} {error : UserError}
    (hdelete : ¬ state.CannotDelete (.removeUser name resolved removed))
    (herror : (state.removeUser name resolved removed).1 = .error error) :
    (state.removeUser name resolved removed).2 = state := by
  by_cases hmem : name ∈ state.store.usernames
  · obtain ⟨psk, hfind, _⟩ := find_username hmem
    by_cases hexists : state.keyFileExists name resolved
    · cases removed with
      | false => exact absurd ⟨hmem, rfl, hexists⟩ hdelete
      | true =>
          simp only [removeUser, hfind, hexists, if_true] at herror
          cases hpath : keyPath name resolved with
          | entry file => simp [hpath] at herror
          | elsewhere present => simp [hpath] at herror
          | invalid => simp [hpath] at herror
    · simp [removeUser, hfind, hexists] at herror
  · simp [removeUser, find_username_none hmem]

/-- A call that fails leaves the map and the directory as they were exactly
when it is not the removal of a user whose key file cannot be removed. -/
theorem call_atomic_iff (state : UserFiles) (call : UserCall) :
    ((∃ error, (state.call call).1 = .error error) →
      (state.call call).2 = state) ↔ ¬ state.CannotDelete call := by
  cases call with
  | addUser name psk resolved written =>
      refine ⟨fun _ hfalse => hfalse, fun _ herror => ?_⟩
      obtain ⟨error, herror⟩ := herror
      simp only [UserFiles.call] at herror ⊢
      cases hadd : (state.addUser name psk resolved written).1 with
      | ok hex =>
          rw [hadd] at herror
          cases herror
      | error reason => exact addUser_atomic hadd
  | removeUser name resolved removed =>
      constructor
      · rintro hatomic ⟨hmem, rfl, hexists⟩
        obtain ⟨herror, hchanged⟩ :=
          removeUser_of_cannotDelete hmem hexists
        exact hchanged (hatomic ⟨_, herror⟩)
      · rintro hdelete ⟨error, herror⟩
        exact removeUser_atomic hdelete herror
  | reload seen =>
      refine ⟨fun _ hfalse => hfalse, fun _ herror => ?_⟩
      obtain ⟨error, herror⟩ := herror
      exact reload_atomic herror

/-- A store with one user and its key file. -/
def oneUser : UserFiles where
  store := ⟨[(.replicate 7, "alice")], by simp⟩
  dir := ⟨[⟨.ofUser "alice" (by decide), true, []⟩], by simp⟩

/-- The key file cannot be removed: the user is gone from memory and comes
back with the next reload. -/
theorem removeUser_not_atomic :
    ¬ ∀ (state : UserFiles) (call : UserCall),
      (∃ error, (state.call call).1 = .error error) →
        (state.call call).2 = state := by
  intro hall
  have hmem : "alice" ∈ oneUser.store.usernames := by decide
  have hexists : oneUser.keyFileExists "alice" .invalid = true := by decide
  obtain ⟨herror, hchanged⟩ := removeUser_of_cannotDelete hmem hexists
  exact hchanged (hall oneUser (.removeUser "alice" .invalid false)
    ⟨_, herror⟩)

end UserFiles

end Redpill
