/-
The user store against its directory: over any sequence of users added and
removed, the map in memory is the one that loading the directory again gives,
in whatever order the directory is read.
-/
import Redpill.UserFiles

namespace Redpill

/-- The store with its directory, and whether a key file was overwritten. -/
structure UserHistory where
  state : UserFiles
  overwrote : Bool
deriving Repr, DecidableEq

/-- A successful call: the user added with a key that is new, or removed. -/
inductive UserEdit where
  | add (name : String) (psk : Bytes32) (resolved : PathTarget)
  | remove (name : String) (resolved : PathTarget)

/-- A name that comes back from its file: nonempty and without a slash. -/
def UserEdit.Good : UserEdit → Prop
  | .add name _ _ => name ≠ "" ∧ '/' ∉ name.toList
  | .remove _ _ => True

instance (edit : UserEdit) : Decidable edit.Good :=
  match edit with
  | .add _ _ _ => inferInstanceAs (Decidable (_ ∧ _))
  | .remove _ _ => inferInstanceAs (Decidable True)

namespace UserHistory

def start (store : UserStore) (dir : KeyDir) : UserHistory :=
  ⟨⟨store, dir⟩, false⟩

/-- The key is in no key file and stands for no user. -/
def FreshKey (history : UserHistory) (psk : Bytes32) : Prop :=
  psk ∉ history.state.store.users.map Prod.fst ∧
    psk ∉ (fileUsers history.state.dir.files).map Prod.fst

instance (history : UserHistory) (psk : Bytes32) :
    Decidable (history.FreshKey psk) :=
  inferInstanceAs (Decidable (_ ∧ _))

/-- The path of the user's key file is an entry that is there. -/
def overwrites (history : UserHistory) (name : String)
    (resolved : PathTarget) : Bool :=
  match keyPath name resolved with
  | .entry file => decide (history.state.dir.Has file)
  | _ => false

/-- A call whose file operations succeed, if it returns without an error. -/
def step (history : UserHistory) : UserEdit → Option UserHistory
  | .add name psk resolved =>
      if history.FreshKey psk then
        match history.state.addUser name psk resolved true with
        | (.ok _, next) =>
            some ⟨next, history.overwrote || history.overwrites name resolved⟩
        | (.error _, _) => none
      else none
  | .remove name resolved =>
      match history.state.removeUser name resolved true with
      | (.ok (), next) => some { history with state := next }
      | (.error _, _) => none

/-- No key file was overwritten, and loading the directory gives the map in
memory, whatever the order of its files. -/
def Agrees (history : UserHistory) : Prop :=
  history.overwrote = false ∧
    ∀ order : List KeyFile, order.Perm history.state.dir.files →
      ∃ loaded, UserStore.load (usersDir order) = .ok loaded ∧
        ∀ user, user ∈ loaded.users ↔ user ∈ history.state.store.users

/-- No two key files hold the same key. -/
def DistinctKeys (files : List KeyFile) : Prop :=
  ((fileUsers files).map Prod.fst).Nodup

/-- The map and the key files hold the same users, each key once. -/
structure Mirrors (history : UserHistory) : Prop where
  kept : history.overwrote = false
  sound : ∀ file ∈ history.state.dir.files, file.entry.Sound
  keys : DistinctKeys history.state.dir.files
  users : ∀ user, user ∈ fileUsers history.state.dir.files ↔
    user ∈ history.state.store.users

theorem load_usersDir {files : List KeyFile}
    (hsound : ∀ file ∈ files, file.entry.Sound) :
    UserStore.load (usersDir files) =
      .ok (UserStore.empty.insertAll (fileUsers files)) := by
  simp only [UserStore.load, usersDir, Bool.true_eq_false, if_false]
  exact UserStore.loadEntries_eq UserStore.empty hsound

theorem sound_of_load {files : List KeyFile} {store : UserStore}
    (hload : UserStore.load (usersDir files) = .ok store) :
    ∀ file ∈ files, file.entry.Sound := by
  have hsound := UserStore.load_isOk_iff.mp ⟨store, hload⟩
  intro file hfile
  exact hsound.2.2 file.entry (List.mem_map_of_mem hfile)

/-- Key files with keys of their own are all loaded. -/
theorem users_load_of_distinct {files : List KeyFile}
    (hdistinct : DistinctKeys files) :
    (UserStore.empty.insertAll (fileUsers files)).users = fileUsers files :=
  UserStore.users_insertAll_of_distinct hdistinct

/-- The file that is read first keeps its user. -/
theorem mem_load_head {file : KeyFile} {user : Bytes32 × String}
    (huser : file.user = some user) (rest : List KeyFile) :
    user ∈ (UserStore.empty.insertAll (fileUsers (file :: rest))).users := by
  have hcons : fileUsers (file :: rest) = user :: fileUsers rest := by
    rw [fileUsers, List.filterMap_cons, huser]
    rfl
  rw [hcons]
  have hfirst : user ∈ (UserStore.empty.insert user.1 user.2).users := by
    rw [UserStore.users_insert_of_new user.2 (by simp [UserStore.empty])]
    exact List.mem_append_right _ List.mem_cons_self
  exact UserStore.mem_insertAll_of_mem hfirst (fileUsers rest)

/-- Different key files are of different users. -/
theorem usernames_distinct (dir : KeyDir) :
    (fileUsers dir.files).Pairwise fun first second =>
      first.2 ≠ second.2 := by
  have hnames : dir.files.Pairwise fun first second =>
      first.name ≠ second.name := List.pairwise_map.mp dir.distinct
  apply List.Pairwise.filterMap KeyFile.user _ hnames
  intro first second hne user huser other hother heq
  obtain ⟨_, plain, hfirst⟩ := KeyFile.user_eq_some huser
  obtain ⟨_, plain', hsecond⟩ := KeyFile.user_eq_some hother
  apply hne
  rw [hfirst, hsecond]
  simp only [heq]

/-- Agreement in every order of reading says that no key is in two files. -/
theorem mirrors_of_agrees {history : UserHistory} (hagrees : history.Agrees) :
    history.Mirrors := by
  obtain ⟨hkept, hload⟩ := hagrees
  have hsound : ∀ file ∈ history.state.dir.files, file.entry.Sound := by
    obtain ⟨loaded, hloaded, _⟩ := hload _ (List.Perm.refl _)
    exact sound_of_load hloaded
  have hmem : ∀ user ∈ fileUsers history.state.dir.files,
      user ∈ history.state.store.users := by
    intro user huser
    obtain ⟨file, hfile, huser⟩ := List.mem_filterMap.mp huser
    have hperm := (List.perm_cons_erase hfile).symm
    obtain ⟨loaded, hloaded, hsame⟩ := hload _ hperm
    have hsound' : ∀ other ∈ file :: history.state.dir.files.erase file,
        other.entry.Sound := by
      intro other hother
      exact hsound other (hperm.mem_iff.mp hother)
    rw [load_usersDir hsound', Except.ok.injEq] at hloaded
    apply (hsame user).mp
    rw [← hloaded]
    exact mem_load_head huser _
  refine ⟨hkept, hsound, ?_, ?_⟩
  · have hpairs : (fileUsers history.state.dir.files).Nodup := by
      apply List.Pairwise.imp _ (usernames_distinct history.state.dir)
      rintro first second hne rfl
      exact hne rfl
    apply List.Nodup.map_on _ hpairs
    intro first hfirst second hsecond heq
    exact List.inj_on_of_nodup_map history.state.store.distinct
      (hmem first hfirst) (hmem second hsecond) heq
  · intro user
    refine ⟨hmem user, ?_⟩
    intro huser
    obtain ⟨loaded, hloaded, hsame⟩ := hload _ (List.Perm.refl _)
    rw [load_usersDir hsound, Except.ok.injEq] at hloaded
    have hloadedUser := (hsame user).mpr huser
    rw [← hloaded] at hloadedUser
    rcases UserStore.mem_insertAll hloadedUser with hempty | hfile
    · cases hempty
    · exact hfile

theorem agrees_of_mirrors {history : UserHistory}
    (hmirrors : history.Mirrors) : history.Agrees := by
  refine ⟨hmirrors.kept, ?_⟩
  intro order hperm
  have husers : (fileUsers order).Perm
      (fileUsers history.state.dir.files) := hperm.filterMap KeyFile.user
  have hdistinct : DistinctKeys order :=
    (husers.map Prod.fst).nodup_iff.mpr hmirrors.keys
  refine ⟨_, load_usersDir ?_, ?_⟩
  · intro file hfile
    exact hmirrors.sound file (hperm.mem_iff.mp hfile)
  · intro user
    rw [users_load_of_distinct hdistinct, husers.mem_iff]
    exact hmirrors.users user

theorem agrees_iff_mirrors {history : UserHistory} :
    history.Agrees ↔ history.Mirrors :=
  ⟨mirrors_of_agrees, agrees_of_mirrors⟩

theorem mem_put {store : UserStore} {psk : Bytes32} {name : String}
    (hfresh : psk ∉ store.users.map Prod.fst) {user : Bytes32 × String} :
    user ∈ (store.put psk name).users ↔
      user ∈ store.users ∨ user = (psk, name) := by
  have hkeep : store.users.filter (fun other => other.1 ≠ psk) =
      store.users := by
    rw [List.filter_eq_self]
    intro other hother
    have hne : other.1 ≠ psk := by
      rintro rfl
      exact hfresh (List.mem_map_of_mem hother)
    simpa using hne
  simp only [UserStore.put, hkeep, List.mem_append, List.mem_singleton]

/-- A key file whose user is not in the map is not there. -/
theorem not_has_of_new {history : UserHistory} (hmirrors : history.Mirrors)
    {name : String} (hne : name ≠ "") (plain : Plain name)
    (hnew : name ∉ history.state.store.usernames) :
    ¬ history.state.dir.Has (.ofUser name plain) := by
  intro hhas
  obtain ⟨file, hfile, hname⟩ := List.mem_map.mp hhas
  obtain ⟨hext, hstem⟩ :=
    FileName.isUser_iff.mpr ⟨hne, plain, hname⟩
  obtain ⟨_, _, hkey⟩ := (hmirrors.sound file hfile).2 hext
  obtain ⟨psk, hpsk⟩ := Option.isSome_iff_exists.mp hkey
  have huser : file.user = some (psk, name) := by
    rw [KeyFile.user, hpsk, hstem]
    rfl
  have hmem : (psk, name) ∈ history.state.store.users :=
    (hmirrors.users _).mp (List.mem_filterMap.mpr ⟨file, hfile, huser⟩)
  exact hnew (List.mem_map_of_mem hmem)

theorem sound_of_added {name : String} (hne : name ≠ "") (plain : Plain name)
    (psk : Bytes32) :
    (KeyFile.mk (.ofUser name plain) true (hexText psk)).entry.Sound := by
  obtain ⟨hext, hstem⟩ := FileName.isUser_iff.mpr
    ⟨hne, plain, (rfl : FileName.ofUser name plain = _)⟩
  refine ⟨rfl, ?_⟩
  intro _
  simp [KeyFile.entry, DirEntry.key, hext, hstem, parseHex_hexText,
    Except.toOption]

/-- A successful `add_user`: the key and the user are new, and the key is
written to the entry that the path denotes, or elsewhere. -/
theorem step_add {history next : UserHistory} {name : String} {psk : Bytes32}
    {resolved : PathTarget}
    (hstep : history.step (.add name psk resolved) = some next) :
    history.FreshKey psk ∧ name ∉ history.state.store.usernames ∧
      next.state.store = history.state.store.put psk name ∧
      ('\x00' ∉ name.toList) ∧
      ∀ file, keyPath name resolved = .entry file →
        next.state.dir = history.state.dir.write file (hexText psk) ∧
        next.overwrote =
          (history.overwrote || decide (history.state.dir.Has file)) := by
  simp only [step, Option.ite_none_right_eq_some] at hstep
  obtain ⟨hfresh, hstep⟩ := hstep
  refine ⟨hfresh, ?_⟩
  by_cases hold : name ∈ history.state.store.usernames
  · simp [UserFiles.addUser, hold] at hstep
  · refine ⟨hold, ?_⟩
    have hnul : keyPath name resolved ≠ .invalid → '\x00' ∉ name.toList := by
      intro hpath hnul
      apply hpath
      rw [keyPath, dif_neg (fun hplain => hplain.2 hnul), if_pos hnul]
    cases hpath : keyPath name resolved with
    | entry file =>
        simp only [UserFiles.addUser, hold, if_false, hpath, overwrites,
          Option.some.injEq] at hstep
        subst hstep
        refine ⟨rfl, hnul (by simp [hpath]), ?_⟩
        intro other hother
        rw [PathTarget.entry.injEq] at hother
        subst hother
        exact ⟨rfl, rfl⟩
    | elsewhere present =>
        simp only [UserFiles.addUser, hold, if_false, hpath, overwrites,
          Option.some.injEq] at hstep
        subst hstep
        refine ⟨rfl, hnul (by simp [hpath]), ?_⟩
        intro other hother
        cases hother
    | invalid => simp [UserFiles.addUser, hold, hpath] at hstep

/-- A user with a good name and a new key gets a file of its own. -/
theorem mirrors_add {history next : UserHistory} {name : String}
    {psk : Bytes32} {resolved : PathTarget} (hmirrors : history.Mirrors)
    (hgood : name ≠ "" ∧ '/' ∉ name.toList)
    (hstep : history.step (.add name psk resolved) = some next) :
    next.Mirrors := by
  obtain ⟨hfresh, hnew, hstore, hnul, hentry⟩ := step_add hstep
  have plain : Plain name := ⟨hgood.2, hnul⟩
  have hpath : keyPath name resolved = .entry (.ofUser name plain) := by
    rw [keyPath, dif_pos plain]
  obtain ⟨hdir, hflag⟩ := hentry _ hpath
  have habsent := not_has_of_new hmirrors hgood.1 plain hnew
  have hfiles : next.state.dir.files = history.state.dir.files ++
      [⟨.ofUser name plain, true, hexText psk⟩] := by
    rw [hdir, KeyDir.write, dif_neg habsent]
  have husers : fileUsers next.state.dir.files =
      fileUsers history.state.dir.files ++ [(psk, name)] := by
    have hadded := KeyFile.user_of_added hgood.1 plain psk
    rw [hfiles, fileUsers, List.filterMap_append, List.filterMap_cons, hadded]
    rfl
  refine ⟨?_, ?_, ?_, ?_⟩
  · rw [hflag, hmirrors.kept]
    simpa using habsent
  · intro file hfile
    rw [hfiles, List.mem_append, List.mem_singleton] at hfile
    rcases hfile with hfile | rfl
    · exact hmirrors.sound file hfile
    · exact sound_of_added hgood.1 plain psk
  · rw [DistinctKeys, husers, List.map_append, List.nodup_append']
    refine ⟨hmirrors.keys, List.nodup_singleton _, ?_⟩
    intro key hkey hpsk
    rw [List.map_singleton, List.mem_singleton] at hpsk
    subst hpsk
    exact hfresh.2 hkey
  · intro user
    rw [husers, hstore, mem_put hfresh.1, List.mem_append,
      List.mem_singleton, hmirrors.users user]

/-- Every other name that is added does not come back from the directory. -/
theorem good_of_mirrors_add {history next : UserHistory} {name : String}
    {psk : Bytes32} {resolved : PathTarget} (hnext : next.Mirrors)
    (hstep : history.step (.add name psk resolved) = some next) :
    name ≠ "" ∧ '/' ∉ name.toList := by
  obtain ⟨hfresh, _, hstore, _⟩ := step_add hstep
  have hmem : (psk, name) ∈ next.state.store.users := by
    rw [hstore, mem_put hfresh.1]
    exact Or.inr rfl
  obtain ⟨file, _, huser⟩ :=
    List.mem_filterMap.mp ((hnext.users _).mpr hmem)
  obtain ⟨hne, plain, _⟩ := KeyFile.user_eq_some huser
  exact ⟨hne, plain.1⟩

/-- A successful `remove_user`: a user of that name leaves the map, and the
entry that the path denotes leaves the directory. -/
theorem step_remove {history next : UserHistory} {name : String}
    {resolved : PathTarget}
    (hstep : history.step (.remove name resolved) = some next) :
    ∃ psk, (psk, name) ∈ history.state.store.users ∧
      next.state.store = history.state.store.remove psk ∧
      next.overwrote = history.overwrote ∧
      ∀ file, keyPath name resolved = .entry file →
        history.state.dir.Has file →
        next.state.dir = history.state.dir.removeFile file := by
  by_cases hmem : name ∈ history.state.store.usernames
  · obtain ⟨psk, hfind, huser⟩ := UserFiles.find_username hmem
    refine ⟨psk, huser, ?_⟩
    cases hpath : keyPath name resolved with
    | entry file =>
        by_cases hhas : history.state.dir.Has file
        · simp only [step, UserFiles.removeUser, hfind,
            UserFiles.keyFileExists, hpath, hhas, decide_true, if_true,
            Option.some.injEq] at hstep
          subst hstep
          refine ⟨rfl, rfl, ?_⟩
          intro other hother _
          rw [PathTarget.entry.injEq] at hother
          rw [hother]
        · simp only [step, UserFiles.removeUser, hfind,
            UserFiles.keyFileExists, hpath, hhas, decide_false,
            Bool.false_eq_true, if_false, Option.some.injEq] at hstep
          subst hstep
          refine ⟨rfl, rfl, ?_⟩
          intro other hother hother'
          rw [PathTarget.entry.injEq] at hother
          exact absurd (hother ▸ hother') hhas
    | elsewhere present =>
        have hsame : next = { history with state :=
            { history.state with
              store := history.state.store.remove psk } } := by
          cases present <;>
            simpa [step, UserFiles.removeUser, hfind, UserFiles.keyFileExists,
              hpath] using hstep.symm
        subst hsame
        exact ⟨rfl, rfl, fun _ hother => by cases hother⟩
    | invalid =>
        simp only [step, UserFiles.removeUser, hfind, UserFiles.keyFileExists,
          hpath, Bool.false_eq_true, if_false, Option.some.injEq] at hstep
        subst hstep
        exact ⟨rfl, rfl, fun _ hother => by cases hother⟩
  · simp [step, UserFiles.removeUser, UserFiles.find_username_none hmem]
      at hstep

theorem mem_fileUsers_removeFile {dir : KeyDir} {name : String}
    (plain : Plain name) {user : Bytes32 × String} :
    user ∈ fileUsers (dir.removeFile (.ofUser name plain)).files ↔
      user ∈ fileUsers dir.files ∧ user.2 ≠ name := by
  simp only [fileUsers, KeyDir.removeFile, List.mem_filterMap,
    List.mem_filter, decide_eq_true_eq]
  constructor
  · rintro ⟨file, ⟨hfile, hne⟩, huser⟩
    refine ⟨⟨file, hfile, huser⟩, ?_⟩
    rintro rfl
    obtain ⟨_, _, hname⟩ := KeyFile.user_eq_some huser
    exact hne hname
  · rintro ⟨⟨file, hfile, huser⟩, hne⟩
    refine ⟨file, ⟨hfile, ?_⟩, huser⟩
    intro hname
    obtain ⟨_, _, hown⟩ := KeyFile.user_eq_some huser
    exact hne (FileName.ofUser_inj (hown.symm.trans hname))

/-- A removed user takes its file with it. -/
theorem mirrors_remove {history next : UserHistory} {name : String}
    {resolved : PathTarget} (hmirrors : history.Mirrors)
    (hstep : history.step (.remove name resolved) = some next) :
    next.Mirrors := by
  obtain ⟨psk, hmem, hstore, hflag, hentry⟩ := step_remove hstep
  have hfileUser := (hmirrors.users _).mpr hmem
  obtain ⟨file, hfile, huser⟩ := List.mem_filterMap.mp hfileUser
  obtain ⟨_, plain, hname⟩ := KeyFile.user_eq_some huser
  have hpath : keyPath name resolved = .entry (.ofUser name plain) := by
    rw [keyPath, dif_pos plain]
  have hhas : history.state.dir.Has (.ofUser name plain) := by
    rw [← hname]
    exact List.mem_map_of_mem hfile
  have hdir := hentry _ hpath hhas
  have hsub : next.state.dir.files.Sublist history.state.dir.files := by
    rw [hdir]
    exact List.filter_sublist
  refine ⟨hflag.trans hmirrors.kept, ?_, ?_, ?_⟩
  · intro other hother
    exact hmirrors.sound other (hsub.subset hother)
  · exact hmirrors.keys.sublist
      ((hsub.filterMap KeyFile.user).map Prod.fst)
  · intro user
    rw [hdir, mem_fileUsers_removeFile plain, hstore, UserStore.remove,
      List.mem_filter, hmirrors.users user, decide_eq_true_eq]
    apply and_congr_right
    intro huserMem
    apply not_congr
    constructor
    · intro hname
      have hsame := List.inj_on_of_nodup_map
        (List.pairwise_map.mpr (usernames_distinct history.state.dir))
        ((hmirrors.users user).mpr huserMem) hfileUser hname
      rw [hsame]
    · intro hkey
      have hsame := List.inj_on_of_nodup_map
        history.state.store.distinct huserMem hmem hkey
      rw [hsame]

/-- An edit keeps the agreement exactly when it is good. -/
theorem agrees_step_iff {history next : UserHistory} {edit : UserEdit}
    (hagrees : history.Agrees) (hstep : history.step edit = some next) :
    next.Agrees ↔ edit.Good := by
  have hmirrors := mirrors_of_agrees hagrees
  cases edit with
  | add name psk resolved =>
      constructor
      · intro hnext
        exact good_of_mirrors_add (mirrors_of_agrees hnext) hstep
      · intro hgood
        exact agrees_of_mirrors (mirrors_add hmirrors hgood hstep)
  | remove name resolved =>
      constructor
      · intro _
        trivial
      · intro _
        exact agrees_of_mirrors (mirrors_remove hmirrors hstep)

/-- A loaded store agrees with its directory exactly when no two key files
hold the same key. -/
theorem agrees_start_iff {store : UserStore} {dir : KeyDir}
    {order : List KeyFile} (horder : order.Perm dir.files)
    (hload : UserStore.load (usersDir order) = .ok store) :
    (start store dir).Agrees ↔ DistinctKeys dir.files := by
  constructor
  · intro hagrees
    exact (mirrors_of_agrees hagrees).keys
  · intro hdistinct
    have hsound := sound_of_load hload
    have husers : (fileUsers order).Perm (fileUsers dir.files) :=
      horder.filterMap KeyFile.user
    have hkeys : DistinctKeys order :=
      (husers.map Prod.fst).nodup_iff.mpr hdistinct
    rw [load_usersDir hsound, Except.ok.injEq] at hload
    refine agrees_of_mirrors ⟨rfl, ?_, hdistinct, ?_⟩
    · intro file hfile
      exact hsound file (horder.mem_iff.mpr hfile)
    · intro user
      have hstore : (start store dir).state.store = store := rfl
      rw [hstore, ← hload, users_load_of_distinct hkeys, husers.mem_iff]
      rfl

/-- From an agreeing state the agreement lasts exactly as long as the edits
are good. -/
theorem always_agrees_iff {history final : UserHistory}
    {edits : List UserEdit} (hagrees : history.Agrees)
    (hrun : Machine.run step history edits = some final) :
    Machine.Always step Agrees history edits ↔
      ∀ edit ∈ edits, edit.Good := by
  rw [← Machine.meets_labels_iff hrun]
  exact Machine.always_iff_meets (fun _ => True) (fun _ _ _ _ _ => trivial)
    (fun _ _ _ _ hagrees hstep => agrees_step_iff hagrees hstep)
    trivial hagrees hrun

/-- From any loaded directory and over any successful calls: the map in memory
is what loading the directory again gives and no key file is overwritten, all
along the run, exactly when no two key files held the same key at the start
and every added name is nonempty and has no slash. -/
theorem users_agree_iff {store : UserStore} {dir : KeyDir}
    {order : List KeyFile} (horder : order.Perm dir.files)
    (hload : UserStore.load (usersDir order) = .ok store)
    {edits : List UserEdit} {final : UserHistory}
    (hrun : Machine.run step (start store dir) edits = some final) :
    Machine.Always step Agrees (start store dir) edits ↔
      DistinctKeys dir.files ∧ ∀ edit ∈ edits, edit.Good := by
  constructor
  · intro halways
    have hstart := halways.head
    exact ⟨(agrees_start_iff horder hload).mp hstart,
      (always_agrees_iff hstart hrun).mp halways⟩
  · rintro ⟨hdistinct, hgood⟩
    have hstart := (agrees_start_iff horder hload).mpr hdistinct
    exact (always_agrees_iff hstart hrun).mpr hgood

def sampleKey : Bytes32 := .replicate 7

def emptyDir : KeyDir := ⟨[], List.nodup_nil⟩

theorem load_emptyDir :
    UserStore.load (usersDir []) = .ok UserStore.empty :=
  rfl

/-- A user added to an empty directory and removed again. -/
theorem users_agree_iff_alice :
    Machine.Always step Agrees (start UserStore.empty emptyDir)
      [.add "alice" sampleKey .invalid, .remove "alice" .invalid] := by
  have hrun : Machine.run step (start UserStore.empty emptyDir)
      [.add "alice" sampleKey .invalid, .remove "alice" .invalid] =
      some (start UserStore.empty emptyDir) := by
    decide +kernel
  have hgood : ∀ edit ∈ [UserEdit.add "alice" sampleKey .invalid,
      .remove "alice" .invalid], edit.Good := by
    decide
  exact (users_agree_iff (List.Perm.refl _) load_emptyDir hrun).mpr
    ⟨List.nodup_nil, hgood⟩

/-- A user without a name is written to `.key`, which has no extension and is
not loaded again. -/
theorem users_disagree_without_name :
    ¬ ∀ (store : UserStore) (dir : KeyDir) (order : List KeyFile),
      order.Perm dir.files → UserStore.load (usersDir order) = .ok store →
      ∀ (edits : List UserEdit) (final : UserHistory),
      Machine.run step (start store dir) edits = some final →
      Machine.Always step Agrees (start store dir) edits := by
  intro hall
  have hrun : Machine.run step (start UserStore.empty emptyDir)
      [.add "" sampleKey .invalid] =
      some ⟨⟨UserStore.empty.put sampleKey "",
        emptyDir.write (.ofUser "" (by decide)) (hexText sampleKey)⟩,
        false⟩ := by
    decide +kernel
  have halways := hall UserStore.empty emptyDir [] (List.Perm.refl _)
    load_emptyDir _ _ hrun
  have hgood := (always_agrees_iff halways.head hrun).mp halways
  exact (hgood _ List.mem_cons_self).1 rfl

end UserHistory

end Redpill
