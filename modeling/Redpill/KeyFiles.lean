/-
The files of the users directory by name (`users.rs`).  A file name is split
at its last dot as `Path::file_stem` and `Path::extension` do, a key is
written as 64 hexadecimal digits, and what loading the files gives is told by
the keys and stems of the key files alone.
-/
import Redpill.Users

namespace Redpill

open ByteStream

/-- Split at the last dot, which belongs to neither part. -/
def splitLastDot (name : Text) : Option (Text × Text) :=
  match name.reverse.dropWhile (· ≠ '.') with
  | [] => none
  | _ :: before =>
      some (before.reverse, (name.reverse.takeWhile (· ≠ '.')).reverse)

/-- Stem and extension of a file name.  A name that begins with its only dot
has no extension, and the parent directory has none either. -/
def splitFileName (name : String) : String × Option String :=
  if name = ".." then (name, none)
  else
    match splitLastDot name.toList with
    | none => (name, none)
    | some ([], _) => (name, none)
    | some (before, after) =>
        (String.ofList before, some (String.ofList after))

/-- A name without the two characters that no file name has. -/
def Plain (name : String) : Prop :=
  '/' ∉ name.toList ∧ '\x00' ∉ name.toList

instance (name : String) : Decidable (Plain name) :=
  inferInstanceAs (Decidable (_ ∧ _))

/-- The name of a directory entry.  Of a name that is not UTF-8 only its stem
or only its extension may be. -/
inductive FileName where
  | text (name : String) (nonempty : name ≠ "") (plain : Plain name)
  | other (raw : Bytes) (fileStem extension : Option String)
      (invalid : fileStem = none ∨ extension = none)
deriving Repr, DecidableEq

namespace FileName

def fileStem : FileName → Option String
  | .text name _ _ => some (splitFileName name).1
  | .other _ fileStem _ _ => fileStem

def extension : FileName → Option String
  | .text name _ _ => (splitFileName name).2
  | .other _ _ extension _ => extension

/-- The name `{name}.key`. -/
def ofUser (name : String) (plain : Plain name) : FileName :=
  .text (name ++ ".key")
    (by
      intro hempty
      have htext := congrArg String.toList hempty
      simp [String.toList_append] at htext)
    (by simpa [Plain, String.toList_append] using plain)

theorem ofUser_inj {first second : String} {plain : Plain first}
    {plain' : Plain second}
    (heq : FileName.ofUser first plain = .ofUser second plain') :
    first = second := by
  simp only [ofUser, FileName.text.injEq] at heq
  rw [← String.toList_inj, String.toList_append, String.toList_append] at heq
  exact String.toList_inj.mp (List.append_cancel_right heq)

end FileName

theorem splitLastDot_eq_some {name before after : Text}
    (hsplit : splitLastDot name = some (before, after)) :
    name = before ++ '.' :: after := by
  have hjoin : name.reverse.takeWhile (· ≠ '.') ++
      name.reverse.dropWhile (· ≠ '.') = name.reverse :=
    List.takeWhile_append_dropWhile
  have hdot : ∀ c rest, name.reverse.dropWhile (· ≠ '.') = c :: rest →
      c = '.' := by
    intro c rest hdrop
    have hhead := List.head?_dropWhile_not (· ≠ '.') name.reverse
    rw [hdrop] at hhead
    simpa using hhead
  unfold splitLastDot at hsplit
  cases hdrop : name.reverse.dropWhile (· ≠ '.') with
  | nil =>
      rw [hdrop] at hsplit
      cases hsplit
  | cons c rest =>
      rw [hdrop] at hsplit hjoin
      simp only [Option.some.injEq, Prod.mk.injEq] at hsplit
      rw [hdot c rest hdrop] at hjoin
      have hname := congrArg List.reverse hjoin
      rw [List.reverse_reverse, List.reverse_append, List.reverse_cons,
        List.append_assoc, hsplit.1, hsplit.2] at hname
      exact hname.symm

theorem splitLastDot_key (name : Text) :
    splitLastDot (name ++ ['.', 'k', 'e', 'y']) =
      some (name, ['k', 'e', 'y']) := by
  simp [splitLastDot]

/-- The file of a user name splits into that name and `key`, unless the name
is empty. -/
theorem splitFileName_key {name : String} (hne : name ≠ "") :
    splitFileName (name ++ ".key") = (name, some "key") := by
  have htext : (name ++ ".key").toList =
      name.toList ++ ['.', 'k', 'e', 'y'] := String.toList_append
  have hparent : name ++ ".key" ≠ ".." := by
    intro heq
    have hlast := congrArg (fun text => text.toList.getLast?) heq
    simp [htext] at hlast
  have hchars : name.toList ≠ [] := by
    intro hnil
    exact hne (String.toList_eq_nil_iff.mp hnil)
  rw [splitFileName, if_neg hparent, htext, splitLastDot_key]
  cases hlist : name.toList with
  | nil => exact absurd hlist hchars
  | cons c rest =>
      simp only [← hlist, String.ofList_toList]

/-- Only the file of a nonempty user name splits into that name and `key`. -/
theorem eq_of_splitFileName {name username : String}
    (hsplit : splitFileName name = (username, some "key")) :
    username ≠ "" ∧ name = username ++ ".key" := by
  unfold splitFileName at hsplit
  by_cases hparent : name = ".."
  · simp [hparent] at hsplit
  · rw [if_neg hparent] at hsplit
    split at hsplit
    · simp at hsplit
    · simp at hsplit
    · rename_i before after hnonempty hdot
      simp only [Prod.mk.injEq, Option.some.injEq] at hsplit
      obtain ⟨hstem, hext⟩ := hsplit
      have hname := splitLastDot_eq_some hdot
      have hafter : after = ['k', 'e', 'y'] := by
        have := congrArg String.toList hext
        simpa using this
      have hbefore : username.toList = before := by
        rw [← hstem, String.toList_ofList]
      refine ⟨?_, ?_⟩
      · rintro rfl
        exact hnonempty (by simpa using hbefore.symm)
      · rw [← String.toList_inj, String.toList_append, hbefore, hname, hafter]
        rfl

/-- The key files are those of the nonempty plain user names. -/
theorem FileName.isUser_iff {file : FileName} {username : String} :
    file.extension = some "key" ∧ file.fileStem = some username ↔
      username ≠ "" ∧ ∃ plain, file = .ofUser username plain := by
  cases file with
  | text name nonempty plain =>
      constructor
      · rintro ⟨hext, hstem⟩
        have hsplit : splitFileName name = (username, some "key") := by
          simp only [extension, fileStem, Option.some.injEq] at hext hstem
          rw [← hext, ← hstem]
        obtain ⟨hne, rfl⟩ := eq_of_splitFileName hsplit
        refine ⟨hne, ?_, rfl⟩
        simpa [Plain, String.toList_append] using plain
      · rintro ⟨hne, _, heq⟩
        simp only [ofUser, FileName.text.injEq] at heq
        subst heq
        simp only [extension, fileStem, splitFileName_key hne, and_self]
  | other raw fileStem' extension' invalid =>
      constructor
      · rintro ⟨hext, hstem⟩
        simp only [extension, fileStem] at hext hstem
        rcases invalid with hnone | hnone
        · rw [hnone] at hstem
          cases hstem
        · rw [hnone] at hext
          cases hext
      · rintro ⟨_, _, heq⟩
        cases heq

/-- One of the digits `0` to `f`. -/
def hexChar (n : Nat) : Char :=
  if n < 10 then Char.ofNat (48 + n) else Char.ofNat (87 + n)

/-- A byte as `{b:02x}`. -/
def hexPair (byte : UInt8) : Text :=
  [hexChar (byte.toNat / 16), hexChar (byte.toNat % 16)]

/-- A key as 64 hexadecimal digits. -/
def hexText (psk : Bytes32) : Text := psk.bytes.flatMap hexPair

/-- The byte of a digit. -/
def hexByte (n : Nat) : UInt8 := UInt8.ofNat (hexChar n).toNat

/-- Each of the sixteen digits is one byte that reads back as its value. -/
theorem hexChar_spec {n : Nat} (hn : n < 16) :
    String.utf8EncodeChar (hexChar n) = [hexByte n] ∧
      hexDigit (hexByte n) = some n ∧ hexByte n ≠ 43 ∧
      isWhitespace (hexChar n) = false := by
  revert n
  decide

theorem asBytes_hexPair (byte : UInt8) :
    asBytes (hexPair byte) =
      [hexByte (byte.toNat / 16), hexByte (byte.toNat % 16)] := by
  have hlt := byte.toNat_lt
  have hhigh := hexChar_spec (show byte.toNat / 16 < 16 by omega)
  have hlow := hexChar_spec (show byte.toNat % 16 < 16 by omega)
  simp only [asBytes, hexPair, List.flatMap_cons, List.flatMap_nil, hhigh.1,
    hlow.1, List.append_nil, List.cons_append, List.nil_append]

/-- The two digits of a byte read back as the byte. -/
theorem u8FromHex_hexByte (byte : UInt8) :
    u8FromHex (hexByte (byte.toNat / 16)) (hexByte (byte.toNat % 16)) =
      some byte := by
  have hlt := byte.toNat_lt
  obtain ⟨_, hhigh, hplus, _⟩ :=
    hexChar_spec (show byte.toNat / 16 < 16 by omega)
  obtain ⟨_, hlow, _⟩ := hexChar_spec (show byte.toNat % 16 < 16 by omega)
  have hbyte : 16 * (byte.toNat / 16) + byte.toNat % 16 = byte.toNat := by
    omega
  rw [u8FromHex, if_neg hplus, hhigh, Option.bind_some, hlow, Option.map_some,
    hbyte, UInt8.ofNat_toNat]

theorem isWhitespace_hexPair {byte : UInt8} {c : Char}
    (hc : c ∈ hexPair byte) : isWhitespace c = false := by
  have hlt := byte.toNat_lt
  rw [hexPair, List.mem_cons, List.mem_singleton] at hc
  rcases hc with rfl | rfl
  · exact (hexChar_spec (show byte.toNat / 16 < 16 by omega)).2.2.2
  · exact (hexChar_spec (show byte.toNat % 16 < 16 by omega)).2.2.2

theorem parseChunks_hexText (bytes : Bytes) :
    parseChunks (asBytes (bytes.flatMap hexPair)) = some bytes := by
  induction bytes with
  | nil => rfl
  | cons byte rest ih =>
      have hsplit : asBytes ((byte :: rest).flatMap hexPair) =
          hexByte (byte.toNat / 16) :: hexByte (byte.toNat % 16) ::
            asBytes (rest.flatMap hexPair) := by
        rw [List.flatMap_cons, asBytes, List.flatMap_append, ← asBytes,
          asBytes_hexPair]
        rfl
      rw [hsplit, parseChunks, u8FromHex_hexByte, ih]
      rfl

theorem trim_of_no_whitespace {text : Text}
    (hnone : ∀ c ∈ text, isWhitespace c = false) : trim text = text := by
  have hkeep : ∀ chars : Text, (∀ c ∈ chars, isWhitespace c = false) →
      chars.dropWhile isWhitespace = chars := by
    intro chars hchars
    cases chars with
    | nil => rfl
    | cons c rest =>
        rw [List.dropWhile_cons_of_neg]
        simp [hchars c List.mem_cons_self]
  rw [trim, hkeep text hnone, hkeep text.reverse, List.reverse_reverse]
  intro c hc
  exact hnone c (List.mem_reverse.mp hc)

theorem parseHex_eq_ok {text : Text} {psk : Bytes32} :
    parseHex text = .ok psk ↔ (asBytes (trim text)).length = 64 ∧
      parseChunks (asBytes (trim text)) = some psk.bytes := by
  unfold parseHex
  simp only
  by_cases hlength : (asBytes (trim text)).length = 64
  · rw [dif_neg (not_not_intro hlength)]
    split
    · rename_i hnone
      simp [hnone]
    · rename_i found hfound
      rw [Except.ok.injEq]
      constructor
      · rintro rfl
        exact ⟨hlength, hfound⟩
      · rintro ⟨_, hparse⟩
        obtain rfl := Option.some.inj (hfound.symm.trans hparse)
        rfl
  · rw [dif_pos hlength]
    simp [hlength]

theorem trim_hexText (psk : Bytes32) : trim (hexText psk) = hexText psk := by
  apply trim_of_no_whitespace
  intro c hc
  obtain ⟨byte, _, hbyte⟩ := List.mem_flatMap.mp hc
  exact isWhitespace_hexPair hbyte

/-- A written key is read back. -/
theorem parseHex_hexText (psk : Bytes32) :
    parseHex (trim (hexText psk)) = .ok psk := by
  have hparse := parseChunks_hexText psk.bytes
  have hlength := parseChunks_length hparse
  rw [psk.length_eq] at hlength
  rw [parseHex_eq_ok, trim_hexText, trim_hexText]
  exact ⟨hlength, hparse⟩

/-- A file of the users directory. -/
structure KeyFile where
  name : FileName
  readable : Bool
  content : Text
deriving Repr, DecidableEq

/-- What reading the directory gives for the file. -/
def KeyFile.entry (file : KeyFile) : DirEntry :=
  ⟨true, file.name.fileStem, file.name.extension, file.readable, file.content⟩

/-- The key and the user of a key file. -/
def KeyFile.user (file : KeyFile) : Option (Bytes32 × String) :=
  file.entry.key.bind fun psk =>
    file.name.fileStem.map fun username => (psk, username)

/-- The keys and users of the key files among some files. -/
def fileUsers (files : List KeyFile) : List (Bytes32 × String) :=
  files.filterMap KeyFile.user

/-- A file that holds a user's key is the file of that user. -/
theorem KeyFile.user_eq_some {file : KeyFile} {psk : Bytes32}
    {username : String} (huser : file.user = some (psk, username)) :
    username ≠ "" ∧ ∃ plain, file.name = .ofUser username plain := by
  obtain ⟨key, hkey, hstem⟩ := Option.bind_eq_some_iff.mp huser
  obtain ⟨stem, hstem, heq⟩ := Option.map_eq_some_iff.mp hstem
  rw [Prod.mk.injEq] at heq
  have hext : file.name.extension = some "key" := by
    unfold DirEntry.key at hkey
    split at hkey
    · assumption
    · cases hkey
  exact FileName.isUser_iff.mp ⟨hext, heq.2 ▸ hstem⟩

/-- The file that `add_user` writes holds the new user. -/
theorem KeyFile.user_of_added {username : String} (hne : username ≠ "")
    (plain : Plain username) (psk : Bytes32) :
    (KeyFile.mk (.ofUser username plain) true (hexText psk)).user =
      some (psk, username) := by
  obtain ⟨hext, hstem⟩ := FileName.isUser_iff.mpr
    ⟨hne, plain, (rfl : FileName.ofUser username plain = _)⟩
  simp [user, entry, DirEntry.key, hext, hstem, parseHex_hexText,
    Except.toOption]

namespace UserStore

/-- Insert users one after another. -/
def insertAll (store : UserStore) (users : List (Bytes32 × String)) :
    UserStore :=
  users.foldl (fun store user => store.insert user.1 user.2) store

theorem mem_users_insert {store : UserStore} {psk : Bytes32}
    {username : String} {user : Bytes32 × String}
    (hmem : user ∈ (store.insert psk username).users) :
    user ∈ store.users ∨ user = (psk, username) := by
  unfold insert at hmem
  split at hmem
  · exact Or.inl hmem
  · simpa using hmem

theorem users_insert_of_new {store : UserStore} {psk : Bytes32}
    (username : String) (hnew : psk ∉ store.users.map Prod.fst) :
    (store.insert psk username).users = store.users ++ [(psk, username)] := by
  rw [insert, dif_neg hnew]

theorem mem_users_insert_of_mem {store : UserStore} (psk : Bytes32)
    (username : String) {user : Bytes32 × String} (hmem : user ∈ store.users) :
    user ∈ (store.insert psk username).users := by
  by_cases hold : psk ∈ store.users.map Prod.fst
  · rw [insert, dif_pos hold]
    exact hmem
  · rw [users_insert_of_new username hold]
    exact List.mem_append_left _ hmem

theorem mem_insertAll_of_mem {store : UserStore} {user : Bytes32 × String}
    (hmem : user ∈ store.users) (users : List (Bytes32 × String)) :
    user ∈ (store.insertAll users).users := by
  induction users generalizing store with
  | nil => exact hmem
  | cons head tail ih => exact ih (mem_users_insert_of_mem head.1 head.2 hmem)

theorem mem_insertAll {store : UserStore} {users : List (Bytes32 × String)}
    {user : Bytes32 × String} (hmem : user ∈ (store.insertAll users).users) :
    user ∈ store.users ∨ user ∈ users := by
  induction users generalizing store with
  | nil => exact Or.inl hmem
  | cons head tail ih =>
      rcases ih hmem with hstore | htail
      · rcases mem_users_insert hstore with hold | hhead
        · exact Or.inl hold
        · exact Or.inr (List.mem_cons.mpr (Or.inl hhead))
      · exact Or.inr (List.mem_cons_of_mem head htail)

/-- Users with keys of their own are all taken. -/
theorem users_insertAll_of_distinct {store : UserStore}
    {users : List (Bytes32 × String)}
    (hdistinct : ((store.users ++ users).map Prod.fst).Nodup) :
    (store.insertAll users).users = store.users ++ users := by
  induction users generalizing store with
  | nil => exact (List.append_nil _).symm
  | cons head tail ih =>
      have hnew : head.1 ∉ store.users.map Prod.fst := by
        intro hold
        rw [List.map_append, List.nodup_append'] at hdistinct
        exact hdistinct.2.2 hold List.mem_cons_self
      have hinsert := users_insert_of_new head.2 hnew
      have hnext := @ih (store.insert head.1 head.2) (by
        rw [hinsert, List.append_assoc]
        exact hdistinct)
      rw [hinsert, List.append_assoc] at hnext
      exact hnext

/-- Sound files are loaded by inserting their users in turn. -/
theorem loadEntries_eq {files : List KeyFile} (store : UserStore)
    (hsound : ∀ file ∈ files, file.entry.Sound) :
    loadEntries (files.map KeyFile.entry) store =
      .ok (store.insertAll (fileUsers files)) := by
  induction files generalizing store with
  | nil => rfl
  | cons file rest ih =>
      have hfile := hsound file List.mem_cons_self
      have hrest : ∀ other ∈ rest, other.entry.Sound := by
        intro other hother
        exact hsound other (List.mem_cons_of_mem file hother)
      rw [List.map_cons, loadEntries]
      by_cases hext : file.name.extension = some "key"
      · obtain ⟨hstem, hreadable, hkey⟩ := hfile.2 hext
        obtain ⟨username, husername⟩ := Option.isSome_iff_exists.mp hstem
        obtain ⟨psk, hpsk⟩ := Option.isSome_iff_exists.mp hkey
        have husers : fileUsers (file :: rest) =
            (psk, username) :: fileUsers rest := by
          have hname : file.name.fileStem = some username := husername
          rw [fileUsers, List.filterMap_cons, KeyFile.user, hpsk, hname]
          rfl
        have hparse : parseHex (trim file.content) = .ok psk := by
          simp only [DirEntry.key, KeyFile.entry, hext, if_true] at hpsk
          cases hresult : parseHex (trim file.content) with
          | error error =>
              rw [hresult] at hpsk
              cases hpsk
          | ok found =>
              rw [hresult] at hpsk
              simp only [Except.toOption, Option.some.injEq] at hpsk
              rw [hpsk]
        have hext' : file.entry.extension = some "key" := hext
        have hcontent : file.entry.content = file.content := rfl
        rw [hfile.1, if_neg (by decide), if_neg (not_not_intro hext'),
          husername, hreadable, hcontent, hparse, husers]
        exact ih _ hrest
      · have hext' : file.entry.extension ≠ some "key" := hext
        have husers : fileUsers (file :: rest) = fileUsers rest := by
          have hnone : file.user = none := by
            simp [KeyFile.user, DirEntry.key, hext']
          rw [fileUsers, List.filterMap_cons, hnone]
          rfl
        rw [hfile.1, if_neg (by decide), if_pos hext', husers]
        exact ih store hrest

end UserStore

end Redpill
