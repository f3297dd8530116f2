/-
The key files of the users (`users.rs`, and `load_psk` of `auth.rs`).  A key is
64 hexadecimal characters; the store is loaded from all files `*.key` of a
directory, or not at all.
-/
import Redpill.Auth

namespace Redpill

open ByteStream

/-- The text of a file. -/
abbrev Text := List Char

/-- `White_Space` of Unicode, which `str::trim` removes. -/
def isWhitespace (c : Char) : Bool :=
  let code := c.toNat
  decide ((9 ≤ code ∧ code ≤ 13) ∨ code = 0x20 ∨ code = 0x85 ∨ code = 0xA0 ∨
    code = 0x1680 ∨ (0x2000 ≤ code ∧ code ≤ 0x200A) ∨ code = 0x2028 ∨
    code = 0x2029 ∨ code = 0x202F ∨ code = 0x205F ∨ code = 0x3000)

def trim (text : Text) : Text :=
  ((text.dropWhile isWhitespace).reverse.dropWhile isWhitespace).reverse

/-- The bytes of the text in UTF-8. -/
def asBytes (text : Text) : Bytes := text.flatMap String.utf8EncodeChar

def hexDigit (byte : UInt8) : Option Nat :=
  let code := byte.toNat
  if 48 ≤ code ∧ code ≤ 57 then some (code - 48)
  else if 97 ≤ code ∧ code ≤ 102 then some (code - 87)
  else if 65 ≤ code ∧ code ≤ 70 then some (code - 55)
  else none

/-- `u8::from_str_radix(_, 16)` on two bytes.  A leading plus sign is
accepted. -/
def u8FromHex (high low : UInt8) : Option UInt8 :=
  if high = 43 then (hexDigit low).map UInt8.ofNat
  else
    (hexDigit high).bind fun first =>
      (hexDigit low).map fun second => UInt8.ofNat (16 * first + second)

def parseChunks : Bytes → Option Bytes
  | [] => some []
  | [_] => none
  | high :: low :: rest =>
      (u8FromHex high low).bind fun byte =>
        (parseChunks rest).map fun bytes => byte :: bytes

inductive PskError where
  | length (got : Nat)
  | digit
deriving Repr, DecidableEq

theorem parseChunks_length {data parsed : Bytes}
    (h : parseChunks data = some parsed) : data.length = 2 * parsed.length := by
  induction data using parseChunks.induct generalizing parsed with
  | case1 =>
      rw [parseChunks, Option.some.injEq] at h
      rw [← h]
      rfl
  | case2 byte => simp [parseChunks] at h
  | case3 high low rest ih =>
      rw [parseChunks] at h
      obtain ⟨byte, _, h⟩ := Option.bind_eq_some_iff.mp h
      obtain ⟨bytes, hbytes, rfl⟩ := Option.map_eq_some_iff.mp h
      have hrest := ih hbytes
      simp only [List.length_cons]
      omega

/-- `parse_hex`. -/
def parseHex (text : Text) : Except PskError Bytes32 :=
  let hex := asBytes (trim text)
  if hlen : hex.length ≠ 64 then .error (.length hex.length)
  else
    match hpsk : parseChunks hex with
    | none => .error .digit
    | some psk =>
        .ok ⟨psk, by
          have hlength := parseChunks_length hpsk
          omega⟩

inductive LoadError where
  | dirMissing
  | io
  | invalidFilename
  | psk (error : PskError)
deriving Repr, DecidableEq

/-- `load_psk`, given what the file holds if it can be read. -/
def loadPsk (content : Option Text) : Except LoadError Bytes32 :=
  match content with
  | none => .error .io
  | some content =>
      match parseHex content with
      | .error error => .error (.psk error)
      | .ok psk => .ok psk

/-- A file of the directory.  `listed` and `readable` say whether the file
system gives its entry and its content; stem and extension are missing where
they are not UTF-8 or not there. -/
structure DirEntry where
  listed : Bool
  fileStem : Option String
  extension : Option String
  readable : Bool
  content : Text
deriving Repr, DecidableEq

structure UsersDir where
  isThere : Bool
  readable : Bool
  entries : List DirEntry
  missing_empty : isThere = false → entries = []

namespace UserStore

def empty : UserStore := ⟨[], List.nodup_nil⟩

/-- A key that is there already keeps its user. -/
def insert (store : UserStore) (psk : Bytes32) (username : String) :
    UserStore :=
  if hmem : psk ∈ store.users.map Prod.fst then store
  else
    ⟨store.users ++ [(psk, username)], by
      rw [List.map_append, List.nodup_append']
      refine ⟨store.distinct, List.nodup_singleton _, ?_⟩
      simpa using hmem⟩

/-- The loop of `UserStore::load`. -/
def loadEntries : List DirEntry → UserStore → Except LoadError UserStore
  | [], store => .ok store
  | entry :: rest, store =>
      if entry.listed = false then .error .io
      else if entry.extension ≠ some "key" then loadEntries rest store
      else
        match entry.fileStem with
        | none => .error .invalidFilename
        | some username =>
            if entry.readable = false then .error .io
            else
              match parseHex (trim entry.content) with
              | .error error => .error (.psk error)
              | .ok psk => loadEntries rest (store.insert psk username)

def load (dir : UsersDir) : Except LoadError UserStore :=
  if dir.isThere = false then .error .dirMissing
  else if dir.readable = false then .error .io
  else loadEntries dir.entries empty

end UserStore

/-- The key in a file `*.key`. -/
def DirEntry.key (entry : DirEntry) : Option Bytes32 :=
  if entry.extension = some "key" then (parseHex (trim entry.content)).toOption
  else none

/-- The keys in the files `*.key` of the directory. -/
def UsersDir.keys (dir : UsersDir) : List Bytes32 :=
  dir.entries.filterMap DirEntry.key

/-- The file does not stand in the way of the others: it is no key file, or one
with a name, a content and a key. -/
def DirEntry.Sound (entry : DirEntry) : Prop :=
  entry.listed = true ∧ (entry.extension = some "key" →
    entry.fileStem.isSome = true ∧ entry.readable = true ∧
      entry.key.isSome = true)

instance (entry : DirEntry) : Decidable entry.Sound :=
  inferInstanceAs (Decidable (_ ∧ (_ → _ ∧ _ ∧ _)))

def UsersDir.Sound (dir : UsersDir) : Prop :=
  dir.isThere = true ∧ dir.readable = true ∧
    ∀ entry ∈ dir.entries, entry.Sound

instance (dir : UsersDir) : Decidable dir.Sound :=
  inferInstanceAs (Decidable (_ ∧ _ ∧ ∀ entry ∈ dir.entries, entry.Sound))

namespace UserStore

theorem mem_insert {store : UserStore} {psk key : Bytes32}
    {username : String} :
    key ∈ (store.insert psk username).users.map Prod.fst ↔
      key ∈ store.users.map Prod.fst ∨ key = psk := by
  unfold insert
  split
  · rename_i hmem
    constructor
    · exact Or.inl
    · rintro (hkey | rfl)
      · exact hkey
      · exact hmem
  · simp only [List.map_append, List.mem_append, List.map_cons, List.map_nil,
      List.mem_singleton]

/-- What one file of the directory contributes. -/
theorem loadEntries_cons {entry : DirEntry} (hsound : entry.Sound)
    (rest : List DirEntry) (store : UserStore) :
    ∃ next : UserStore,
      loadEntries (entry :: rest) store = loadEntries rest next ∧
      ∀ key, key ∈ next.users.map Prod.fst ↔
        key ∈ store.users.map Prod.fst ∨ entry.key = some key := by
  obtain ⟨hlisted, hkeyFile⟩ := hsound
  by_cases hextension : entry.extension = some "key"
  · obtain ⟨hstem, hreadable, hkey⟩ := hkeyFile hextension
    obtain ⟨username, husername⟩ := Option.isSome_iff_exists.mp hstem
    cases hparse : parseHex (trim entry.content) with
    | error error =>
        simp [DirEntry.key, hextension, hparse, Except.toOption] at hkey
    | ok psk =>
        refine ⟨store.insert psk username, ?_, ?_⟩
        · simp [loadEntries, hlisted, hextension, husername, hreadable, hparse]
        · intro key
          rw [mem_insert]
          simp [DirEntry.key, hextension, hparse, Except.toOption,
            eq_comm (a := key)]
  · refine ⟨store, ?_, ?_⟩
    · simp [loadEntries, hlisted, hextension]
    · intro key
      simp [DirEntry.key, hextension]

/-- A file that is not sound ends the loop. -/
theorem loadEntries_unsound {entry : DirEntry} {rest : List DirEntry}
    {store loaded : UserStore} (hunsound : ¬ entry.Sound) :
    loadEntries (entry :: rest) store ≠ .ok loaded := by
  intro hload
  apply hunsound
  rw [loadEntries] at hload
  split at hload
  · cases hload
  · rename_i hlisted
    refine ⟨Bool.of_not_eq_false hlisted, ?_⟩
    intro hextension
    rw [if_neg (not_not_intro hextension)] at hload
    split at hload
    · cases hload
    · rename_i username husername
      split at hload
      · cases hload
      · rename_i hreadable
        split at hload
        · cases hload
        · rename_i psk hparse
          refine ⟨by rw [husername]; rfl, Bool.of_not_eq_false hreadable, ?_⟩
          simp [DirEntry.key, hextension, hparse, Except.toOption]

/-- The loop succeeds exactly on sound files, and then it adds their keys. -/
theorem loadEntries_spec (entries : List DirEntry) (store : UserStore) :
    ((∃ loaded, loadEntries entries store = .ok loaded) ↔
      ∀ entry ∈ entries, entry.Sound) ∧
    ∀ loaded, loadEntries entries store = .ok loaded →
      ∀ key, key ∈ loaded.users.map Prod.fst ↔
        key ∈ store.users.map Prod.fst ∨
          key ∈ entries.filterMap DirEntry.key := by
  induction entries generalizing store with
  | nil =>
      constructor
      · simp [loadEntries]
      · intro loaded hload key
        rw [loadEntries, Except.ok.injEq] at hload
        simp [hload]
  | cons entry rest ih =>
      by_cases hsound : entry.Sound
      · obtain ⟨next, hnext, hkeys⟩ := loadEntries_cons hsound rest store
        obtain ⟨hloads, hadds⟩ := ih next
        rw [hnext, hloads]
        constructor
        · simp [hsound]
        · intro loaded hload key
          rw [hadds loaded hload key, hkeys key, List.filterMap_cons]
          cases hkey : entry.key with
          | none => simp
          | some psk =>
              simp only [Option.some.injEq, List.mem_cons, or_assoc,
                eq_comm (a := psk)]
      · constructor
        · constructor
          · intro ⟨loaded, hload⟩
            exact absurd hload (loadEntries_unsound hsound)
          · intro hall
            exact absurd (hall entry List.mem_cons_self) hsound
        · intro loaded hload
          exact absurd hload (loadEntries_unsound hsound)

/-- The store is loaded exactly from a sound directory. -/
theorem load_isOk_iff {dir : UsersDir} :
    (∃ store, load dir = .ok store) ↔ dir.Sound := by
  unfold load UsersDir.Sound
  by_cases hthere : dir.isThere = true
  · by_cases hreadable : dir.readable = true
    · simp only [hthere, hreadable, Bool.true_eq_false, if_false, true_and]
      exact (loadEntries_spec dir.entries empty).1
    · simp [hthere, hreadable]
  · simp [hthere]

/-- A loaded store has the keys of the files, and no other. -/
theorem mem_load {dir : UsersDir} {store : UserStore}
    (hload : load dir = .ok store) {key : Bytes32} :
    key ∈ store.users.map Prod.fst ↔ key ∈ dir.keys := by
  have hsound := load_isOk_iff.mp ⟨store, hload⟩
  have hentries : loadEntries dir.entries empty = .ok store := by
    simpa [load, hsound.1, hsound.2.1] using hload
  rw [(loadEntries_spec dir.entries empty).2 store hentries key]
  simp [empty, UsersDir.keys]

end UserStore

end Redpill
