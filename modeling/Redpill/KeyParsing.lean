/-
The parser of a key (`parse_hex`, once in `auth.rs` and once in `users.rs`)
byte by byte: the loop over the chunks of two bytes with its index into the key,
`str::from_utf8` on each chunk and `u8::from_str_radix`.  It is compared with
the texts it means to accept, 64 hexadecimal digits.
-/
import Redpill.KeyFiles

namespace Redpill

open ByteStream

/-- `ParseIntError`, the kinds that u8 has. -/
inductive IntErrorKind where
  | empty
  | invalidDigit
  | posOverflow
deriving Repr, DecidableEq

inductive HexError where
  | length (got : Nat)
  | utf8
  | parseInt (kind : IntErrorKind)
deriving Repr, DecidableEq

/-- The digits of `from_str_radix`, after the sign. -/
def radixDigits : Nat → Bytes → Except IntErrorKind UInt8
  | value, [] => .ok (UInt8.ofNat value)
  | value, byte :: rest =>
      match hexDigit byte with
      | none => .error .invalidDigit
      | some digit =>
          if 256 ≤ value * 16 + digit then .error .posOverflow
          else radixDigits (value * 16 + digit) rest

/-- `u8::from_str_radix(_, 16)`.  A lone sign is an error, a leading plus is
skipped, and a minus is no digit of an unsigned number. -/
def u8FromStrRadix : Bytes → Except IntErrorKind UInt8
  | [] => .error .empty
  | first :: rest =>
      if (first = 43 ∨ first = 45) ∧ rest = [] then .error .invalidDigit
      else if first = 43 then radixDigits 0 rest
      else radixDigits 0 (first :: rest)

/-- `chunks(2)`. -/
def chunks : Bytes → List Bytes
  | [] => []
  | [byte] => [[byte]]
  | first :: second :: rest => [first, second] :: chunks rest

/-- Whether `str::from_utf8` takes the bytes. -/
def isUtf8 (data : Bytes) : Bool := data.toByteArray.validateUTF8

/-- The loop over the chunks, which writes `psk[i]`.  There is no result where
the index is out of range. -/
def parseLoop : List Bytes → Nat → Bytes → Option (Except HexError Bytes)
  | [], _, psk => some (.ok psk)
  | chunk :: rest, i, psk =>
      if isUtf8 chunk = false then some (.error .utf8)
      else
        match u8FromStrRadix chunk with
        | .error kind => some (.error (.parseInt kind))
        | .ok byte =>
            if i < psk.length then parseLoop rest (i + 1) (psk.set i byte)
            else none

/-- The body of both copies. -/
def parseHexBytes (text : Text) : Option (Except HexError Bytes) :=
  let hex := asBytes (trim text)
  if hex.length ≠ 64 then some (.error (.length hex.length))
  else parseLoop (chunks hex) 0 (List.replicate 32 0)

namespace Auth

/-- `parse_hex` of `auth.rs`. -/
def parseHex (text : Text) : Option (Except HexError Bytes) :=
  parseHexBytes text

end Auth

namespace Users

/-- `parse_hex` of `users.rs`. -/
def parseHex (text : Text) : Option (Except HexError Bytes) :=
  parseHexBytes text

end Users

theorem hexDigit_lt {byte : UInt8} {digit : Nat}
    (hdigit : hexDigit byte = some digit) :
    digit < 16 ∧ byte.toNat < 128 := by
  unfold hexDigit at hdigit
  simp only at hdigit
  split at hdigit
  · rw [Option.some.injEq] at hdigit
    omega
  · split at hdigit
    · rw [Option.some.injEq] at hdigit
      omega
    · split at hdigit
      · rw [Option.some.injEq] at hdigit
        omega
      · cases hdigit

/-- On two bytes the library function is `u8FromHex`. -/
theorem u8FromStrRadix_pair (high low : UInt8) :
    (u8FromStrRadix [high, low]).toOption = u8FromHex high low := by
  have hnil : ¬ ((high = 43 ∨ high = 45) ∧ [low] = []) := by simp
  simp only [u8FromStrRadix, u8FromHex]
  rw [if_neg hnil]
  split
  · cases hlow : hexDigit low with
    | none => simp [radixDigits, hlow, Except.toOption]
    | some digit =>
        have hlt := (hexDigit_lt hlow).1
        have hfits : ¬ 256 ≤ digit := by omega
        simp [radixDigits, hlow, Except.toOption, hfits]
  · cases hhigh : hexDigit high with
    | none => simp [radixDigits, hhigh, Except.toOption]
    | some first =>
        have hfirst := (hexDigit_lt hhigh).1
        cases hlow : hexDigit low with
        | none =>
            have hfits : ¬ 256 ≤ first := by omega
            simp [radixDigits, hhigh, hlow, Except.toOption, hfits]
        | some second =>
            have hsecond := (hexDigit_lt hlow).1
            have hfits : ¬ 256 ≤ first := by omega
            have hfits' : ¬ 256 ≤ first * 16 + second := by omega
            simp [radixDigits, hhigh, hlow, Except.toOption, hfits, hfits',
              Nat.mul_comm]

theorem u8FromHex_ascii {high low byte : UInt8}
    (hbyte : u8FromHex high low = some byte) :
    high.toNat < 128 ∧ low.toNat < 128 := by
  unfold u8FromHex at hbyte
  split at hbyte
  · rename_i hplus
    obtain ⟨digit, hdigit, _⟩ := Option.map_eq_some_iff.mp hbyte
    exact ⟨by rw [hplus]; decide, (hexDigit_lt hdigit).2⟩
  · obtain ⟨first, hfirst, hrest⟩ := Option.bind_eq_some_iff.mp hbyte
    obtain ⟨second, hsecond, _⟩ := Option.map_eq_some_iff.mp hrest
    exact ⟨(hexDigit_lt hfirst).2, (hexDigit_lt hsecond).2⟩

/-- The encoding of a character: itself, or a first byte that is no ASCII. -/
theorem utf8EncodeChar_cases (c : Char) :
    (c.toNat < 128 ∧ String.utf8EncodeChar c = [UInt8.ofNat c.toNat]) ∨
      (128 ≤ c.toNat ∧ ∃ lead tail, String.utf8EncodeChar c = lead :: tail ∧
        128 ≤ lead.toNat) := by
  unfold String.utf8EncodeChar
  simp only
  by_cases hascii : c.val.toNat ≤ 0x7f
  · left
    rw [if_pos hascii]
    exact ⟨Nat.lt_succ_of_le hascii, rfl⟩
  · right
    rw [if_neg hascii]
    refine ⟨Nat.lt_of_not_le hascii, ?_⟩
    split
    · exact ⟨_, _, rfl, by rw [UInt8.toNat_ofNat']; omega⟩
    · split
      · exact ⟨_, _, rfl, by rw [UInt8.toNat_ofNat']; omega⟩
      · exact ⟨_, _, rfl, by rw [UInt8.toNat_ofNat']; omega⟩

theorem utf8EncodeChar_ascii {byte : UInt8} (hascii : byte.toNat < 128) :
    String.utf8EncodeChar (Char.ofNat byte.toNat) = [byte] := by
  have hvalid : (Char.ofNat byte.toNat).toNat = byte.toNat := by
    rw [Char.ofNat, dif_pos (Or.inl (by omega))]
    rfl
  rcases utf8EncodeChar_cases (Char.ofNat byte.toNat) with ⟨_, hone⟩ | ⟨hbig, _⟩
  · rw [hone, hvalid, UInt8.ofNat_toNat]
  · omega

theorem isUtf8_of_ascii {high low : UInt8} (hhigh : high.toNat < 128)
    (hlow : low.toNat < 128) : isUtf8 [high, low] = true := by
  rw [isUtf8, ByteArray.validateUTF8_eq_true_iff]
  refine ⟨[Char.ofNat high.toNat, Char.ofNat low.toNat], ?_⟩
  simp only [List.utf8Encode, List.flatMap_cons, List.flatMap_nil,
    utf8EncodeChar_ascii hhigh, utf8EncodeChar_ascii hlow, List.append_nil,
    List.cons_append, List.nil_append]

theorem parseLoop_of_some {high low byte : UInt8} {rest : List Bytes}
    {i : Nat} {psk : Bytes} (hbyte : u8FromHex high low = some byte)
    (hi : i < psk.length) :
    parseLoop ([high, low] :: rest) i psk =
      parseLoop rest (i + 1) (psk.set i byte) := by
  obtain ⟨hhigh, hlow⟩ := u8FromHex_ascii hbyte
  have hradix := u8FromStrRadix_pair high low
  rw [hbyte] at hradix
  cases hcase : u8FromStrRadix [high, low] with
  | error kind =>
      rw [hcase] at hradix
      cases hradix
  | ok value =>
      rw [hcase] at hradix
      obtain rfl := Option.some.inj hradix
      simp [parseLoop, isUtf8_of_ascii hhigh hlow, hcase, hi]

theorem parseLoop_of_none {high low : UInt8} {rest : List Bytes} {i : Nat}
    {psk : Bytes} (hnone : u8FromHex high low = none) :
    ∃ error, parseLoop ([high, low] :: rest) i psk = some (.error error) := by
  have hradix := u8FromStrRadix_pair high low
  rw [hnone] at hradix
  cases hcase : u8FromStrRadix [high, low] with
  | error kind =>
      rw [parseLoop, hcase]
      split
      · exact ⟨_, rfl⟩
      · exact ⟨_, rfl⟩
  | ok value =>
      rw [hcase] at hradix
      cases hradix

/-- The loop gives what `parseChunks` gives, and its index stays in range. -/
theorem parseLoop_chunks {hex psk : Bytes} {i : Nat}
    (hlength : hex.length = 2 * (psk.length - i)) :
    (∀ bytes, parseChunks hex = some bytes →
      parseLoop (chunks hex) i psk = some (.ok (psk.take i ++ bytes))) ∧
    (parseChunks hex = none →
      ∃ error, parseLoop (chunks hex) i psk = some (.error error)) := by
  induction hex using parseChunks.induct generalizing psk i with
  | case1 =>
      rw [List.length_nil] at hlength
      have hfull : psk.take i = psk := List.take_of_length_le (by omega)
      simp [parseChunks, chunks, parseLoop, hfull]
  | case2 byte =>
      rw [List.length_singleton] at hlength
      omega
  | case3 high low rest ih =>
      simp only [List.length_cons] at hlength
      have hi : i < psk.length := by omega
      rw [parseChunks, chunks]
      cases hbyte : u8FromHex high low with
      | none => exact ⟨by simp, fun _ => parseLoop_of_none hbyte⟩
      | some byte =>
          have hset : rest.length = 2 * ((psk.set i byte).length - (i + 1)) := by
            rw [List.length_set]
            omega
          obtain ⟨hsome, hnone⟩ := ih hset
          rw [parseLoop_of_some hbyte hi, Option.bind_some]
          constructor
          · intro bytes hbytes
            obtain ⟨tail, htail, rfl⟩ := Option.map_eq_some_iff.mp hbytes
            rw [hsome tail htail]
            simp [List.take_add_one, List.take_set_of_le, hi]
          · intro hparse
            exact hnone (Option.map_eq_none_iff.mp hparse)

/-- The parser always returns, with the bytes of `parseChunks` or an error. -/
theorem parseHexBytes_cases (text : Text) :
    (∃ bytes, parseHexBytes text = some (.ok bytes) ∧
      (asBytes (trim text)).length = 64 ∧
      parseChunks (asBytes (trim text)) = some bytes) ∨
    (∃ error, parseHexBytes text = some (.error error)) ∧
      ¬ ((asBytes (trim text)).length = 64 ∧
        (parseChunks (asBytes (trim text))).isSome = true) := by
  unfold parseHexBytes
  simp only
  by_cases hlength : (asBytes (trim text)).length = 64
  · rw [if_neg (not_not_intro hlength)]
    have hindex : (asBytes (trim text)).length =
        2 * ((List.replicate 32 (0 : UInt8)).length - 0) := hlength
    obtain ⟨hsome, hnone⟩ := parseLoop_chunks hindex
    cases hparse : parseChunks (asBytes (trim text)) with
    | none => exact Or.inr ⟨hnone hparse, by simp⟩
    | some bytes =>
        left
        refine ⟨bytes, ?_, hlength, rfl⟩
        rw [hsome bytes hparse]
        rfl
  · rw [if_pos hlength]
    exact Or.inr ⟨⟨_, rfl⟩, fun h => hlength h.1⟩

theorem parseHexBytes_eq_ok {text : Text} {bytes : Bytes} :
    parseHexBytes text = some (.ok bytes) ↔
      (asBytes (trim text)).length = 64 ∧
        parseChunks (asBytes (trim text)) = some bytes := by
  rcases parseHexBytes_cases text with ⟨found, hok, hlength, hparse⟩ |
    ⟨⟨error, herror⟩, hbad⟩
  · rw [hok, hparse]
    simp [hlength]
  · rw [herror]
    constructor
    · intro heq
      cases heq
    · rintro ⟨hlength, hparse⟩
      exact absurd ⟨hlength, by rw [hparse]; rfl⟩ hbad

/-- Both copies are the parser that loading the users is modelled with. -/
theorem parseHexBytes_eq_parseHex {text : Text} {psk : Bytes32} :
    parseHexBytes text = some (.ok psk.bytes) ↔ parseHex text = .ok psk := by
  rw [parseHexBytes_eq_ok, parseHex_eq_ok]

/-- The value of a hexadecimal digit, in either case. -/
def hexValue (c : Char) : Option Nat :=
  if '0' ≤ c ∧ c ≤ '9' then some (c.toNat - '0'.toNat)
  else if 'a' ≤ c ∧ c ≤ 'f' then some (c.toNat - 'a'.toNat + 10)
  else if 'A' ≤ c ∧ c ≤ 'F' then some (c.toNat - 'A'.toNat + 10)
  else none

/-- The byte string that pairs of hexadecimal digits denote. -/
def Denotes : Text → Bytes → Prop
  | [], [] => True
  | high :: low :: rest, byte :: bytes =>
      (∃ first second, hexValue high = some first ∧
        hexValue low = some second ∧ byte.toNat = 16 * first + second) ∧
      Denotes rest bytes
  | _, _ => False

/-- Exactly 64 hexadecimal digits. -/
def IsHexKey (text : Text) : Prop :=
  text.length = 64 ∧ ∀ c ∈ text, (hexValue c).isSome = true

/-- Pairs of a digit or a plus sign and a digit. -/
def SignedPairs : Text → Prop
  | [] => True
  | [_] => False
  | high :: low :: rest =>
      (high = '+' ∨ (hexValue high).isSome = true) ∧
        (hexValue low).isSome = true ∧ SignedPairs rest

/-- 64 characters, read as 32 pairs of which some begin with a plus sign and all
else is hexadecimal digits. -/
def IsSignedKey (text : Text) : Prop :=
  text.length = 64 ∧ SignedPairs text ∧ '+' ∈ text

theorem char_le_iff (first second : Char) :
    first ≤ second ↔ first.toNat ≤ second.toNat :=
  Iff.rfl

/-- On the bytes that are characters, the parser knows the digits. -/
theorem hexDigit_ofNat {c : Char} (hascii : c.toNat < 128) :
    hexDigit (UInt8.ofNat c.toNat) = hexValue c := by
  have hcode : (UInt8.ofNat c.toNat).toNat = c.toNat := by
    rw [UInt8.toNat_ofNat', Nat.mod_eq_of_lt (by omega)]
  have hlower : c.toNat - 97 + 10 = c.toNat - 87 ∨ c.toNat < 97 := by omega
  have hupper : c.toNat - 65 + 10 = c.toNat - 55 ∨ c.toNat < 65 := by omega
  have hcodes : '0'.toNat = 48 ∧ '9'.toNat = 57 ∧ 'a'.toNat = 97 ∧
      'f'.toNat = 102 ∧ 'A'.toNat = 65 ∧ 'F'.toNat = 70 := by decide
  unfold hexDigit hexValue
  simp only [hcode, char_le_iff, hcodes]
  split
  · rfl
  · split
    · exact congrArg some (by omega)
    · split
      · exact congrArg some (by omega)
      · rfl

theorem hexValue_spec {c : Char} {digit : Nat}
    (hvalue : hexValue c = some digit) :
    digit < 16 ∧ c.toNat < 128 ∧ c ≠ '+' := by
  have hascii : c.toNat < 128 := by
    have hcodes : '9'.toNat = 57 ∧ 'f'.toNat = 102 ∧ 'F'.toNat = 70 := by decide
    unfold hexValue at hvalue
    simp only [char_le_iff, hcodes] at hvalue
    split at hvalue
    · omega
    · split at hvalue
      · omega
      · split at hvalue
        · omega
        · cases hvalue
  refine ⟨?_, hascii, ?_⟩
  · rw [← hexDigit_ofNat hascii] at hvalue
    exact (hexDigit_lt hvalue).1
  · rintro rfl
    rw [show hexValue '+' = none by decide] at hvalue
    cases hvalue

/-- What the parser reads from a text: pairs of digits, or a plus sign and one
digit. -/
def Reads : Text → Bytes → Prop
  | [], [] => True
  | high :: low :: rest, byte :: bytes =>
      (∃ second, hexValue low = some second ∧
        ((high = '+' ∧ byte = UInt8.ofNat second) ∨
          ∃ first, hexValue high = some first ∧
            byte = UInt8.ofNat (16 * first + second))) ∧
      Reads rest bytes
  | _, _ => False

/-- A pair of characters, read byte by byte. -/
theorem u8FromHex_chars {high low : Char} (hhigh : high.toNat < 128)
    (hlow : low.toNat < 128) (byte : UInt8) :
    u8FromHex (UInt8.ofNat high.toNat) (UInt8.ofNat low.toNat) = some byte ↔
      ∃ second, hexValue low = some second ∧
        ((high = '+' ∧ byte = UInt8.ofNat second) ∨
          ∃ first, hexValue high = some first ∧
            byte = UInt8.ofNat (16 * first + second)) := by
  have hplus : UInt8.ofNat high.toNat = 43 ↔ high = '+' := by
    constructor
    · intro heq
      have hcode := congrArg UInt8.toNat heq
      rw [UInt8.toNat_ofNat', Nat.mod_eq_of_lt (by omega)] at hcode
      exact Char.ext (UInt32.toNat_inj.mp hcode)
    · rintro rfl
      rfl
  unfold u8FromHex
  simp only [hplus, hexDigit_ofNat hhigh, hexDigit_ofNat hlow]
  by_cases hsign : high = '+'
  · have hnone : hexValue high = none := by
      rw [hsign]
      decide
    rw [if_pos hsign, Option.map_eq_some_iff]
    constructor
    · rintro ⟨second, hsecond, rfl⟩
      exact ⟨second, hsecond, Or.inl ⟨hsign, rfl⟩⟩
    · rintro ⟨second, hsecond, ⟨_, rfl⟩ | ⟨first, hfirst, _⟩⟩
      · exact ⟨second, hsecond, rfl⟩
      · rw [hnone] at hfirst
        cases hfirst
  · rw [if_neg hsign, Option.bind_eq_some_iff]
    constructor
    · rintro ⟨first, hfirst, hrest⟩
      obtain ⟨second, hsecond, rfl⟩ := Option.map_eq_some_iff.mp hrest
      exact ⟨second, hsecond, Or.inr ⟨first, hfirst, rfl⟩⟩
    · rintro ⟨second, hsecond, ⟨hplus, _⟩ | ⟨first, hfirst, rfl⟩⟩
      · exact absurd hplus hsign
      · exact ⟨first, hfirst, by rw [hsecond, Option.map_some]⟩

theorem u8FromHex_of_high {high low : UInt8} (hhigh : 128 ≤ high.toNat) :
    u8FromHex high low = none := by
  cases hbyte : u8FromHex high low with
  | none => rfl
  | some byte =>
      have hascii := (u8FromHex_ascii hbyte).1
      omega

theorem u8FromHex_of_low {high low : UInt8} (hlow : 128 ≤ low.toNat) :
    u8FromHex high low = none := by
  cases hbyte : u8FromHex high low with
  | none => rfl
  | some byte =>
      have hascii := (u8FromHex_ascii hbyte).2
      omega

/-- No chunk is read from a text that begins beyond ASCII. -/
theorem parseChunks_of_lead {lead : UInt8} {tail : Bytes}
    (hlead : 128 ≤ lead.toNat) : parseChunks (lead :: tail) = none := by
  cases tail with
  | nil => rfl
  | cons low rest => rw [parseChunks, u8FromHex_of_high hlead, Option.bind_none]

theorem asBytes_cons (c : Char) (text : Text) :
    asBytes (c :: text) = String.utf8EncodeChar c ++ asBytes text :=
  List.flatMap_cons

/-- Only ASCII is read. -/
theorem Reads.ascii {high low : Char} {rest : Text} {bytes : Bytes}
    (hreads : Reads (high :: low :: rest) bytes) :
    high.toNat < 128 ∧ low.toNat < 128 := by
  cases bytes with
  | nil => exact hreads.elim
  | cons byte bytes =>
      obtain ⟨⟨second, hsecond, hfirst⟩, _⟩ := hreads
      refine ⟨?_, (hexValue_spec hsecond).2.1⟩
      rcases hfirst with ⟨rfl, _⟩ | ⟨first, hfirst, _⟩
      · decide
      · exact (hexValue_spec hfirst).2.1

/-- Two characters of ASCII are one chunk. -/
theorem parseChunks_pair {high low : Char} (hhigh : high.toNat < 128)
    (hlow : low.toNat < 128) {rest : Text}
    (ih : ∀ bytes, parseChunks (asBytes rest) = some bytes ↔ Reads rest bytes)
    (bytes : Bytes) :
    parseChunks (UInt8.ofNat high.toNat :: UInt8.ofNat low.toNat ::
      asBytes rest) = some bytes ↔ Reads (high :: low :: rest) bytes := by
  rw [parseChunks, Option.bind_eq_some_iff]
  simp only [u8FromHex_chars hhigh hlow, Option.map_eq_some_iff, ih]
  cases bytes with
  | nil => simp [Reads]
  | cons byte bytes =>
      simp only [Reads, List.cons.injEq]
      constructor
      · rintro ⟨_, hpair, _, hrest, rfl, rfl⟩
        exact ⟨hpair, hrest⟩
      · rintro ⟨hpair, hrest⟩
        exact ⟨byte, hpair, bytes, hrest, rfl, rfl⟩

/-- The parser reads a text character by character. -/
theorem parseChunks_asBytes : ∀ (text : Text) (bytes : Bytes),
    parseChunks (asBytes text) = some bytes ↔ Reads text bytes
  | [], bytes => by
      cases bytes with
      | nil => simp [asBytes, parseChunks, Reads]
      | cons byte bytes => simp [asBytes, parseChunks, Reads]
  | [c], bytes => by
      have hnone : parseChunks (asBytes [c]) = none := by
        rw [asBytes_cons]
        rcases utf8EncodeChar_cases c with ⟨_, hone⟩ |
          ⟨_, lead, tail, hmany, hlead⟩
        · rw [hone]
          rfl
        · rw [hmany]
          exact parseChunks_of_lead hlead
      rw [hnone]
      simp [Reads]
  | high :: low :: rest, bytes => by
      have ih := parseChunks_asBytes rest
      rw [asBytes_cons, asBytes_cons]
      rcases utf8EncodeChar_cases high with ⟨hhigh, hone⟩ |
        ⟨hbig, lead, tail, hmany, hlead⟩
      · rw [hone]
        rcases utf8EncodeChar_cases low with ⟨hlow, hone'⟩ |
          ⟨hbig, lead, tail, hmany, hlead⟩
        · rw [hone']
          exact parseChunks_pair hhigh hlow ih bytes
        · rw [hmany]
          change parseChunks (_ :: lead :: _) = _ ↔ _
          rw [parseChunks, u8FromHex_of_low hlead, Option.bind_none]
          constructor
          · intro heq
            cases heq
          · intro hreads
            have hascii := hreads.ascii.2
            omega
      · rw [hmany, List.cons_append, parseChunks_of_lead hlead]
        constructor
        · intro heq
          cases heq
        · intro hreads
          have hascii := hreads.ascii.1
          omega

theorem Reads.length_eq : ∀ {text : Text} {bytes : Bytes},
    Reads text bytes → text.length = 2 * bytes.length
  | [], [], _ => rfl
  | _ :: _ :: rest, _ :: bytes, hreads => by
      have hrest := Reads.length_eq hreads.2
      simp only [List.length_cons]
      omega

/-- The parser accepts what it reads 32 bytes from. -/
theorem parseHexBytes_eq_ok_iff {text : Text} {bytes : Bytes} :
    parseHexBytes text = some (.ok bytes) ↔
      (trim text).length = 64 ∧ Reads (trim text) bytes := by
  rw [parseHexBytes_eq_ok, parseChunks_asBytes]
  constructor
  · rintro ⟨hlength, hreads⟩
    have hbytes := parseChunks_length ((parseChunks_asBytes _ _).mpr hreads)
    have htext := hreads.length_eq
    exact ⟨by omega, hreads⟩
  · rintro ⟨hlength, hreads⟩
    have hbytes := parseChunks_length ((parseChunks_asBytes _ _).mpr hreads)
    have htext := hreads.length_eq
    exact ⟨by omega, hreads⟩

theorem reads_iff_signedPairs : ∀ (text : Text),
    (∃ bytes, Reads text bytes) ↔ SignedPairs text
  | [] => ⟨fun _ => trivial, fun _ => ⟨[], trivial⟩⟩
  | [c] => by
      constructor
      · rintro ⟨bytes, hreads⟩
        have hlength := hreads.length_eq
        simp only [List.length_singleton] at hlength
        omega
      · exact False.elim
  | high :: low :: rest => by
      have ih := reads_iff_signedPairs rest
      constructor
      · rintro ⟨bytes, hreads⟩
        cases bytes with
        | nil => exact hreads.elim
        | cons byte bytes =>
            obtain ⟨⟨second, hsecond, hfirst⟩, hrest⟩ := hreads
            refine ⟨?_, by rw [hsecond]; rfl, ih.mp ⟨bytes, hrest⟩⟩
            rcases hfirst with ⟨hplus, _⟩ | ⟨first, hfirst, _⟩
            · exact Or.inl hplus
            · exact Or.inr (by rw [hfirst]; rfl)
      · rintro ⟨hhigh, hlow, hrest⟩
        obtain ⟨bytes, hreads⟩ := ih.mpr hrest
        obtain ⟨second, hsecond⟩ := Option.isSome_iff_exists.mp hlow
        rcases hhigh with hplus | hdigit
        · exact ⟨UInt8.ofNat second :: bytes,
            ⟨second, hsecond, Or.inl ⟨hplus, rfl⟩⟩, hreads⟩
        · obtain ⟨first, hfirst⟩ := Option.isSome_iff_exists.mp hdigit
          exact ⟨UInt8.ofNat (16 * first + second) :: bytes,
            ⟨second, hsecond, Or.inr ⟨first, hfirst, rfl⟩⟩, hreads⟩

/-- Without a plus sign the pairs are all digits. -/
theorem signedPairs_digits : ∀ {text : Text}, SignedPairs text →
    '+' ∉ text → ∀ c ∈ text, (hexValue c).isSome = true
  | [], _, _ => by simp
  | high :: low :: rest, hpairs, hplus => by
      obtain ⟨hhigh, hlow, hrest⟩ := hpairs
      simp only [List.mem_cons, not_or] at hplus
      simp only [List.forall_mem_cons]
      refine ⟨?_, hlow, signedPairs_digits hrest hplus.2.2⟩
      exact hhigh.resolve_left fun heq => hplus.1 heq.symm

theorem signedPairs_of_digits : ∀ {text : Text} {count : Nat},
    text.length = 2 * count → (∀ c ∈ text, (hexValue c).isSome = true) →
    SignedPairs text
  | [], _, _, _ => trivial
  | [_], _, hlength, _ => by
      simp only [List.length_singleton] at hlength
      omega
  | high :: low :: rest, count, hlength, hdigits => by
      simp only [List.forall_mem_cons] at hdigits
      simp only [List.length_cons] at hlength
      refine ⟨Or.inr hdigits.1, hdigits.2.1, ?_⟩
      exact signedPairs_of_digits (show rest.length = 2 * (count - 1) by omega)
        hdigits.2.2

/-- Digits are read as what they denote. -/
theorem Reads.denotes : ∀ {text : Text} {bytes : Bytes}, Reads text bytes →
    '+' ∉ text → Denotes text bytes
  | [], [], _, _ => trivial
  | high :: low :: rest, byte :: bytes, hreads, hplus => by
      obtain ⟨⟨second, hsecond, hfirst⟩, hrest⟩ := hreads
      simp only [List.mem_cons, not_or] at hplus
      refine ⟨?_, hrest.denotes hplus.2.2⟩
      rcases hfirst with ⟨heq, _⟩ | ⟨first, hfirst, rfl⟩
      · exact absurd heq.symm hplus.1
      · have hone := (hexValue_spec hfirst).1
        have htwo := (hexValue_spec hsecond).1
        refine ⟨first, second, hfirst, hsecond, ?_⟩
        rw [UInt8.toNat_ofNat', Nat.mod_eq_of_lt (by omega)]

theorem plus_not_mem_of_isHexKey {text : Text} (hkey : IsHexKey text) :
    '+' ∉ text := by
  intro hmem
  have hdigit := hkey.2 '+' hmem
  rw [show hexValue '+' = none by decide] at hdigit
  cases hdigit

/-- What the parser accepts: a key of 64 digits, or one with signs. -/
theorem parseHexBytes_accepts_iff (text : Text) :
    (∃ bytes, parseHexBytes text = some (.ok bytes)) ↔
      IsHexKey (trim text) ∨ IsSignedKey (trim text) := by
  have haccepts : (∃ bytes, parseHexBytes text = some (.ok bytes)) ↔
      (trim text).length = 64 ∧ SignedPairs (trim text) := by
    rw [← reads_iff_signedPairs]
    simp only [parseHexBytes_eq_ok_iff, exists_and_left]
  rw [haccepts]
  constructor
  · rintro ⟨hlength, hpairs⟩
    by_cases hplus : '+' ∈ trim text
    · exact Or.inr ⟨hlength, hpairs, hplus⟩
    · exact Or.inl ⟨hlength, signedPairs_digits hpairs hplus⟩
  · rintro (⟨hlength, hdigits⟩ | ⟨hlength, hpairs, _⟩)
    · exact ⟨hlength, signedPairs_of_digits (show _ = 2 * 32 from hlength)
        hdigits⟩
    · exact ⟨hlength, hpairs⟩

/-- Both copies return on every text, always the same, and what `add_user`
writes is read back.  They accept exactly the texts of 64 hexadecimal digits,
as the bytes these denote, unless the text is such a key with plus signs. -/
theorem parse_hex_meets_iff (text : Text) (psk : Bytes32) :
    (Auth.parseHex text = Users.parseHex text ∧
      (Users.parseHex text).isSome = true ∧
      Users.parseHex (hexText psk) = some (.ok psk.bytes) ∧
      ((∃ key, Users.parseHex text = some (.ok key)) ↔ IsHexKey (trim text)) ∧
      ∀ key, Users.parseHex text = some (.ok key) → Denotes (trim text) key) ↔
      ¬ IsSignedKey (trim text) := by
  have haccepts := parseHexBytes_accepts_iff text
  constructor
  · rintro ⟨_, _, _, hmeets, _⟩ hsigned
    have hkey := hmeets.mp (haccepts.mpr (Or.inr hsigned))
    exact plus_not_mem_of_isHexKey hkey hsigned.2.2
  · intro hunsigned
    have hdigits : (∃ key, Users.parseHex text = some (.ok key)) ↔
        IsHexKey (trim text) :=
      haccepts.trans (or_iff_left hunsigned)
    refine ⟨rfl, ?_, ?_, hdigits, ?_⟩
    · rcases parseHexBytes_cases text with ⟨bytes, hok, _⟩ | ⟨⟨error, herror⟩, _⟩
      · rw [Users.parseHex, hok]
        rfl
      · rw [Users.parseHex, herror]
        rfl
    · apply parseHexBytes_eq_parseHex.mpr
      have hwritten := parseHex_hexText psk
      rw [trim_hexText] at hwritten
      exact hwritten
    · intro key hkey
      have hhex := hdigits.mp ⟨key, hkey⟩
      exact (parseHexBytes_eq_ok_iff.mp hkey).2.denotes
        (plus_not_mem_of_isHexKey hhex)

/-- A plus sign in place of every first digit. -/
def plusKey : Text := (List.replicate 32 ['+', '0']).flatten

/-- 32 plus signs and 32 zeros are accepted as the key of zeros. -/
theorem parse_hex_accepts_plus :
    Auth.parseHex plusKey = some (.ok (List.replicate 32 0)) ∧
      ¬ IsHexKey (trim plusKey) := by
  have htrim : trim plusKey = plusKey := by decide
  constructor
  · apply parseHexBytes_eq_ok.mpr
    rw [htrim]
    decide
  · rw [htrim]
    intro hkey
    exact plus_not_mem_of_isHexKey hkey (by decide)

end Redpill
