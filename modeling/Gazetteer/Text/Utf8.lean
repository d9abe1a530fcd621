/-!
# Text/Utf8 — text as bytes, and bytes as text

`decodeStep` takes one character, or one stretch of bytes that begins no character, off the front
of a byte sequence. Three readings are built on it:

* `decode?` refuses bytes that are not UTF-8;
* `decodeLossy` writes `U+FFFD` for each such stretch;
* `decodeSymbols` keeps each stray byte beside the characters, so that `encodeSymbols` restores the
  bytes.
-/

namespace Gazetteer.Text

/-- Whether a byte lies in a closed interval. -/
def byteIn (lo hi : Nat) (b : UInt8) : Bool := lo ≤ b.toNat && b.toNat ≤ hi

/-- The payload of a continuation byte. -/
def continuation (b : UInt8) : Nat := b.toNat - 0x80

/-- What stands at the front of a byte sequence: a character, or `none` for bytes that begin no
character; and how many bytes it takes beyond the first. -/
def decodeHead (b : UInt8) (rest : List UInt8) : Option Char × Nat :=
  let two (lo hi lead : Nat) : Option Char × Nat :=
    match rest with
    | c1 :: c2 :: _ =>
      if byteIn lo hi c1 then
        if byteIn 0x80 0xbf c2 then
          (some (Char.ofNat (lead * 0x1000 + continuation c1 * 0x40 + continuation c2)), 2)
        else (none, 1)
      else (none, 0)
    | [c1] => (none, if byteIn lo hi c1 then 1 else 0)
    | [] => (none, 0)
  let three (lo hi lead : Nat) : Option Char × Nat :=
    match rest with
    | c1 :: c2 :: c3 :: _ =>
      if byteIn lo hi c1 then
        if byteIn 0x80 0xbf c2 then
          if byteIn 0x80 0xbf c3 then
            (some (Char.ofNat (lead * 0x40000 + continuation c1 * 0x1000 + continuation c2 * 0x40
              + continuation c3)), 3)
          else (none, 2)
        else (none, 1)
      else (none, 0)
    | [c1, c2] =>
      (none, if byteIn lo hi c1 then (if byteIn 0x80 0xbf c2 then 2 else 1) else 0)
    | [c1] => (none, if byteIn lo hi c1 then 1 else 0)
    | [] => (none, 0)
  let n := b.toNat
  if n < 0x80 then (some (Char.ofNat n), 0)
  else if n < 0xc2 then (none, 0)
  else if n < 0xe0 then
    match rest with
    | c1 :: _ =>
      if byteIn 0x80 0xbf c1 then (some (Char.ofNat ((n - 0xc0) * 0x40 + continuation c1)), 1)
      else (none, 0)
    | [] => (none, 0)
  else if n = 0xe0 then two 0xa0 0xbf 0
  else if n = 0xed then two 0x80 0x9f 0xd
  else if n < 0xf0 then two 0x80 0xbf (n - 0xe0)
  else if n = 0xf0 then three 0x90 0xbf 0
  else if n < 0xf4 then three 0x80 0xbf (n - 0xf0)
  else if n = 0xf4 then three 0x80 0x8f 4
  else (none, 0)

/-- A character, or a byte that is part of none. -/
inductive Symbol where
  | char (c : Char)
  | stray (b : UInt8)
deriving Repr, DecidableEq

/-- Cuts bytes into characters and the stretches between them that are none. -/
def decodePieces (bytes : List UInt8) : List (Char ⊕ List UInt8) :=
  match bytes with
  | [] => []
  | b :: rest =>
    let head := decodeHead b rest
    (match head.1 with
      | some c => Sum.inl c
      | none => Sum.inr (b :: rest.take head.2)) :: decodePieces (rest.drop head.2)
termination_by bytes.length
decreasing_by simp only [List.length_cons, List.length_drop]; omega

/-- The text of bytes that are UTF-8 throughout. -/
def decode? (bytes : List UInt8) : Option (List Char) :=
  (decodePieces bytes).mapM fun
    | .inl c => some c
    | .inr _ => none

/-- The text of bytes, with `U+FFFD` for each stretch that is no character. -/
def decodeLossy (bytes : List UInt8) : List Char :=
  (decodePieces bytes).map fun
    | .inl c => c
    | .inr _ => Char.ofNat 0xfffd

/-- The text of bytes, with stray bytes kept as such. -/
def decodeSymbols (bytes : List UInt8) : List Symbol :=
  (decodePieces bytes).flatMap fun
    | .inl c => [.char c]
    | .inr stretch => stretch.map .stray

/-- The bytes of a character. -/
def encodeChar (c : Char) : List UInt8 :=
  let n := c.toNat
  if n < 0x80 then [UInt8.ofNat n]
  else if n < 0x800 then [UInt8.ofNat (0xc0 + n / 0x40), UInt8.ofNat (0x80 + n % 0x40)]
  else if n < 0x10000 then
    [UInt8.ofNat (0xe0 + n / 0x1000), UInt8.ofNat (0x80 + n / 0x40 % 0x40),
      UInt8.ofNat (0x80 + n % 0x40)]
  else
    [UInt8.ofNat (0xf0 + n / 0x40000), UInt8.ofNat (0x80 + n / 0x1000 % 0x40),
      UInt8.ofNat (0x80 + n / 0x40 % 0x40), UInt8.ofNat (0x80 + n % 0x40)]

/-- The bytes of a text. -/
def encode (cs : List Char) : List UInt8 := cs.flatMap encodeChar

/-- The bytes of a text that may hold stray bytes. -/
def encodeSymbols (symbols : List Symbol) : List UInt8 :=
  symbols.flatMap fun
    | .char c => encodeChar c
    | .stray b => [b]

end Gazetteer.Text
