import Gazetteer.Text.Split

/-!
# Location/Host — which host parts a URL may have

The host part of a URL may hold an address in brackets, and then it has to be one of version 6 or of
a future version. A character that stands for a compatible spelling of `/ ? # @ :` may not occur.
-/

namespace Gazetteer.Location

/-- Why the host part of a URL is refused. -/
inductive HostFlaw where
  /-- A bracket without its partner. -/
  | unbalanced
  /-- The address in brackets is none. -/
  | notAddress (host : String)
  /-- The address in brackets is of version 4. -/
  | version4
  /-- The address in brackets begins like one of a future version. -/
  | future
  /-- A character is a compatible spelling of a delimiter. -/
  | delimiter (host : String)
deriving Repr, DecidableEq

/-- The code points whose compatible spelling holds one of `/ ? # @ :`. -/
def delimiterLike : List Nat :=
  [0x2047, 0x2048, 0x2049, 0x2100, 0x2101, 0x2105, 0x2106, 0x2a74, 0xfe13, 0xfe16, 0xfe55, 0xfe56,
    0xfe5f, 0xfe6b, 0xff03, 0xff0f, 0xff1a, 0xff1f, 0xff20]

/-- Whether a character is a digit of ASCII. -/
def isDecimal (c : Char) : Bool := '0' ≤ c && c ≤ '9'

/-- Whether a character is a hexadecimal digit of ASCII. -/
def isHex (c : Char) : Bool := isDecimal c || 'a' ≤ c && c ≤ 'f' || 'A' ≤ c && c ≤ 'F'

/-- A number from 0 to 255 without leading zeros. -/
def isOctet (cs : List Char) : Bool :=
  !cs.isEmpty && cs.all isDecimal && cs.length ≤ 3 && (cs.length = 1 || cs.head? != some '0')
    && cs.foldl (fun n c => 10 * n + (c.toNat - '0'.toNat)) 0 ≤ 255

/-- An address of version 4: four octets between dots. -/
def isVersion4 (cs : List Char) : Bool :=
  let octets := Text.splitOnChar '.' cs
  octets.length = 4 && octets.all isOctet

/-- One to four hexadecimal digits. -/
def isGroup (cs : List Char) : Bool := !cs.isEmpty && cs.length ≤ 4 && cs.all isHex

/-- Eight groups between colons, a run of which may be left out once. -/
def areGroups (parts : List (List Char)) : Bool :=
  let inner := (parts.drop 1).dropLast
  let gaps := (inner.filter List.isEmpty).length
  if parts.length < 3 || parts.length > 9 || gaps > 1 then false
  else if gaps = 1 then
    let before := 1 + (inner.takeWhile (!·.isEmpty)).length
    let high := parts.take before
    let low := parts.drop (before + 1)
    let high' := if high.head? = some [] then high.drop 1 else high
    let low' := if low.getLast? = some [] then low.dropLast else low
    (high' = high || high' = []) && (low' = low || low' = []) && high'.length + low'.length < 8
      && high'.all isGroup && low'.all isGroup
  else parts.length = 8 && parts.all isGroup

/-- An address of version 6, which may end in one of version 4 and name a scope. -/
def isVersion6 (cs : List Char) : Bool :=
  let scope := Text.afterFirst '%' cs
  let hasScope := cs.contains '%'
  if hasScope && (scope.isEmpty || scope.contains '%') then false
  else
    let parts := Text.splitOnChar ':' (Text.beforeFirst '%' cs)
    match parts.getLast? with
    | some last =>
      if last.contains '.' then
        parts.length ≥ 3 && isVersion4 last && areGroups (parts.dropLast ++ [['0'], ['0']])
      else areGroups parts
    | none => false

/-- What is wrong with the text between the brackets of a host part. -/
def bracketFlaw (host : List Char) : Option HostFlaw :=
  match host with
  | 'v' :: rest =>
    let version := rest.takeWhile isHex
    match rest.dropWhile isHex with
    | '.' :: _ :: _ => if version.isEmpty then some .future else none
    | _ => some .future
  | _ =>
    if isVersion4 host then some .version4
    else if isVersion6 host then none
    else some (.notAddress (String.ofList host))

/-- What is wrong with the host part of a URL. -/
def hostFlaw (host : List Char) : Option HostFlaw :=
  let opened := host.contains '['
  let closed := host.contains ']'
  if opened != closed then some .unbalanced
  else
    let bracket :=
      if opened then bracketFlaw (Text.beforeFirst ']' (Text.afterFirst '[' host)) else none
    match bracket with
    | some flaw => some flaw
    | none =>
      if host.any fun c => delimiterLike.contains c.toNat then
        some (.delimiter (String.ofList host))
      else none

end Gazetteer.Location
