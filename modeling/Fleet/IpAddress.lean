/-
# IP addresses

Addresses of both versions: what is read, and the canonical form in which they are written.
-/
namespace Fleet

/-- An IP address. -/
inductive IpAddress where
  /-- An address of four octets. -/
  | v4 (octets : Vector UInt8 4)
  /-- An address of eight groups of 16 bits. -/
  | v6 (groups : Vector UInt16 8)
  deriving DecidableEq

namespace IpAddress

/-- Whether the address has four octets. -/
def isV4 : IpAddress → Bool
  | v4 _ => true
  | v6 _ => false

/-! ## Reading -/

/-- The value of a digit in base 10 or 16. -/
def digit? (base : Nat) (c : Char) : Option Nat :=
  if '0' ≤ c ∧ c ≤ '9' then some (c.toNat - '0'.toNat)
  else if base = 16 ∧ 'a' ≤ c ∧ c ≤ 'f' then some (c.toNat - 'a'.toNat + 10)
  else if base = 16 ∧ 'A' ≤ c ∧ c ≤ 'F' then some (c.toNat - 'A'.toNat + 10)
  else none

/-- Reads all leading digits of a base. -/
def spanDigits (base : Nat) : List Char → List Nat × List Char
  | [] => ([], [])
  | c :: rest =>
    match digit? base c with
    | some d =>
      let (ds, r) := spanDigits base rest
      (d :: ds, r)
    | none => ([], c :: rest)

/-- The number with these digits. -/
def ofDigits (base : Nat) (ds : List Nat) : Nat :=
  ds.foldl (fun acc d => acc * base + d) 0

/-- Reads a decimal octet of up to three digits without leading zeros. -/
def readOctet (cs : List Char) : Option (Nat × List Char) :=
  let (ds, rest) := spanDigits 10 cs
  if ds.isEmpty ∨ 3 < ds.length ∨ (ds.head? = some 0 ∧ ds.length ≠ 1) ∨ 255 < ofDigits 10 ds then
    none
  else some (ofDigits 10 ds, rest)

/-- Reads a group of one to four hexadecimal digits. -/
def readGroup (cs : List Char) : Option (Nat × List Char) :=
  let (ds, rest) := spanDigits 16 cs
  if ds.isEmpty ∨ 4 < ds.length then none else some (ofDigits 16 ds, rest)

/-- Reads octets with points between them. -/
def readOctets : Nat → List Char → Option (List Nat × List Char)
  | 0, cs => some ([], cs)
  | 1, cs => (readOctet cs).map fun (o, rest) => ([o], rest)
  | n + 2, cs =>
    (readOctet cs).bind fun (o, rest) =>
      match rest with
      | '.' :: rest => (readOctets (n + 1) rest).map fun (os, rest) => (o :: os, rest)
      | _ => none

/-- Drops the colon that separates a group from the one before it. -/
def dropColon (first : Bool) (cs : List Char) : Option (List Char) :=
  if first then some cs
  else
    match cs with
    | ':' :: rest => some rest
    | _ => none

/-- Reads at most `limit` groups; the last two may be four octets with points.  Also tells whether
they were. -/
def readGroups (first : Bool) : Nat → List Char → List Nat × Bool × List Char
  | 0, cs => ([], false, cs)
  | limit + 1, cs =>
    match if limit = 0 then none else (dropColon first cs).bind (readOctets 4) with
    | some ([a, b, c, d], rest) => ([a * 256 + b, c * 256 + d], true, rest)
    | _ =>
      match (dropColon first cs).bind readGroup with
      | some (g, rest) =>
        let (gs, dotted, rest) := readGroups false limit rest
        (g :: gs, dotted, rest)
      | none => ([], false, cs)

/-- The address of these octets, if there are four. -/
def ofOctets? (os : List Nat) : Option IpAddress :=
  if h : (os.map UInt8.ofNat).toArray.size = 4 then some (v4 ⟨(os.map UInt8.ofNat).toArray, h⟩)
  else none

/-- The address of these groups, if there are eight. -/
def ofGroups? (gs : List Nat) : Option IpAddress :=
  if h : (gs.map UInt16.ofNat).toArray.size = 8 then some (v6 ⟨(gs.map UInt16.ofNat).toArray, h⟩)
  else none

/-- Reads eight groups, of which a run of one or more zeros may be left out between two colons. -/
def parseV6? (cs : List Char) : Option IpAddress :=
  let (head, dotted, rest) := readGroups true 8 cs
  if head.length = 8 then if rest.isEmpty then ofGroups? head else none
  else if dotted then none
  else
    match rest with
    | ':' :: ':' :: rest =>
      let (tail, _, rest) := readGroups true (7 - head.length) rest
      if rest.isEmpty then
        ofGroups? (head ++ List.replicate (8 - head.length - tail.length) 0 ++ tail)
      else none
    | _ => none

/-- Reads an address of either version. -/
def parse? (s : String) : Option IpAddress :=
  match readOctets 4 s.toList with
  | some (os, rest) => if rest.isEmpty then ofOctets? os else none
  | none => parseV6? s.toList

/-! ## Writing -/

/-- Octets with points between them. -/
def dottedText (os : List Nat) : String :=
  ".".intercalate (os.map toString)

/-- Groups in lower-case hexadecimal digits with colons between them. -/
def groupsText (gs : List Nat) : String :=
  ":".intercalate (gs.map fun g => String.ofList (Nat.toDigits 16 g))

/-- The number of leading zeros of a list. -/
def zeroRun (gs : List Nat) : Nat :=
  (gs.takeWhile (· == 0)).length

/-- The longest run of zeros, the first of equal ones: where it starts and its length. -/
def longestZeroRun (gs : List Nat) : Nat × Nat :=
  (List.range gs.length).foldl
    (fun best i => if best.2 < zeroRun (gs.drop i) then (i, zeroRun (gs.drop i)) else best) (0, 0)

/-- The canonical text. -/
def render : IpAddress → String
  | v4 octets => dottedText (octets.toList.map UInt8.toNat)
  | v6 groups =>
    let gs := groups.toList.map UInt16.toNat
    if zeroRun gs = 5 ∧ gs[5]? = some 0xFFFF then
      "::ffff:" ++ dottedText ((gs.drop 6).flatMap fun g => [g / 256, g % 256])
    else
      let (start, length) := longestZeroRun gs
      if 1 < length then
        groupsText (gs.take start) ++ "::" ++ groupsText (gs.drop (start + length))
      else groupsText gs

instance : ToString IpAddress := ⟨render⟩

end IpAddress

end Fleet
