import EnvelopeRules.Text.CharSet

/-!
# Addresses of hosts

An address of four octets is written in decimal with points, one of eight groups in hexadecimal with
colons.  A double colon stands for one or more groups of zeros, and the last two groups may be
written as four octets.  The written form of an address shortens its longest run of zero groups, the
first of several, if the run has more than one.
-/

namespace EnvelopeRules

inductive Address where
  | v4 (octets : Vector UInt8 4)
  | v6 (groups : Vector UInt16 8)
  deriving DecidableEq

namespace Address

/-- Cuts a text at every separator. -/
def cut (sep : Char) : List Char → List (List Char)
  | [] => [[]]
  | c :: cs =>
    if c = sep then [] :: cut sep cs
    else match cut sep cs with
      | [] => [[c]]
      | piece :: pieces => (c :: piece) :: pieces

/-- Pieces with a separator between each two. -/
def join (sep : Char) : List (List Char) → List Char
  | [] => []
  | [piece] => piece
  | piece :: pieces => piece ++ sep :: join sep pieces

/-! ## Reading -/

def octet? (cs : List Char) : Option UInt8 :=
  let n := Nat.ofDigitChars 10 cs 0
  if cs.all Char.isDigit ∧ 1 ≤ cs.length ∧ cs.length ≤ 3 ∧
      (cs.head? = some '0' → cs.length = 1) ∧ n ≤ 255
  then some (UInt8.ofNat n) else none

def octets? (cs : List Char) : Option (Vector UInt8 4) :=
  match (cut '.' cs).mapM octet? with
  | some [a, b, c, d] => some #v[a, b, c, d]
  | _ => none

def group? (cs : List Char) : Option UInt16 :=
  if cs.all (fun c => (CharSet.hexDigit? c).isSome) ∧ 1 ≤ cs.length ∧ cs.length ≤ 4
  then some (UInt16.ofNat (CharSet.ofHex cs)) else none

def pair (a b : UInt8) : UInt16 := UInt16.ofNat (a.toNat * 256 + b.toNat)

def groupsOfOctets (o : Vector UInt8 4) : List UInt16 := [pair o[0] o[1], pair o[2] o[3]]

/-- The groups of some pieces, of which the last one may be four octets. -/
def groups? : List (List Char) → Option (List UInt16)
  | [] => some []
  | [piece] =>
    match octets? piece with
    | some o => some (groupsOfOctets o)
    | none => (group? piece).map ([·])
  | piece :: pieces => do return (← group? piece) :: (← groups? pieces)

/-- The pieces between colons; an empty text has none. -/
def pieces (cs : List Char) : List (List Char) := if cs.isEmpty then [] else cut ':' cs

/-- Cuts a text at its first double colon. -/
def cutDouble : List Char → Option (List Char × List Char)
  | ':' :: ':' :: rest => some ([], rest)
  | c :: rest => (cutDouble rest).map fun r => (c :: r.1, r.2)
  | [] => none

def ofGroups? (groups : List UInt16) : Option (Vector UInt16 8) :=
  if h : groups.length = 8 then some ⟨groups.toArray, by simpa using h⟩ else none

def v6? (cs : List Char) : Option (Vector UInt16 8) :=
  match cutDouble cs with
  | none => do ofGroups? (← groups? (pieces cs))
  | some (before, after) => do
    let front ← (pieces before).mapM group?
    let back ← groups? (pieces after)
    if front.length + back.length ≤ 7 then
      ofGroups? (front ++ List.replicate (8 - front.length - back.length) 0 ++ back)
    else none

def parse? (text : String) : Option Address :=
  match octets? text.toList with
  | some o => some (.v4 o)
  | none => (v6? text.toList).map .v6

/-! ## Writing -/

def octetText (n : UInt8) : List Char := Nat.toDigits 10 n.toNat

def octetsText (o : Vector UInt8 4) : List Char := join '.' (o.toList.map octetText)

def groupText (n : UInt16) : List Char := Nat.toDigits 16 n.toNat

def groupsText (groups : List UInt16) : List Char := join ':' (groups.map groupText)

/-- The number of zeros at the front. -/
def zeroRun (groups : List UInt16) : Nat := (groups.takeWhile (· == 0)).length

/-- Where the longest run of zeros begins and how long it is. -/
def longestZeroRun : List UInt16 → Nat × Nat
  | [] => (0, 0)
  | g :: rest =>
    let here := zeroRun (g :: rest)
    let later := longestZeroRun rest
    if later.2 ≤ here then (0, here) else (later.1 + 1, later.2)

def v6Text (groups : List UInt16) : List Char :=
  let run := longestZeroRun groups
  if run.2 ≤ 1 then groupsText groups
  else groupsText (groups.take run.1) ++ "::".toList ++ groupsText (groups.drop (run.1 + run.2))

def lowByte (n : UInt16) : UInt8 := UInt8.ofNat n.toNat

def highByte (n : UInt16) : UInt8 := UInt8.ofNat (n.toNat / 256)

/-- The four octets that an address of eight groups stands for, if it does. -/
def mapped? (groups : Vector UInt16 8) : Option (Vector UInt8 4) :=
  match groups.toList with
  | [0, 0, 0, 0, 0, 0xFFFF, a, b] => some #v[highByte a, lowByte a, highByte b, lowByte b]
  | _ => none

def text : Address → String
  | .v4 o => String.ofList (octetsText o)
  | .v6 groups =>
    match mapped? groups with
    | some o => String.ofList ("::ffff:".toList ++ octetsText o)
    | none => String.ofList (v6Text groups.toList)

end Address
end EnvelopeRules
