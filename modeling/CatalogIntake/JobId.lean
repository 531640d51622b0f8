import CatalogIntake.Text.Digit

namespace CatalogIntake

open Text

structure JobId where
  value : BitVec 128
  deriving DecidableEq, Repr, Inhabited

namespace JobId

def hexDigits (id : JobId) : List Char :=
  let digits := Nat.toDigits 16 id.value.toNat
  List.replicate (32 - digits.length) '0' ++ digits

def text (id : JobId) : String :=
  let d := id.hexDigits
  String.ofList (d.take 8 ++ '-' :: (d.drop 8).take 4 ++ '-' :: (d.drop 12).take 4
    ++ '-' :: (d.drop 16).take 4 ++ '-' :: d.drop 20)

inductive ReadError
  | character (found : Char) (index : Nat)
  | length (found : Nat)
  | groupCount (found : Nat)
  | groupLength (group expected found : Nat)
  deriving DecidableEq, Repr

def ReadError.message : ReadError → String
  | .character c index => s!"UUID parsing failed: invalid character: found `{c}` at {index}"
  | .length n => s!"UUID parsing failed: invalid length: found {n}"
  | .groupCount n => s!"UUID parsing failed: invalid group count: expected 5, found {n}"
  | .groupLength group expected found =>
    s!"UUID parsing failed: invalid group length in group {group}: expected {expected}, " ++
      s!"found {found}"

def ofHex? (digits : List Char) : Option JobId :=
  if digits.length = 32 then
    (digits.foldlM (fun n c => (hexValue? c).map (n * 16 + ·)) 0).map fun n => ⟨BitVec.ofNat 128 n⟩
  else none

def hyphenPlaces : List Nat := [8, 13, 18, 23]

def ofHyphenated? (cs : List Char) : Option JobId :=
  if cs.length = 36 && hyphenPlaces.all (fun i => cs[i]? == some '-') then
    ofHex? ((cs.zipIdx.filter fun p => !hyphenPlaces.contains p.2).map (·.1))
  else none

def urn : List Char := "urn:uuid:".toList

def braced? (cs : List Char) : Option (List Char) :=
  if cs.head? = some '\x7b' && cs.getLast? = some '\x7d' && cs.length ≥ 2 then
    some (cs.drop 1).dropLast
  else none

def afterUrn? (cs : List Char) : Option (List Char) :=
  if urn.isPrefixOf (cs.map Char.toLower) then some (cs.drop urn.length) else none

def longest : Nat := 45

/-- The hyphenated digits of a text whose size in octets fits a written form. -/
def hyphenated? (size : Nat) (cs : List Char) : Option (List Char) :=
  match size with
  | 36 => some cs
  | 38 => braced? cs
  | 45 => afterUrn? cs
  | _ => none

/-- The first character that is neither a digit nor a hyphen, with its place in octets. -/
def stray? (index : Nat) : List Char → Option ReadError
  | [] => none
  | c :: rest =>
    if c = '-' || (hexValue? c).isSome then stray? (index + c.utf8Size) rest
    else some (.character c index)

def groupSizes : List Nat := [8, 4, 4, 4, 12]

def wrongGroup? (group : Nat) : List Nat → List Nat → Option ReadError
  | expected :: sizes, found :: founds =>
    if found = expected then wrongGroup? (group + 1) sizes founds
    else some (.groupLength group expected found)
  | _, _ => none

def groupLengths (cs : List Char) : List Nat := (cs.splitOn '-').map List.length

/-- The fault of `body`, which starts at octet `start` of a text of `size` octets; digits alone are
faulted for their number, and any others for their groups. -/
def fault (body : List Char) (start size : Nat) (alone : Bool) : ReadError :=
  match stray? start body with
  | some found => found
  | none =>
    let groups := groupLengths body
    if groups.length = 1 && alone then .length size
    else if groups.length ≠ 5 then .groupCount groups.length
    else (wrongGroup? 0 (groupSizes.take 4) (groups.take 4)).getD (.groupLength 4 12 (size - 24))

def misshapen (size : Nat) (cs : List Char) : ReadError :=
  if size > longest then .length size
  else match braced? cs, afterUrn? cs with
    | some body, _ => fault body 1 size false
    | none, some body => fault body urn.length size false
    | none, none => fault cs 0 size true

def read (s : String) : Except ReadError JobId :=
  let cs := s.toList
  let size := s.utf8ByteSize
  if size = 32 then
    match ofHex? cs with
    | some id => .ok id
    | none => .error (fault cs 0 size true)
  else match hyphenated? size cs with
    | some body =>
      match ofHyphenated? body with
      | some id => .ok id
      | none => .error (fault body 0 36 false)
    | none => .error (misshapen size cs)

end JobId

end CatalogIntake
