namespace CatalogIntake.Text.Utf8

def isContinuation (n : Nat) : Bool := 0x80 ≤ n && n ≤ 0xbf

/-- The character at the front and the number of octets after its first one.
Overlong forms, surrogates and values above U+10FFFF are no characters. -/
def leading : List UInt8 → Option (Char × Nat)
  | [] => none
  | b0 :: rest =>
    let n0 := b0.toNat
    if n0 < 0x80 then some (Char.ofNat n0, 0)
    else match rest with
      | [] => none
      | b1 :: rest =>
        let n1 := b1.toNat
        if 0xc2 ≤ n0 && n0 ≤ 0xdf then
          if isContinuation n1 then some (Char.ofNat ((n0 - 0xc0) * 64 + (n1 - 0x80)), 1) else none
        else match rest with
          | [] => none
          | b2 :: rest =>
            let n2 := b2.toNat
            if 0xe0 ≤ n0 && n0 ≤ 0xef then
              if isContinuation n1 && isContinuation n2 && (n0 != 0xe0 || 0xa0 ≤ n1)
                  && (n0 != 0xed || n1 ≤ 0x9f) then
                some (Char.ofNat ((n0 - 0xe0) * 4096 + (n1 - 0x80) * 64 + (n2 - 0x80)), 2)
              else none
            else match rest with
              | [] => none
              | b3 :: _ =>
                let n3 := b3.toNat
                if 0xf0 ≤ n0 && n0 ≤ 0xf4 && isContinuation n1 && isContinuation n2
                    && isContinuation n3 && (n0 != 0xf0 || 0x90 ≤ n1)
                    && (n0 != 0xf4 || n1 ≤ 0x8f) then
                  some (Char.ofNat ((n0 - 0xf0) * 262144 + (n1 - 0x80) * 4096
                    + (n2 - 0x80) * 64 + (n3 - 0x80)), 3)
                else none

/-- Decodes from position `index` on, after `skip` octets of a character already taken. -/
def decodeFrom (index : Nat) (skip : Nat) : List UInt8 → Except Nat (List Char)
  | [] => .ok []
  | b :: rest =>
    match skip with
    | more + 1 => decodeFrom (index + 1) more rest
    | 0 =>
      match leading (b :: rest) with
      | none => .error index
      | some (c, more) => (decodeFrom (index + 1) more rest).map (c :: ·)

/-- The text of the octets, or the length of the longest decodable prefix that ends at the fault. -/
def decode (octets : List UInt8) : Except Nat String :=
  (decodeFrom 0 0 octets).map String.ofList

def encode (s : String) : List UInt8 := s.toUTF8.toList

def canBegin (b0 b1 : UInt8) : Bool :=
  let n0 := b0.toNat
  let n1 := b1.toNat
  0xe0 ≤ n0 && n0 ≤ 0xf4 && isContinuation n1 && (n0 != 0xe0 || 0xa0 ≤ n1)
    && (n0 != 0xed || n1 ≤ 0x9f) && (n0 != 0xf0 || 0x90 ≤ n1) && (n0 != 0xf4 || n1 ≤ 0x8f)

/-- The octets after the first that a fault takes up: those that a character could go on with. -/
def faultLength : List UInt8 → Nat
  | b0 :: b1 :: rest =>
    if !canBegin b0 b1 then 0
    else if 0xf0 ≤ b0.toNat && rest.head?.any (fun b => isContinuation b.toNat) then 2
    else 1
  | _ => 0

def decodeLossyFrom (skip : Nat) : List UInt8 → List Char
  | [] => []
  | b :: rest =>
    match skip with
    | more + 1 => decodeLossyFrom more rest
    | 0 =>
      match leading (b :: rest) with
      | some (c, more) => c :: decodeLossyFrom more rest
      | none => '\uFFFD' :: decodeLossyFrom (faultLength (b :: rest)) rest

/-- The text of the octets, with a replacement character for every fault. -/
def decodeLossy (octets : List UInt8) : String := String.ofList (decodeLossyFrom 0 octets)

end CatalogIntake.Text.Utf8
