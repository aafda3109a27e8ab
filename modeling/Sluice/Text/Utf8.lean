/-!
# UTF-8

Text as bytes and back. `decode` names the first byte at which a sequence stops being text.
-/
namespace Sluice.Text.Utf8

/-- The bytes of a text. -/
def encode (s : List Char) : List UInt8 := s.flatMap String.utf8EncodeChar

/-- The bytes of a text. -/
def encodeText (s : String) : List UInt8 := encode s.toList

/-- A byte that continues a character. -/
def isTail (b : UInt8) : Bool := 0x80 ≤ b && b ≤ 0xBF

/-- The number that a continuing byte carries. -/
def tail (b : UInt8) : Nat := b.toNat % 64

/-- Reads characters until a byte that begins none, which is reported by its place. -/
def decodeFrom (i : Nat) (acc : List Char) : List UInt8 → Except Nat (List Char)
  | [] => .ok acc.reverse
  | a :: rest =>
    if a < 0x80 then decodeFrom (i + 1) (Char.ofNat a.toNat :: acc) rest
    else match rest with
    | [] => .error i
    | b :: rest =>
      if 0xC2 ≤ a && a ≤ 0xDF then
        if isTail b then decodeFrom (i + 2) (Char.ofNat (a.toNat % 32 * 64 + tail b) :: acc) rest
        else .error i
      else match rest with
      | [] => .error i
      | c :: rest =>
        if 0xE0 ≤ a && a ≤ 0xEF then
          if isTail b && isTail c && (a != 0xE0 || 0xA0 ≤ b) && (a != 0xED || b ≤ 0x9F) then
            decodeFrom (i + 3)
              (Char.ofNat (a.toNat % 16 * 4096 + tail b * 64 + tail c) :: acc) rest
          else .error i
        else match rest with
        | [] => .error i
        | d :: rest =>
          if 0xF0 ≤ a && a ≤ 0xF4 && isTail b && isTail c && isTail d &&
              (a != 0xF0 || 0x90 ≤ b) && (a != 0xF4 || b ≤ 0x8F) then
            decodeFrom (i + 4)
              (Char.ofNat (a.toNat % 8 * 262144 + tail b * 4096 + tail c * 64 + tail d) :: acc) rest
          else .error i

/-- The text of a sequence of bytes, or the place of the first byte that begins no character. -/
def decode (bytes : List UInt8) : Except Nat (List Char) := decodeFrom 0 [] bytes

/-- The text of a sequence of bytes, if it is text. -/
def decodeText? (bytes : List UInt8) : Option String :=
  match decode bytes with
  | .ok cs => some (String.ofList cs)
  | .error _ => none

/-- How many of the first bytes begin a character that then goes wrong; at least one. -/
def brokenLength : List UInt8 → Nat
  | a :: b :: rest =>
    if 0xE0 ≤ a && a ≤ 0xF4 && isTail b && (a != 0xE0 || 0xA0 ≤ b) && (a != 0xED || b ≤ 0x9F) &&
        (a != 0xF0 || 0x90 ≤ b) && (a != 0xF4 || b ≤ 0x8F) then
      match rest with
      | c :: _ => if 0xF0 ≤ a && isTail c then 3 else 2
      | [] => 2
    else 1
  | _ => 1

/-- The text of a sequence of bytes; every broken character becomes a replacement character. -/
def decodeLossyFrom : Nat → List Char → List UInt8 → List Char
  | 0, acc, _ => acc
  | fuel + 1, acc, bytes =>
    match decode bytes with
    | .ok cs => acc ++ cs
    | .error i =>
      let good := match decode (bytes.take i) with
        | .ok cs => cs
        | .error _ => []
      let rest := bytes.drop i
      decodeLossyFrom fuel (acc ++ good ++ [Char.ofNat 0xFFFD]) (rest.drop (brokenLength rest))

/-- The text of a sequence of bytes, as far as it is text. -/
def decodeLossy (bytes : List UInt8) : String :=
  String.ofList (decodeLossyFrom (bytes.length + 1) [] bytes)

end Sluice.Text.Utf8
