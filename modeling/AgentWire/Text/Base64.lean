/-!
Bytes as text in base 64. Text is written in lines of 76 characters; reading skips every character
that is no digit, and a text that stops in the middle of a group has no bytes.
-/
namespace AgentWire.Base64

def alphabet : List Char :=
  "ABCDEFGHIJKLMNOPQRSTUVWXYZabcdefghijklmnopqrstuvwxyz0123456789+/".toList

def digit (n : Nat) : Char :=
  (alphabet[n % 64]?).getD 'A'

def value? (c : Char) : Option Nat :=
  alphabet.findIdx? (· = c)

def digits : List UInt8 → List Char
  | [] => []
  | [a] => [digit (a.toNat / 4), digit (a.toNat % 4 * 16), '=', '=']
  | [a, b] =>
    [digit (a.toNat / 4), digit (a.toNat % 4 * 16 + b.toNat / 16), digit (b.toNat % 16 * 4), '=']
  | a :: b :: c :: rest =>
    digit (a.toNat / 4) :: digit (a.toNat % 4 * 16 + b.toNat / 16) ::
      digit (b.toNat % 16 * 4 + c.toNat / 64) :: digit (c.toNat % 64) :: digits rest

def inLines (width : Nat) : Nat → List Char → List Char
  | _, [] => []
  | 0, c :: rest => c :: inLines width (width - 1) rest
  | room + 1, c :: rest =>
    if room = 0 || rest.isEmpty then c :: '\n' :: inLines width width rest
    else c :: inLines width room rest

/-- The text of bytes; each line has its line feed, no bytes have no line. -/
def encode (bytes : List UInt8) : List Char :=
  inLines 76 76 (digits bytes)

/-- How much of a group of four digits has been read, and the bits of it that made no byte yet. -/
inductive Group where
  | none
  | one (bits : Nat)
  | two (bits : Nat)
  | three (bits : Nat)

/-- Reads on inside a group. `pads` counts the padding signs just before; enough of them end the
text. -/
def decodeFrom (group : Group) (pads : Nat) : List Char → Option (List UInt8)
  | [] => match group with
    | .none => some []
    | _ => none
  | c :: rest =>
    if c = '=' then match group with
      | .two _ => if 1 ≤ pads then some [] else decodeFrom group (pads + 1) rest
      | .three _ => some []
      | _ => decodeFrom group pads rest
    else match value? c, group with
      | none, _ => decodeFrom group pads rest
      | some n, .none => decodeFrom (.one n) 0 rest
      | some n, .one bits =>
        (decodeFrom (.two (n % 16)) 0 rest).map (UInt8.ofNat (bits * 4 + n / 16) :: ·)
      | some n, .two bits =>
        (decodeFrom (.three (n % 4)) 0 rest).map (UInt8.ofNat (bits * 16 + n / 4) :: ·)
      | some n, .three bits => (decodeFrom .none 0 rest).map (UInt8.ofNat (bits * 64 + n) :: ·)

def decode (text : List Char) : Option (List UInt8) :=
  decodeFrom .none 0 text

end AgentWire.Base64
