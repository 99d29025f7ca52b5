import AgentWire.Text.Numeral
import AgentWire.Text.Utf8
/-!
Percent signs as escapes: `%` and two hexadecimal digits stand for a byte. What is not allowed as it
is gets written byte by byte; reading puts the bytes together again.
-/
namespace AgentWire.Percent

def hexDigit (n : Nat) : Char :=
  Char.ofNat (if n < 10 then 48 + n else 55 + n)

def escapeByte (b : UInt8) : List Char :=
  ['%', hexDigit (b.toNat / 16), hexDigit (b.toNat % 16)]

/-- Escapes what is not allowed. Escapes that are there stay. -/
def escape (allowed : Char → Bool) : List Char → List Char
  | '%' :: a :: b :: rest =>
    if Numeral.isHexDigit a && Numeral.isHexDigit b then '%' :: a :: b :: escape allowed rest
    else (if allowed '%' then ['%'] else escapeByte 0x25) ++ escape allowed (a :: b :: rest)
  | c :: rest =>
    (if allowed c then [c] else (Utf8.encode [c]).flatMap escapeByte) ++ escape allowed rest
  | [] => []

def bytes : List Char → List UInt8
  | '%' :: a :: b :: rest => match Numeral.hexDigit? a, Numeral.hexDigit? b with
    | some high, some low => UInt8.ofNat (high * 16 + low) :: bytes rest
    | _, _ => 0x25 :: bytes (a :: b :: rest)
  | c :: rest => UInt8.ofNat c.toNat :: bytes rest
  | [] => []

/-- The text that a text in ASCII stands for. Bytes that are no text are replaced. -/
def unescape (cs : List Char) : List Char :=
  Utf8.repair (bytes cs)

end AgentWire.Percent
