/-!
Text in bytes: UTF-8, read and written, and line ends. Reading stops at the first fault or puts
U+FFFD for each one; both walk the bytes with the same step, so they agree on what a fault is and
how many bytes belong to it. A text file may end its lines in a line feed, a carriage return or
both; once it has been read, only line feeds are left.
-/
namespace AgentWire.Utf8

inductive Fault where
  | startByte
  | continuationByte
  | endOfData
  deriving DecidableEq, Repr

def Fault.reason : Fault → String
  | .startByte => "invalid start byte"
  | .continuationByte => "invalid continuation byte"
  | .endOfData => "unexpected end of data"

/-- A character or a fault, with the number of bytes after the first that it takes. -/
inductive Step where
  | char (c : Char) (more : Nat)
  | fault (f : Fault) (more : Nat)

def isContinuation (b : UInt8) : Bool :=
  0x80 ≤ b && b < 0xC0

def payload (b : UInt8) : Nat :=
  b.toNat % 64

/-- Whether `b` may follow the lead byte `lead`: no overlong form, no surrogate, nothing above
U+10FFFF. -/
def follows (lead b : UInt8) : Bool :=
  isContinuation b &&
    (lead != 0xE0 || 0xA0 ≤ b) && (lead != 0xED || b < 0xA0) &&
    (lead != 0xF0 || 0x90 ≤ b) && (lead != 0xF4 || b < 0x90)

def step (b : UInt8) (rest : List UInt8) : Step :=
  if b < 0x80 then .char (Char.ofNat b.toNat) 0
  else if b < 0xC2 || 0xF4 < b then .fault .startByte 0
  else match rest with
    | [] => .fault .endOfData 0
    | b1 :: rest1 =>
      if !follows b b1 then .fault .continuationByte 0
      else if b < 0xE0 then .char (Char.ofNat (b.toNat % 32 * 64 + payload b1)) 1
      else match rest1 with
        | [] => .fault .endOfData 1
        | b2 :: rest2 =>
          if !isContinuation b2 then .fault .continuationByte 1
          else if b < 0xF0 then
            .char (Char.ofNat ((b.toNat % 16 * 64 + payload b1) * 64 + payload b2)) 2
          else match rest2 with
            | [] => .fault .endOfData 2
            | b3 :: _ =>
              if !isContinuation b3 then .fault .continuationByte 2
              else .char (Char.ofNat
                (((b.toNat % 8 * 64 + payload b1) * 64 + payload b2) * 64 + payload b3)) 3

/-- Reads bytes after passing over `skip` of them; the first fault ends it. -/
def decodeFrom : Nat → List UInt8 → Except Fault (List Char)
  | _, [] => .ok []
  | skip + 1, _ :: rest => decodeFrom skip rest
  | 0, b :: rest => match step b rest with
    | .char c more => (decodeFrom more rest).map (c :: ·)
    | .fault f _ => .error f

def decode (bytes : List UInt8) : Except Fault (List Char) :=
  decodeFrom 0 bytes

/-- As `decodeFrom`, with U+FFFD for every fault. -/
def repairFrom : Nat → List UInt8 → List Char
  | _, [] => []
  | skip + 1, _ :: rest => repairFrom skip rest
  | 0, b :: rest => match step b rest with
    | .char c more => c :: repairFrom more rest
    | .fault _ more => '\ufffd' :: repairFrom more rest

def repair (bytes : List UInt8) : List Char :=
  repairFrom 0 bytes

def encode (text : List Char) : List UInt8 :=
  text.flatMap String.utf8EncodeChar

end AgentWire.Utf8

namespace AgentWire

def unifyLineEnds : List Char → List Char
  | [] => []
  | '\r' :: '\n' :: rest => '\n' :: unifyLineEnds rest
  | c :: rest => (if c = '\r' then '\n' else c) :: unifyLineEnds rest

end AgentWire
