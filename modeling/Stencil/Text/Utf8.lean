/-!
# UTF-8

Bytes as text. A sequence of bytes that encodes no character is refused with the place where it
starts and ends: a sequence is invalid from its first byte that cannot continue it.
-/

namespace Stencil.Text

/-- What is wrong with a sequence of bytes. -/
inductive Utf8Reason where
  | invalidStart
  | invalidContinuation
  | unexpectedEnd
  deriving DecidableEq, Repr

/-- A sequence of bytes that encodes no character: those from `start` up to, but not with, `stop`. -/
structure Utf8Error where
  reason : Utf8Reason
  first : UInt8
  start : Nat
  stop : Nat
  deriving DecidableEq, Repr

def Utf8Reason.message : Utf8Reason → String
  | invalidStart => "invalid start byte"
  | invalidContinuation => "invalid continuation byte"
  | unexpectedEnd => "unexpected end of data"

def isContinuation (b : UInt8) : Bool :=
  0x80 ≤ b && b < 0xC0

/-- Tells whether `b` can be the second byte after the first byte `a` of three or four. -/
def isSecond (a b : UInt8) : Bool :=
  isContinuation b &&
    (if a = 0xE0 then 0xA0 ≤ b
    else if a = 0xED then b < 0xA0
    else if a = 0xF0 then 0x90 ≤ b
    else if a = 0xF4 then b < 0x90
    else true)

/-- The character of a first byte, without its `marker`, and the continuation bytes after it. -/
def joinBytes (first : UInt8) (marker : Nat) (more : List UInt8) : Char :=
  Char.ofNat (more.foldl (fun n b => n * 64 + (b.toNat - 0x80)) (first.toNat - marker))

def decodeFrom (pos : Nat) : List UInt8 → Except Utf8Error (List Char)
  | [] => .ok []
  | a :: rest =>
    if a < 0x80 then do
      return Char.ofNat a.toNat :: (← decodeFrom (pos + 1) rest)
    else if a < 0xC2 || 0xF5 ≤ a then .error ⟨.invalidStart, a, pos, pos + 1⟩
    else if a < 0xE0 then
      match rest with
      | [] => .error ⟨.unexpectedEnd, a, pos, pos + 1⟩
      | b :: rest =>
        if isContinuation b then do
          return joinBytes a 0xC0 [b] :: (← decodeFrom (pos + 2) rest)
        else .error ⟨.invalidContinuation, a, pos, pos + 1⟩
    else
      match rest with
      | [] => .error ⟨.unexpectedEnd, a, pos, pos + 1⟩
      | b :: rest =>
        if !isSecond a b then .error ⟨.invalidContinuation, a, pos, pos + 1⟩
        else
          match rest with
          | [] => .error ⟨.unexpectedEnd, a, pos, pos + 2⟩
          | c :: rest =>
            if !isContinuation c then .error ⟨.invalidContinuation, a, pos, pos + 2⟩
            else if a < 0xF0 then do
              return joinBytes a 0xE0 [b, c] :: (← decodeFrom (pos + 3) rest)
            else
              match rest with
              | [] => .error ⟨.unexpectedEnd, a, pos, pos + 3⟩
              | d :: rest =>
                if isContinuation d then do
                  return joinBytes a 0xF0 [b, c, d] :: (← decodeFrom (pos + 4) rest)
                else .error ⟨.invalidContinuation, a, pos, pos + 3⟩

def decodeUtf8 (bytes : List UInt8) : Except Utf8Error String :=
  (decodeFrom 0 bytes).map String.ofList

def encodeUtf8 (text : String) : List UInt8 :=
  text.toUTF8.toList

def hexByte (b : UInt8) : String :=
  String.ofList [Nat.digitChar (b.toNat / 16), Nat.digitChar (b.toNat % 16)]

def Utf8Error.message (e : Utf8Error) : String :=
  let place :=
    if e.stop = e.start + 1 then s!"byte 0x{hexByte e.first} in position {e.start}"
    else s!"bytes in position {e.start}-{e.stop - 1}"
  s!"'utf-8' codec can't decode {place}: {e.reason.message}"

end Stencil.Text
