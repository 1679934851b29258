import ShortLinks.Record.Error
import ShortLinks.Text.Shortest
import ShortLinks.Text.Utf8

/-!
# Tokens of records

Words, strings and numbers, read from the front of a byte string. A reader gives back what follows its
token; if it stops instead, it says why and how many bytes had not been read by then. Strings and numbers
are read in two ways: with their value, or only to be skipped, which is less strict about both.
-/

set_option autoImplicit false

namespace ShortLinks.Record

/-- Why reading stopped, and how many bytes were left. -/
structure Stop where
  reason : Reason
  left : Nat
deriving DecidableEq, Repr

abbrev Scan (α : Type) := Except Stop (α × Bytes)

def stopAt (reason : Reason) (rest : Bytes) : Stop := ⟨reason, rest.length⟩

/-- Stops at the first byte of `rest`, which counts as read. -/
def stopPast (reason : Reason) (rest : Bytes) : Stop := ⟨reason, rest.length - 1⟩

def skipBlanks (s : Bytes) : Bytes := s.dropWhile Bytes.isRecordBlank

def skipDigits (s : Bytes) : Bytes := s.dropWhile Bytes.isDigit

def word : Bytes → Bytes → Except Stop Bytes
  | [], s => .ok s
  | _ :: _, [] => .error (stopAt .endInValue [])
  | w :: ws, b :: s => if b = w then word ws s else .error (stopAt .expectedWord s)

def nullTail : Bytes := [117, 108, 108]
def trueTail : Bytes := [114, 117, 101]
def falseTail : Bytes := [97, 108, 115, 101]

def quote : UInt8 := 34
def backslash : UInt8 := 92

def simpleEscape? (b : UInt8) : Option UInt8 :=
  if b = 34 ∨ b = 92 ∨ b = 47 then some b
  else if b = 98 then some 8
  else if b = 102 then some 12
  else if b = 110 then some 10
  else if b = 114 then some 13
  else if b = 116 then some 9
  else none

def hex4? (a b c d : UInt8) : Option Nat := do
  let w ← Bytes.hexValue? a
  let x ← Bytes.hexValue? b
  let y ← Bytes.hexValue? c
  let z ← Bytes.hexValue? d
  return 4096 * w + 256 * x + 16 * y + z

def isLeadingSurrogate (n : Nat) : Bool := 0xD800 ≤ n && n ≤ 0xDBFF

def isTrailingSurrogate (n : Nat) : Bool := 0xDC00 ≤ n && n ≤ 0xDFFF

def codePoint (n : Nat) : Bytes := String.utf8EncodeChar (Char.ofNat n)

def Scan.prepend (front : Bytes) (r : Scan Bytes) : Scan Bytes := r.map fun (b, rest) => (front ++ b, rest)

def readChars : Bytes → Scan Bytes
  | [] => .error (stopAt .endInString [])
  | b :: s =>
    if b = quote then .ok ([], s)
    else if b = backslash then
      match s with
      | [] => .error (stopAt .endInString [])
      | 117 :: w :: x :: y :: z :: s =>
        match hex4? w x y z with
        | none => .error (stopAt .invalidEscape s)
        | some n =>
          if isTrailingSurrogate n then .error (stopAt .loneSurrogate s)
          else if isLeadingSurrogate n then
            match s with
            | [] => .error (stopAt .endInString [])
            | 92 :: [] => .error (stopAt .endInString [])
            | 92 :: 117 :: w :: x :: y :: z :: s =>
              match hex4? w x y z with
              | none => .error (stopAt .invalidEscape s)
              | some m =>
                if isTrailingSurrogate m then
                  (readChars s).prepend (codePoint (0x10000 + 1024 * (n - 0xD800) + (m - 0xDC00)))
                else .error (stopAt .loneSurrogate s)
            | 92 :: 117 :: _ => .error (stopAt .endInString [])
            | 92 :: _ :: s => .error (stopAt .unpairedEscape s)
            | _ :: s => .error (stopAt .unpairedEscape s)
          else (readChars s).prepend (codePoint n)
      | 117 :: _ => .error (stopAt .endInString [])
      | e :: s =>
        match simpleEscape? e with
        | some c => (readChars s).prepend [c]
        | none => .error (stopAt .invalidEscape s)
    else if b < 32 then .error (stopAt .controlCharacter s)
    else (readChars s).prepend [b]

theorem readChars_quote (s : Bytes) : readChars (quote :: s) = .ok ([], s) := by
  rw [readChars.eq_def]
  exact if_pos rfl

theorem readChars_plain {b : UInt8} (hq : b ≠ quote) (hb : b ≠ backslash) (hc : ¬ b < 32) (s : Bytes) :
    readChars (b :: s) = (readChars s).prepend [b] := by
  conv => lhs; rw [readChars.eq_def]
  simp [hq, hb, hc]

theorem readChars_simple {e c : UInt8} (h : simpleEscape? e = some c) (s : Bytes) :
    readChars (backslash :: e :: s) = (readChars s).prepend [c] := by
  have he : e ≠ 117 := by
    rintro rfl
    simp [simpleEscape?] at h
  rw [readChars.eq_def]
  simp [backslash, quote, h, he]

theorem readChars_unicode {w x y z : UInt8} {n : Nat} (h : hex4? w x y z = some n)
    (ht : isTrailingSurrogate n = false) (hl : isLeadingSurrogate n = false) (s : Bytes) :
    readChars (backslash :: 117 :: w :: x :: y :: z :: s) = (readChars s).prepend (codePoint n) := by
  rw [readChars.eq_def]
  simp [backslash, quote, h, ht, hl]

theorem readChars_pair {w x y z w' x' y' z' : UInt8} {n m : Nat} (h : hex4? w x y z = some n)
    (hl : isLeadingSurrogate n = true) (h' : hex4? w' x' y' z' = some m) (ht : isTrailingSurrogate m = true)
    (s : Bytes) :
    readChars (backslash :: 117 :: w :: x :: y :: z :: backslash :: 117 :: w' :: x' :: y' :: z' :: s) =
      (readChars s).prepend (codePoint (0x10000 + 1024 * (n - 0xD800) + (m - 0xDC00))) := by
  have hn : isTrailingSurrogate n = false := by
    simp [isTrailingSurrogate, isLeadingSurrogate] at hl ⊢
    omega
  rw [readChars.eq_def]
  simp [backslash, quote, h, hl, hn, h', ht]

/-- Reads a string after its opening quote. One that is no text stops as far before its end as its first fault
comes before the end of what it stands for. -/
def readText (s : Bytes) : Scan String :=
  match readChars s with
  | .error e => .error e
  | .ok (raw, rest) =>
    match Bytes.text? raw with
    | some t => .ok (t, rest)
    | none => .error ⟨.invalidCodePoint, rest.length + (raw.length - Text.Utf8.soundLength raw)⟩

/-- Skips a string after its opening quote. Its bytes need not be text, and escapes may name surrogates
that stand alone. -/
def skipChars : Bytes → Except Stop Bytes
  | [] => .error (stopAt .endInString [])
  | b :: s =>
    if b = quote then .ok s
    else if b = backslash then
      match s with
      | [] => .error (stopAt .endInString [])
      | 117 :: w :: x :: y :: z :: s =>
        match hex4? w x y z with
        | none => .error (stopAt .invalidEscape s)
        | some _ => skipChars s
      | 117 :: _ => .error (stopAt .endInString [])
      | e :: s =>
        match simpleEscape? e with
        | some _ => skipChars s
        | none => .error (stopAt .invalidEscape s)
    else if b < 32 then .error (stopAt .controlCharacter (b :: s))
    else skipChars s

theorem skipChars_quote (s : Bytes) : skipChars (quote :: s) = .ok s := by
  rw [skipChars.eq_def]
  exact if_pos rfl

theorem skipChars_plain {b : UInt8} (hq : b ≠ quote) (hb : b ≠ backslash) (hc : ¬ b < 32) (s : Bytes) :
    skipChars (b :: s) = skipChars s := by
  conv => lhs; rw [skipChars.eq_def]
  simp [hq, hb, hc]

theorem skipChars_simple {e c : UInt8} (h : simpleEscape? e = some c) (s : Bytes) :
    skipChars (backslash :: e :: s) = skipChars s := by
  have he : e ≠ 117 := by
    rintro rfl
    simp [simpleEscape?] at h
  rw [skipChars.eq_def]
  simp [backslash, quote, h, he]

theorem skipChars_unicode {w x y z : UInt8} {n : Nat} (h : hex4? w x y z = some n) (s : Bytes) :
    skipChars (backslash :: 117 :: w :: x :: y :: z :: s) = skipChars s := by
  rw [skipChars.eq_def]
  simp [backslash, quote, h]

def isExponentMark (b : UInt8) : Bool := b == 101 || b == 69

def isSign (b : UInt8) : Bool := b == 43 || b == 45

def skipSign : Bytes → Bytes
  | b :: s => if isSign b then s else b :: s
  | [] => []

def skipExponent (s : Bytes) : Except Stop Bytes :=
  match skipSign s with
  | [] => .error (stopAt .invalidNumber [])
  | b :: s => if Bytes.isDigit b then .ok (skipDigits s) else .error (stopAt .invalidNumber s)

def skipExponentPart : Bytes → Except Stop Bytes
  | b :: s => if isExponentMark b then skipExponent s else .ok (b :: s)
  | [] => .ok []

def skipFraction : Bytes → Except Stop Bytes
  | 46 :: s =>
    if (skipDigits s).length = s.length then .error (stopPast .invalidNumber s)
    else skipExponentPart (skipDigits s)
  | s => skipExponentPart s

def skipNumber : Bytes → Except Stop Bytes
  | [] => .error (stopAt .invalidNumber [])
  | b :: s =>
    if b = 48 then
      if s.head?.any Bytes.isDigit then .error (stopPast .invalidNumber s) else skipFraction s
    else if Bytes.isDigit b then skipFraction (skipDigits s)
    else .error (stopAt .invalidNumber s)

/-- A number that is not whole or needs more than sixty-four bits. Powers of ten are applied to the
leading digits in one step of rounding each. -/
def scaleDown (f : Float) (exponent : Nat) : Float :=
  if exponent ≤ 308 then f / Float.ofScientific 1 false exponent
  else if f == 0 then f
  else scaleDown (f / Float.ofScientific 1 false 308) (exponent - 308)
termination_by exponent

def floating (negative : Bool) (f : Float) : Found :=
  .floating (Text.Shortest.text (if negative then -f else f))

def scaled (negative : Bool) (digits : Nat) (exponent : Int) (rest : Bytes) : Scan Found :=
  let f := (UInt64.ofNat digits).toFloat
  if exponent < 0 then .ok (floating negative (scaleDown f (-exponent).toNat), rest)
  else if exponent ≤ 308 then
    let g := f * Float.ofScientific 1 false exponent.toNat
    if g.isInf then .error (stopAt .numberOutOfRange rest) else .ok (floating negative g, rest)
  else if digits = 0 then .ok (floating negative f, rest)
  else .error (stopAt .numberOutOfRange rest)

def digitOf (b : UInt8) : Nat := b.toNat - 48

def readExponentDigits (negative negativeExponent : Bool) (digits : Nat) (start : Int) :
    Nat → Bytes → Scan Found
  | exponent, [] => scaled negative digits (if negativeExponent then start - exponent else start + exponent) []
  | exponent, b :: s =>
    if Bytes.isDigit b then
      if 2147483647 < 10 * exponent + digitOf b then
        if digits ≠ 0 ∧ !negativeExponent then .error (stopAt .numberOutOfRange s)
        else .ok (floating negative 0, skipDigits s)
      else readExponentDigits negative negativeExponent digits start (10 * exponent + digitOf b) s
    else scaled negative digits (if negativeExponent then start - exponent else start + exponent) (b :: s)

def readExponent (negative : Bool) (digits : Nat) (start : Int) (s : Bytes) : Scan Found :=
  match skipSign s with
  | [] => .error (stopAt .endInValue [])
  | b :: t =>
    if Bytes.isDigit b then
      readExponentDigits negative (s.head? == some 45) digits start (digitOf b) t
    else .error (stopAt .invalidNumber t)

def readExponentPart (negative : Bool) (digits : Nat) (start : Int) : Bytes → Scan Found
  | b :: s => if isExponentMark b then readExponent negative digits start s else scaled negative digits start (b :: s)
  | [] => scaled negative digits start []

/-- Digits that sixty-four bits hold; further digits of a fraction are dropped. -/
def takesDigit (digits : Nat) (b : UInt8) : Bool := 10 * digits + digitOf b < Nat.pow 2 64

/-- Reads the digits of a fraction, of which `places` have been read. -/
def readFractionDigits (negative : Bool) (start : Int) (digits places : Nat) : Bytes → Scan Found
  | [] => if places = 0 then .error (stopAt .endInValue []) else readExponentPart negative digits (start - places) []
  | b :: s =>
    if Bytes.isDigit b then
      if takesDigit digits b then readFractionDigits negative start (10 * digits + digitOf b) (places + 1) s
      else readExponentPart negative digits (start - places) (skipDigits (b :: s))
    else if places = 0 then .error (stopPast .invalidNumber (b :: s))
    else readExponentPart negative digits (start - places) (b :: s)

/-- Reads whole digits beyond sixty-four bits; each only raises the exponent. -/
def readLongDigits (negative : Bool) (digits extra : Nat) : Bytes → Scan Found
  | 46 :: s => readFractionDigits negative extra digits 0 s
  | b :: s =>
    if Bytes.isDigit b then readLongDigits negative digits (extra + 1) s
    else readExponentPart negative digits extra (b :: s)
  | [] => readExponentPart negative digits extra []

def whole (negative : Bool) (digits : Nat) : Found :=
  if !negative then .unsigned digits
  else if 0 < digits ∧ digits ≤ Nat.pow 2 63 then .signed (-digits)
  else floating true (UInt64.ofNat digits).toFloat

def readWholeEnd (negative : Bool) (digits : Nat) : Bytes → Scan Found
  | 46 :: s => readFractionDigits negative 0 digits 0 s
  | b :: s => if isExponentMark b then readExponent negative digits 0 s else .ok (whole negative digits, b :: s)
  | [] => .ok (whole negative digits, [])

def readWholeDigits (negative : Bool) (digits : Nat) : Bytes → Scan Found
  | [] => readWholeEnd negative digits []
  | b :: s =>
    if Bytes.isDigit b then
      if takesDigit digits b then readWholeDigits negative (10 * digits + digitOf b) s
      else readLongDigits negative digits 0 (b :: s)
    else readWholeEnd negative digits (b :: s)

def readNumber (negative : Bool) : Bytes → Scan Found
  | [] => .error (stopAt .endInValue [])
  | b :: s =>
    if b = 48 then
      if s.head?.any Bytes.isDigit then .error (stopPast .invalidNumber s) else readWholeEnd negative 0 s
    else if Bytes.isDigit b then readWholeDigits negative (digitOf b) s
    else .error (stopAt .invalidNumber s)

end ShortLinks.Record
