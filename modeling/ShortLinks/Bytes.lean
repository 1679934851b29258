/-!
# Byte strings

Files, environment values and records are lists of bytes. Text is what such a list holds when it is
valid UTF-8; `Bytes.ofText` and `Bytes.text?` go between the two, and `text?_ofText` and
`ofText_of_text?` say that neither direction loses anything.
-/

set_option autoImplicit false

namespace ShortLinks

abbrev Bytes := List UInt8

namespace Bytes

def ofText (s : String) : Bytes := s.toUTF8.data.toList

def text? (b : Bytes) : Option String := String.fromUTF8? ⟨b.toArray⟩

theorem text?_ofText (s : String) : text? (ofText s) = some s := by
  simp only [text?, ofText, String.fromUTF8?, Array.toArray_toList, String.toUTF8_eq_toByteArray]
  rw [dif_pos s.isValidUTF8]
  rfl

theorem ofText_of_text? {b : Bytes} {s : String} (h : text? b = some s) : ofText s = b := by
  simp only [text?, String.fromUTF8?] at h
  split at h
  · next hv =>
    cases h
    rfl
  · cases h

theorem text?_eq_some_iff {b : Bytes} {s : String} : text? b = some s ↔ ofText s = b :=
  ⟨ofText_of_text?, fun h => h ▸ text?_ofText s⟩

def isNewline (b : UInt8) : Bool := b == 10

def isAsciiBlank (b : UInt8) : Bool := b == 32 || b == 9 || b == 10 || b == 12 || b == 13

def isRecordBlank (b : UInt8) : Bool := b == 32 || b == 9 || b == 10 || b == 13

def isDigit (b : UInt8) : Bool := 48 ≤ b && b ≤ 57

def hexValue? (b : UInt8) : Option Nat :=
  if 48 ≤ b && b ≤ 57 then some (b.toNat - 48)
  else if 97 ≤ b && b ≤ 102 then some (b.toNat - 87)
  else if 65 ≤ b && b ≤ 70 then some (b.toNat - 55)
  else none

/-- The lines of a text, each with the line feed that ends it; the last one may have none. -/
def lines : Bytes → List Bytes
  | [] => []
  | b :: rest =>
    if b = 10 then [b] :: lines rest
    else match lines rest with
      | [] => [[b]]
      | line :: more => (b :: line) :: more

/-- The line and the column of the byte after the first `n`: lines count from one, columns are the
bytes since the last line feed. -/
def position (b : Bytes) (n : Nat) : Nat × Nat :=
  let before := b.take n
  (1 + before.countP isNewline, (before.reverse.takeWhile (fun c => !isNewline c)).length)

end Bytes
end ShortLinks
