import ShortLinks.Record.Scan

/-!
# Skipped values

The value of an unknown member is skipped. The containers that are open around the current place are
kept on a stack, so values may be nested to any depth. Every step reads at least one byte.
-/

set_option autoImplicit false

namespace ShortLinks.Record

theorem length_skipBlanks_le (s : Bytes) : (skipBlanks s).length ≤ s.length :=
  (List.dropWhile_sublist _).length_le

theorem length_skipDigits_le (s : Bytes) : (skipDigits s).length ≤ s.length :=
  (List.dropWhile_sublist _).length_le

theorem length_word_le {w s t : Bytes} (h : word w s = .ok t) : t.length ≤ s.length := by
  induction w generalizing s with
  | nil => cases h; exact Nat.le_refl _
  | cons c w ih =>
    cases s with
    | nil => simp [word] at h
    | cons b s =>
      simp only [word] at h
      split at h
      · exact Nat.le_succ_of_le (ih h)
      · cases h

theorem length_skipChars_lt {s t : Bytes} (h : skipChars s = .ok t) : t.length < s.length := by
  fun_induction skipChars s <;> simp_all <;> omega

theorem length_skipSign_le (s : Bytes) : (skipSign s).length ≤ s.length := by
  cases s with
  | nil => exact Nat.le_refl _
  | cons b s => simp only [skipSign]; split <;> simp

theorem length_skipExponent_le {s t : Bytes} (h : skipExponent s = .ok t) : t.length ≤ s.length := by
  have hs := length_skipSign_le s
  unfold skipExponent at h
  split at h
  · cases h
  · next b u hu =>
    rw [hu] at hs
    split at h
    · cases h
      have := length_skipDigits_le u
      simp only [List.length_cons] at hs
      omega
    · cases h

theorem length_skipExponentPart_le {s t : Bytes} (h : skipExponentPart s = .ok t) :
    t.length ≤ s.length := by
  unfold skipExponentPart at h
  split at h
  · split at h
    · exact Nat.le_succ_of_le (length_skipExponent_le h)
    · cases h; exact Nat.le_refl _
  · cases h; exact Nat.le_refl _

theorem length_skipFraction_le {s t : Bytes} (h : skipFraction s = .ok t) : t.length ≤ s.length := by
  unfold skipFraction at h
  split at h
  · next u =>
    split at h
    · cases h
    · have := length_skipExponentPart_le h
      have := length_skipDigits_le u
      simp only [List.length_cons]
      omega
  · exact length_skipExponentPart_le h

theorem length_skipNumber_lt {s t : Bytes} (h : skipNumber s = .ok t) : t.length < s.length := by
  unfold skipNumber at h
  split at h
  · cases h
  · next b u =>
    split at h
    · split at h
      · cases h
      · exact Nat.lt_succ_of_le (length_skipFraction_le h)
    · split at h
      · have := length_skipFraction_le h
        have := length_skipDigits_le u
        simp only [List.length_cons]
        omega
      · cases h

inductive Frame where
  | list
  | object
deriving DecidableEq, Repr

/-- Skips a word, a string or a number; `none` if none of them starts here. -/
def skipScalar : Bytes → Option (Except Stop Bytes)
  | 110 :: s => some (word nullTail s)
  | 116 :: s => some (word trueTail s)
  | 102 :: s => some (word falseTail s)
  | 34 :: s => some (skipChars s)
  | 45 :: s => some (skipNumber s)
  | b :: s => if Bytes.isDigit b then some (skipNumber (b :: s)) else none
  | [] => none

theorem length_skipScalar_lt {s t : Bytes} (h : skipScalar s = some (.ok t)) : t.length < s.length := by
  unfold skipScalar at h
  split at h
  · exact Nat.lt_succ_of_le (length_word_le (Option.some.inj h))
  · exact Nat.lt_succ_of_le (length_word_le (Option.some.inj h))
  · exact Nat.lt_succ_of_le (length_word_le (Option.some.inj h))
  · exact Nat.lt_succ_of_lt (length_skipChars_lt (Option.some.inj h))
  · exact Nat.lt_succ_of_lt (length_skipNumber_lt (Option.some.inj h))
  · split at h
    · exact length_skipNumber_lt (Option.some.inj h)
    · cases h
  · cases h

def skipKey (s : Bytes) : Except Stop Bytes :=
  match skipBlanks s with
  | 34 :: s => (skipChars s).bind fun s =>
    match skipBlanks s with
    | 58 :: s => .ok s
    | [] => .error (stopPast .endInObject [])
    | s => .error (stopPast .expectedColon s)
  | [] => .error (stopPast .endInObject [])
  | s => .error (stopPast .keyNotText s)

theorem length_skipKey_lt {s t : Bytes} (h : skipKey s = .ok t) : t.length < s.length := by
  have hs := length_skipBlanks_le s
  unfold skipKey at h
  split at h
  · next u hu =>
    rw [hu] at hs
    cases hc : skipChars u with
    | error e => rw [hc] at h; cases h
    | ok v =>
      have hv := length_skipChars_lt hc
      have hb := length_skipBlanks_le v
      rw [hc] at h
      simp only [Except.bind] at h
      simp only [List.length_cons] at hs
      split at h
      · next w hw =>
        rw [hw] at hb
        cases h
        simp only [List.length_cons] at hb
        omega
      · cases h
      · cases h
  · cases h
  · cases h

/-- What is expected in the innermost open container. -/
inductive Place where
  | value
  | opened
  | afterValue
deriving DecidableEq, Repr

def Frame.endsEarly : Frame → Reason
  | .list => .endInList
  | .object => .endInObject

def Frame.expectedComma : Frame → Reason
  | .list => .expectedCommaOrBracket
  | .object => .expectedCommaOrBrace

def Frame.close : Frame → UInt8
  | .list => 93
  | .object => 125

/-- A place at which the end of the container is looked for before a value. -/
def Place.rank : Place → Nat
  | .opened => 1
  | _ => 0

/-- Skips up to the end of the outermost open container, or of the value if none is open. -/
def skipOpen (place : Place) (stack : List Frame) (s : Bytes) : Except Stop Bytes :=
  match place, stack with
  | .value, stack =>
    match _h : skipBlanks s with
    | [] => .error (stopPast .endInValue [])
    | b :: t =>
      if b = 91 then skipOpen .opened (.list :: stack) t
      else if b = 123 then skipOpen .opened (.object :: stack) t
      else
        match _hs : skipScalar (b :: t) with
        | none => .error (stopPast .expectedValue (b :: t))
        | some (.error e) => .error e
        | some (.ok u) => skipOpen .afterValue stack u
  | _, [] => .ok s
  | .opened, frame :: stack =>
    match _h : skipBlanks s with
    | [] => .error (stopPast frame.endsEarly [])
    | b :: t =>
      if b = frame.close then skipOpen .afterValue stack t
      else match frame with
        | .list => skipOpen .value (.list :: stack) (b :: t)
        | .object =>
          match _hk : skipKey (b :: t) with
          | .error e => .error e
          | .ok u => skipOpen .value (.object :: stack) u
  | .afterValue, frame :: stack =>
    match _h : skipBlanks s with
    | [] => .error (stopPast frame.endsEarly [])
    | b :: t =>
      if b = frame.close then skipOpen .afterValue stack t
      else if b = 44 then
        match frame with
        | .list => skipOpen .value (.list :: stack) t
        | .object =>
          match _hk : skipKey t with
          | .error e => .error e
          | .ok u => skipOpen .value (.object :: stack) u
      else .error (stopPast frame.expectedComma (b :: t))
termination_by (s.length, place.rank)
decreasing_by
  all_goals
    have hb := length_skipBlanks_le s
    rw [_h, List.length_cons] at hb
    try have hu := length_skipScalar_lt _hs
    try have hu := length_skipKey_lt _hk
    simp only [List.length_cons, Prod.lex_def, Place.rank] at *
    omega

theorem skipOpen_done {place : Place} (hp : place ≠ .value) (s : Bytes) : skipOpen place [] s = .ok s := by
  cases place with
  | value => exact absurd rfl hp
  | opened | afterValue => rw [skipOpen]; simp

theorem skipOpen_container {s t : Bytes} {frame : Frame} {b : UInt8} (stack : List Frame)
    (h : skipBlanks s = b :: t) (hb : b = match frame with | .list => 91 | .object => 123) :
    skipOpen .value stack s = skipOpen .opened (frame :: stack) t := by
  rw [skipOpen]
  split
  · next h' => simp [h] at h'
  · next b' t' h' =>
    obtain ⟨rfl, rfl⟩ : b = b' ∧ t = t' := by simpa [h] using h'
    cases frame <;> simp [hb]

theorem skipOpen_scalar {s t u : Bytes} {b : UInt8} (stack : List Frame) (h : skipBlanks s = b :: t)
    (hl : b ≠ 91) (ho : b ≠ 123) (hs : skipScalar (b :: t) = some (.ok u)) :
    skipOpen .value stack s = skipOpen .afterValue stack u := by
  rw [skipOpen]
  split
  · next h' => simp [h] at h'
  · next b' t' h' =>
    obtain ⟨rfl, rfl⟩ : b = b' ∧ t = t' := by simpa [h] using h'
    rw [if_neg hl, if_neg ho]
    split <;> next h' => simp_all

theorem skipOpen_close {s t : Bytes} {frame : Frame} {place : Place} (hp : place ≠ .value) (stack : List Frame)
    (h : skipBlanks s = frame.close :: t) : skipOpen place (frame :: stack) s = skipOpen .afterValue stack t := by
  cases place with
  | value => exact absurd rfl hp
  | opened | afterValue =>
    rw [skipOpen]
    split
    · next h' => simp [h] at h'
    · next b' t' h' =>
      obtain ⟨rfl, rfl⟩ : frame.close = b' ∧ t = t' := by simpa [h] using h'
      rw [if_pos rfl]

theorem skipOpen_firstElement {s t : Bytes} {b : UInt8} (stack : List Frame) (h : skipBlanks s = b :: t)
    (hb : b ≠ Frame.list.close) :
    skipOpen .opened (.list :: stack) s = skipOpen .value (.list :: stack) (b :: t) := by
  conv => lhs; rw [skipOpen]
  split
  · next h' => simp [h] at h'
  · next b' t' h' =>
    obtain ⟨rfl, rfl⟩ : b = b' ∧ t = t' := by simpa [h] using h'
    rw [if_neg hb]

theorem skipOpen_firstMember {s t u : Bytes} {b : UInt8} (stack : List Frame) (h : skipBlanks s = b :: t)
    (hb : b ≠ Frame.object.close) (hk : skipKey (b :: t) = .ok u) :
    skipOpen .opened (.object :: stack) s = skipOpen .value (.object :: stack) u := by
  conv => lhs; rw [skipOpen]
  split
  · next h' => simp [h] at h'
  · next b' t' h' =>
    obtain ⟨rfl, rfl⟩ : b = b' ∧ t = t' := by simpa [h] using h'
    simp only [if_neg hb]
    split <;> next h' => simp_all

theorem skipOpen_nextElement {s t : Bytes} (stack : List Frame) (h : skipBlanks s = 44 :: t) :
    skipOpen .afterValue (.list :: stack) s = skipOpen .value (.list :: stack) t := by
  conv => lhs; rw [skipOpen]
  split
  · next h' => simp [h] at h'
  · next b' t' h' =>
    obtain ⟨rfl, rfl⟩ : 44 = b' ∧ t = t' := by simpa [h] using h'
    rw [if_neg (by decide), if_pos rfl]

theorem skipOpen_nextMember {s t u : Bytes} (stack : List Frame) (h : skipBlanks s = 44 :: t)
    (hk : skipKey t = .ok u) :
    skipOpen .afterValue (.object :: stack) s = skipOpen .value (.object :: stack) u := by
  conv => lhs; rw [skipOpen]
  split
  · next h' => simp [h] at h'
  · next b' t' h' =>
    obtain ⟨rfl, rfl⟩ : 44 = b' ∧ t = t' := by simpa [h] using h'
    simp only [if_neg (show (44 : UInt8) ≠ Frame.object.close by decide), ↓reduceIte]
    split <;> next h' => simp_all

def skipValue (s : Bytes) : Except Stop Bytes := skipOpen .value [] s

end ShortLinks.Record
