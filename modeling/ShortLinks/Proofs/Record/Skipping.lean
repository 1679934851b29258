import ShortLinks.Proofs.Record.Grammar

/-!
# Values that are skipped

A value may hold others to any depth. However it is nested and wherever its blanks are, it is skipped as a whole.
-/

set_option autoImplicit false

namespace ShortLinks.Record

def Frame.opening : Frame → UInt8
  | .list => 91
  | .object => 123

/-- What stands before a value in a container: nothing in a list, a key and a colon in an object. -/
inductive Label : Frame → Bytes → Prop where
  | element : Label .list []
  | key {before key after : Bytes} (hbefore : Blank before) (hkey : Quoted key) (hafter : Blank after) :
      Label .object (before ++ 34 :: (key ++ 34 :: (after ++ [58])))

inductive Part where
  | value
  | items (frame : Frame)

/-- JSON, with blanks between any two tokens. -/
inductive Json : Part → Bytes → Prop where
  | scalar {s : Bytes} (h : Scalar s) : Json .value s
  | empty {blanks : Bytes} (frame : Frame) (hblanks : Blank blanks) :
      Json .value (frame.opening :: (blanks ++ [frame.close]))
  | container {s : Bytes} (frame : Frame) (h : Json (.items frame) s) : Json .value (frame.opening :: (s ++ [frame.close]))
  | item {frame : Frame} {label before value after : Bytes} (hlabel : Label frame label) (hbefore : Blank before)
      (hvalue : Json .value value) (hafter : Blank after) : Json (.items frame) (label ++ (before ++ (value ++ after)))
  | items {frame : Frame} {label before value after more : Bytes} (hlabel : Label frame label) (hbefore : Blank before)
      (hvalue : Json .value value) (hafter : Blank after) (hmore : Json (.items frame) more) :
      Json (.items frame) (label ++ (before ++ (value ++ (after ++ 44 :: more))))

variable {s rest lead label before blanks : Bytes} {b : UInt8} {frame : Frame} {place : Place} {part : Part}

theorem Scalar.exists_cons (h : Scalar s) : ∃ b t, s = b :: t ∧ b ∉ [32, 9, 10, 13, 91, 93, 123] := by
  have hskip : skipScalar (s ++ []) = some (.ok []) := skipScalar_scalar h (by simp [Ends])
  rw [List.append_nil] at hskip
  cases s with
  | nil => cases hskip
  | cons b t => exact ⟨b, t, rfl, head_of_skipScalar hskip⟩

theorem Json.exists_cons (h : Json .value s) : ∃ b t, s = b :: t ∧ Bytes.isRecordBlank b = false ∧ b ≠ Frame.list.close := by
  cases h with
  | scalar h =>
    obtain ⟨b, t, rfl, hb⟩ := h.exists_cons
    simp only [List.mem_cons, List.not_mem_nil, or_false, not_or] at hb
    refine ⟨b, t, rfl, ?_, hb.2.2.2.2.2.1⟩
    simp [Bytes.isRecordBlank, hb]
  | empty frame => cases frame <;> exact ⟨_, _, rfl, by decide, by decide⟩
  | container frame => cases frame <;> exact ⟨_, _, rfl, by decide, by decide⟩

theorem ends_close (frame : Frame) (rest : Bytes) : Ends (frame.close :: rest) := by
  rintro _ ⟨⟩
  cases frame <;> decide

theorem skipBlanks_close (h : Blank blanks) (frame : Frame) (rest : Bytes) :
    skipBlanks (blanks ++ frame.close :: rest) = frame.close :: rest := by
  cases frame <;> exact h.skipBlanks_append_cons (by decide) rest

/-- Where an item may come: at once in a container that has just been opened, and later after a comma. -/
inductive Enters : Place → Bytes → Prop where
  | first : Enters .opened []
  | next {blanks : Bytes} (hblanks : Blank blanks) : Enters .afterValue (blanks ++ [44])

theorem skipKey_label (h : Label .object label) (s : Bytes) : skipKey (label ++ s) = .ok s := by
  obtain _ | ⟨hbefore, hkey, hafter⟩ := h
  simp only [List.append_assoc, List.cons_append, List.nil_append]
  unfold skipKey
  rw [hbefore.skipBlanks_append_cons (by decide)]
  refine bind_eq_ok.mpr ⟨_, skipChars_quoted hkey _, ?_⟩
  rw [hafter.skipBlanks_append_cons (by decide)]
  rfl

theorem skipOpen_label (hplace : Enters place lead) (hlabel : Label frame label) (hbefore : Blank before)
    (hblank : Bytes.isRecordBlank b = false) (hclose : b ≠ Frame.list.close) (stack : List Frame) (s : Bytes) :
    ∃ gap, Blank gap ∧ skipOpen place (frame :: stack) (lead ++ (label ++ (before ++ b :: s))) =
      skipOpen .value (frame :: stack) (gap ++ b :: s) := by
  have hskip := hbefore.skipBlanks_append_cons hblank s
  cases hplace with
  | first =>
    cases hlabel with
    | element => exact ⟨[], List.forall_mem_nil _, skipOpen_firstElement stack hskip hclose⟩
    | @key blanks key after hblanks hkey hafter =>
      have hquote := hblanks.skipBlanks_append_cons (b := 34) (by decide) (key ++ 34 :: (after ++ [58]) ++ (before ++ b :: s))
      have hlabel := skipKey_label (.key (List.forall_mem_nil _) hkey hafter) (before ++ b :: s)
      refine ⟨before, hbefore, ?_⟩
      rw [List.nil_append, List.append_assoc]
      exact skipOpen_firstMember stack hquote (by decide) hlabel
  | next hblanks =>
    have hcomma := hblanks.skipBlanks_append_cons (b := 44) (by decide) (label ++ (before ++ b :: s))
    refine ⟨before, hbefore, ?_⟩
    rw [List.append_assoc]
    cases hlabel with
    | element => exact skipOpen_nextElement stack hcomma
    | key hbefore' hkey hafter => exact skipOpen_nextMember stack hcomma (skipKey_label (.key hbefore' hkey hafter) _)

/-- What skipping makes of a part: it takes the part away, with the blanks before a value and the mark after items. -/
def Skips : Part → Bytes → Prop
  | .value, s => ∀ stack before rest, Blank before → Ends rest →
      skipOpen .value stack (before ++ (s ++ rest)) = skipOpen .afterValue stack rest
  | .items frame, s => ∀ stack place lead rest, Enters place lead →
      skipOpen place (frame :: stack) (lead ++ (s ++ frame.close :: rest)) = skipOpen .afterValue stack rest

theorem skipOpen_item {value : Bytes} (hplace : Enters place lead) (hlabel : Label frame label) (hbefore : Blank before)
    (hvalue : Json .value value) (hskips : Skips .value value) (hrest : Ends rest) (stack : List Frame) :
    skipOpen place (frame :: stack) (lead ++ (label ++ (before ++ (value ++ rest)))) =
      skipOpen .afterValue (frame :: stack) rest := by
  obtain ⟨b, t, rfl, hblank, hclose⟩ := hvalue.exists_cons
  obtain ⟨gap, hgap, hskip⟩ := skipOpen_label hplace hlabel hbefore hblank hclose stack (t ++ rest)
  exact hskip.trans (hskips (frame :: stack) gap rest hgap hrest)

theorem skipOpen_opening (h : Blank blanks) (frame : Frame) (stack : List Frame) (s : Bytes) :
    skipOpen .value stack (blanks ++ frame.opening :: s) = skipOpen .opened (frame :: stack) s := by
  cases frame with
  | list => exact skipOpen_container stack (h.skipBlanks_append_cons (by decide) s) rfl
  | object => exact skipOpen_container stack (h.skipBlanks_append_cons (by decide) s) rfl

/-- By induction on the value, with its items told apart by whether they come first. -/
theorem Json.skips (h : Json part s) : Skips part s := by
  induction h with
  | @scalar s h =>
    intro stack before rest hbefore hrest
    obtain ⟨b, t, rfl, hb⟩ := h.exists_cons
    simp only [List.mem_cons, List.not_mem_nil, or_false, not_or] at hb
    have hblank : Bytes.isRecordBlank b = false := by simp [Bytes.isRecordBlank, hb]
    exact skipOpen_scalar stack (hbefore.skipBlanks_append_cons hblank (t ++ rest)) hb.2.2.2.2.1 hb.2.2.2.2.2.2
      (skipScalar_scalar h hrest)
  | empty frame hblanks =>
    intro stack before rest hbefore _
    rw [List.cons_append, List.append_assoc]
    rw [skipOpen_opening hbefore frame stack]
    exact skipOpen_close (by decide) stack (skipBlanks_close hblanks frame rest)
  | container frame _ ih =>
    intro stack before rest hbefore _
    rw [List.cons_append, List.append_assoc]
    rw [skipOpen_opening hbefore frame stack]
    exact ih stack .opened [] rest .first
  | @item frame _ _ _ after hlabel hbefore hvalue hafter ih =>
    intro stack place lead rest hplace
    -- The item is a value on top of the frame, which is then closed.
    have hends := hafter.ends_append (ends_close frame rest)
    simp only [List.append_assoc]
    rw [skipOpen_item hplace hlabel hbefore hvalue ih hends]
    exact skipOpen_close (by decide) stack (skipBlanks_close hafter frame rest)
  | @items frame _ _ _ after more hlabel hbefore hvalue hafter _ ih ihmore =>
    intro stack place lead rest hplace
    have hends : Ends (after ++ 44 :: (more ++ frame.close :: rest)) := hafter.ends_append (by simp [Ends])
    simp only [List.append_assoc, List.cons_append]
    rw [skipOpen_item hplace hlabel hbefore hvalue ih hends]
    have hmore := ihmore stack .afterValue (after ++ [44]) rest (.next hafter)
    rwa [List.append_assoc] at hmore

theorem skipValue_json (h : Json .value s) (hbefore : Blank before) (hrest : Ends rest) :
    skipValue (before ++ (s ++ rest)) = .ok rest :=
  (h.skips [] before rest hbefore hrest).trans (skipOpen_done (by decide) rest)

end ShortLinks.Record
