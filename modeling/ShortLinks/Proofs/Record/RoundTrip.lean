import ShortLinks.Proofs.Record.Front
import ShortLinks.Record.Encode

/-!
# Records are read back

The record of an entry says that entry: `decode_encode`, which holds of every entry. It is written without
controls, so it stays on one line.
-/

set_option autoImplicit false

namespace ShortLinks.Record

theorem hex4?_lowerHexDigit : ∀ n < 32, hex4? 48 48 (lowerHexDigit (n / 16)) (lowerHexDigit (n % 16)) = some n := by
  decide

theorem codePoint_of_lt : ∀ n < 32, codePoint n = [UInt8.ofNat n] := by
  decide

theorem readChars_escapeByte (b : UInt8) (s : Bytes) :
    readChars (escapeByte b ++ s) = (readChars s).prepend [b] := by
  unfold escapeByte
  split
  · next hb =>
    subst hb
    exact readChars_simple (by decide) s
  split
  · next hb =>
    subst hb
    exact readChars_simple (by decide) s
  split
  · next hb =>
    subst hb
    exact readChars_simple (by decide) s
  split
  · next hb =>
    subst hb
    exact readChars_simple (by decide) s
  split
  · next hb =>
    subst hb
    exact readChars_simple (by decide) s
  split
  · next hb =>
    subst hb
    exact readChars_simple (by decide) s
  split
  · next hb =>
    subst hb
    exact readChars_simple (by decide) s
  split
  · next hb =>
    have hlt : b.toNat < 32 := hb
    have ht : isTrailingSurrogate b.toNat = false := by simp [isTrailingSurrogate]; omega
    have hl : isLeadingSurrogate b.toNat = false := by simp [isLeadingSurrogate]; omega
    have hread := readChars_unicode (hex4?_lowerHexDigit _ hlt) ht hl s
    rw [codePoint_of_lt _ hlt, UInt8.ofNat_toNat] at hread
    exact hread
  · next hq hb _ _ _ _ _ hc => exact readChars_plain hq hb hc s

theorem readChars_escape (bs rest : Bytes) :
    readChars (bs.flatMap escapeByte ++ quote :: rest) = .ok (bs, rest) := by
  induction bs with
  | nil => exact readChars_quote rest
  | cons b bs ih =>
    rw [List.flatMap_cons, List.append_assoc, readChars_escapeByte, ih]
    rfl

theorem readText_escape (text : String) (rest : Bytes) :
    readText ((Bytes.ofText text).flatMap escapeByte ++ quote :: rest) = .ok (text, rest) :=
  readText_eq_ok.mpr (readChars_escape _ rest)

theorem encodeText_append (text : String) (rest : Bytes) :
    encodeText text ++ rest = quote :: ((Bytes.ofText text).flatMap escapeByte ++ quote :: rest) := by
  simp [encodeText, quote]

theorem skipBlanks_cons {b : UInt8} (hb : Bytes.isRecordBlank b = false) (s : Bytes) :
    skipBlanks (b :: s) = b :: s := by
  simp [skipBlanks, hb]

theorem readTextValue_encodeText (text : String) (rest : Bytes) :
    readTextValue (encodeText text ++ rest) = .ok (text, rest) := by
  rw [encodeText_append, readTextValue, skipBlanks_cons (by decide)]
  exact readText_escape text rest

theorem readOptionalText_encodeText (text : String) (rest : Bytes) :
    readOptionalText (encodeText text ++ rest) = .ok (some text, rest) := by
  have hvalue := readTextValue_encodeText text rest
  rw [encodeText_append] at hvalue ⊢
  unfold readOptionalText
  rw [skipBlanks_cons (by decide)]
  exact map_eq_ok.mpr ⟨_, hvalue, rfl⟩

theorem readBoolean_encodeBool (v : Bool) (rest : Bytes) :
    readBoolean (encodeBool v ++ rest) = .ok (v, rest) := by
  cases v with
  | true =>
    rw [show encodeBool true = 116 :: trueTail by decide, readBoolean, List.cons_append, skipBlanks_cons (by decide)]
    simp [trueTail, word, Except.map]
  | false =>
    rw [show encodeBool false = 102 :: falseTail by decide, readBoolean, List.cons_append, skipBlanks_cons (by decide)]
    simp [falseTail, word, Except.map]

def value? (e : Entry) : Field → Option Bytes
  | .id => some (encodeText e.id)
  | .target => some (encodeText e.target)
  | .owner => e.owner.map encodeText
  | .correlation => e.correlation.map encodeText
  | .deleted => some (encodeBool e.deleted)

def Members.record (e : Entry) (m : Members) : Field → Members
  | .id => { m with id := some e.id }
  | .target => { m with target := some e.target }
  | .owner => { m with owner := some e.owner }
  | .correlation => { m with correlation := some e.correlation }
  | .deleted => { m with deleted := some e.deleted }

theorem read_value {e : Entry} {field : Field} {value : Bytes} (h : value? e field = some value) (m : Members)
    (rest : Bytes) : m.read field (value ++ rest) = .ok (m.record e field, rest) := by
  cases field with
  | id =>
    cases h
    exact map_eq_ok.mpr ⟨_, readTextValue_encodeText e.id rest, rfl⟩
  | target =>
    cases h
    exact map_eq_ok.mpr ⟨_, readTextValue_encodeText e.target rest, rfl⟩
  | owner =>
    obtain ⟨owner, howner, rfl⟩ := Option.map_eq_some_iff.mp h
    refine map_eq_ok.mpr ⟨_, readOptionalText_encodeText owner rest, ?_⟩
    simp [Members.record, howner]
  | correlation =>
    obtain ⟨token, htoken, rfl⟩ := Option.map_eq_some_iff.mp h
    refine map_eq_ok.mpr ⟨_, readOptionalText_encodeText token rest, ?_⟩
    simp [Members.record, htoken]
  | deleted =>
    cases h
    exact map_eq_ok.mpr ⟨_, readBoolean_encodeBool e.deleted rest, rfl⟩

theorem has_record (e : Entry) (m : Members) {field other : Field} (h : other ≠ field) :
    (m.record e field).has other = m.has other := by
  cases field <;> cases other <;> first | rfl | exact absurd rfl h

theorem has_record_of_nodup (e : Entry) {m : Members} {w : Field × Bytes} {written : List (Field × Bytes)}
    (hnodup : ((w :: written).map Prod.fst).Nodup) (hm : ∀ w' ∈ written, m.has w'.1 = false) :
    ∀ w' ∈ written, (m.record e w.1).has w'.1 = false := by
  intro w' hw'
  rw [has_record e m fun heq : w'.1 = w.1 => (List.nodup_cons.mp hnodup).1 (heq ▸ List.mem_map_of_mem hw')]
  exact hm w' hw'

theorem ofName?_name (field : Field) : Field.ofName? field.name = some field := by
  cases field <;> decide

theorem readMember_encoded {e : Entry} {field : Field} {value : Bytes} (h : value? e field = some value)
    {m : Members} (hm : m.has field = false) (rest : Bytes) :
    readMember m ((Bytes.ofText field.name).flatMap escapeByte ++ quote :: 58 :: (value ++ rest)) =
      .ok (m.record e field, rest) := by
  refine readMember_eq_ok.mpr ⟨field.name, 58 :: (value ++ rest), value ++ rest, readText_escape _ _, ?_, ?_⟩
  · unfold skipColon
    rw [skipBlanks_cons (by decide)]
    rfl
  · rw [ofName?_name]
    exact ⟨hm, read_value h m rest⟩

theorem readMembers_first {e : Entry} {field : Field} {value : Bytes} (h : value? e field = some value) {m : Members}
    (hm : m.has field = false) (fuel : Nat) (rest : Bytes) :
    readMembers (fuel + 1) true m (encodeMember field value ++ rest) = readMembers fuel false (m.record e field) rest := by
  have hstart : startsMember true (encodeMember field value ++ rest)
      ((Bytes.ofText field.name).flatMap escapeByte ++ quote :: 58 :: (value ++ rest)) := by
    rw [encodeMember, List.append_assoc, List.cons_append, encodeText_append]
    exact skipBlanks_cons (by decide) _
  rw [readMembers_member hstart, readMember_encoded h hm]
  rfl

theorem readMembers_later {e : Entry} {field : Field} {value : Bytes} (h : value? e field = some value) {m : Members}
    (hm : m.has field = false) (fuel : Nat) (rest : Bytes) :
    readMembers (fuel + 1) false m (44 :: encodeMember field value ++ rest) =
      readMembers fuel false (m.record e field) rest := by
  have hstart : startsMember false (44 :: encodeMember field value ++ rest)
      ((Bytes.ofText field.name).flatMap escapeByte ++ quote :: 58 :: (value ++ rest)) := by
    refine ⟨encodeMember field value ++ rest, skipBlanks_cons (by decide) _, ?_⟩
    rw [encodeMember, List.append_assoc, List.cons_append, encodeText_append]
    exact skipBlanks_cons (by decide) _
  rw [readMembers_member hstart, readMember_encoded h hm]
  rfl

theorem readMembers_encoded {e : Entry} {written : List (Field × Bytes)} {m : Members}
    (hvalue : ∀ w ∈ written, value? e w.1 = some w.2) (hnodup : (written.map Prod.fst).Nodup)
    (hm : ∀ w ∈ written, m.has w.1 = false) {fuel : Nat} (hfuel : written.length < fuel) (rest : Bytes) :
    readMembers fuel false m (written.flatMap (fun w => 44 :: encodeMember w.1 w.2) ++ 125 :: rest) =
      .ok (written.foldl (fun m w => m.record e w.1) m, 125 :: rest) := by
  induction written generalizing m fuel with
  | nil =>
    cases fuel with
    | zero => omega
    | succ fuel => exact readMembers_close (skipBlanks_cons (by decide) _)
  | cons w written ih =>
    rw [List.length_cons] at hfuel
    cases fuel with
    | zero => omega
    | succ fuel =>
      obtain ⟨hw, hwritten⟩ := List.forall_mem_cons.mp hvalue
      obtain ⟨hfirst, hlater⟩ := List.forall_mem_cons.mp hm
      rw [List.flatMap_cons, List.append_assoc, readMembers_later hw hfirst]
      exact ih hwritten (List.nodup_cons.mp hnodup).2 (has_record_of_nodup e hnodup hlater) (by omega)

/-- The members that are written after the identifier, with their values. -/
def laterValues (e : Entry) : List (Field × Bytes) :=
  [Field.target, .owner, .correlation, .deleted].filterMap fun field => (value? e field).map (field, ·)

theorem flatten_intersperse_cons (separator line : Bytes) (lines : List Bytes) :
    ((line :: lines).intersperse separator).flatten = line ++ lines.flatMap (separator ++ ·) := by
  induction lines generalizing line with
  | nil => simp
  | cons next lines ih => simp [ih]

theorem encode_eq (e : Entry) : encode e = 123 :: (encodeMember .id (encodeText e.id) ++
    (laterValues e).flatMap (fun w => 44 :: encodeMember w.1 w.2) ++ [125]) := by
  unfold encode members
  simp only [List.cons_append, List.nil_append, flatten_intersperse_cons]
  cases howner : e.owner <;> cases hcorrelation : e.correlation <;>
    simp [laterValues, value?, howner, hcorrelation]

theorem nodup_laterValues (e : Entry) : (Field.id :: (laterValues e).map Prod.fst).Nodup := by
  obtain ⟨id, target, owner, correlation, deleted⟩ := e
  cases owner <;> cases correlation <;> simp [laterValues, value?]

theorem value?_of_mem_laterValues {e : Entry} {w : Field × Bytes} (hw : w ∈ laterValues e) :
    value? e w.1 = some w.2 := by
  obtain ⟨field, -, hfield⟩ := List.mem_filterMap.mp hw
  obtain ⟨value, hvalue, rfl⟩ := Option.map_eq_some_iff.mp hfield
  exact hvalue

theorem has_laterValues (e : Entry) : ∀ w ∈ laterValues e, (Members.empty.record e .id).has w.1 = false := by
  refine has_record_of_nodup e (w := (.id, [])) (nodup_laterValues e) fun w _ => ?_
  cases w.1 <;> rfl

def readBack (e : Entry) : Members :=
  (laterValues e).foldl (fun m w => m.record e w.1) (Members.empty.record e .id)

theorem entry_readBack (e : Entry) : (readBack e).entry = .ok e := by
  obtain ⟨id, target, owner, correlation, deleted⟩ := e
  cases owner <;> cases correlation <;> rfl

theorem readMembers_encode (e : Entry) (rest : Bytes) {fuel : Nat} (hfuel : (laterValues e).length < fuel) :
    readMembers (fuel + 1) true Members.empty (encodeMember .id (encodeText e.id) ++
      (laterValues e).flatMap (fun w => 44 :: encodeMember w.1 w.2) ++ 125 :: rest) =
        .ok (readBack e, 125 :: rest) := by
  have hlater := readMembers_encoded (fun w hw => value?_of_mem_laterValues hw)
    (List.nodup_cons.mp (nodup_laterValues e)).2 (has_laterValues e) hfuel rest
  have hfirst : value? e .id = some (encodeText e.id) := rfl
  rw [List.append_assoc, readMembers_first hfirst rfl]
  exact hlater

theorem readBody_encode (e : Entry) (rest : Bytes) : readBody (encode e ++ rest) = .ok (e, rest) := by
  have hencode : encode e ++ rest = 123 :: (encodeMember .id (encodeText e.id) ++
      (laterValues e).flatMap (fun w => 44 :: encodeMember w.1 w.2) ++ 125 :: rest) := by
    rw [encode_eq, List.cons_append, List.append_assoc]
    rfl
  have hmembers := fun fuel => @readMembers_encode e rest fuel
  rw [hencode, readBody, skipBlanks_cons (by decide)]
  generalize hs : encodeMember .id (encodeText e.id) ++
    (laterValues e).flatMap (fun w => 44 :: encodeMember w.1 w.2) ++ 125 :: rest = s at hmembers ⊢
  have hfuel : (laterValues e).length < s.length := by
    have hlen : (laterValues e).length ≤ 4 := List.length_filterMap_le _ _
    simp only [← hs, encodeMember, encodeText, List.length_cons, List.length_append]
    omega
  show readObject s = .ok (e, rest)
  unfold readObject
  rw [hmembers _ hfuel]
  simp [bind, Except.bind, pure, Except.pure, entry_readBack]

/-- Every entry is what its record says, with the line feed of its line or without. -/
theorem decode_encode_append {e : Entry} {blanks : Bytes} (hb : skipBlanks blanks = []) :
    decode (encode e ++ blanks) = .ok e :=
  decode_eq_ok.mpr (readRecord_eq_ok.mpr ⟨blanks, readBody_encode e blanks, hb⟩)

theorem le_of_mem_of_all {l : Bytes} {c : UInt8} (hl : l.all (fun b => 32 ≤ b) = true) (h : c ∈ l) : 32 ≤ c :=
  of_decide_eq_true (List.all_eq_true.mp hl c h)

theorem le_of_mem_escapeByte {b c : UInt8} (h : c ∈ escapeByte b) : 32 ≤ c := by
  have hhex : ∀ n < 16, 32 ≤ lowerHexDigit n := by decide
  unfold escapeByte at h
  split at h
  · exact le_of_mem_of_all (by decide) h
  split at h
  · exact le_of_mem_of_all (by decide) h
  split at h
  · exact le_of_mem_of_all (by decide) h
  split at h
  · exact le_of_mem_of_all (by decide) h
  split at h
  · exact le_of_mem_of_all (by decide) h
  split at h
  · exact le_of_mem_of_all (by decide) h
  split at h
  · exact le_of_mem_of_all (by decide) h
  split at h
  · next hb =>
    have hlt : b.toNat < 32 := hb
    simp only [List.mem_cons, List.not_mem_nil, or_false] at h
    rcases h with rfl | rfl | rfl | rfl | rfl | rfl
    · decide
    · decide
    · decide
    · decide
    · exact hhex _ (by omega)
    · exact hhex _ (by omega)
  · next hb =>
    rw [List.mem_singleton.mp h]
    exact UInt8.not_lt.mp hb

theorem le_of_mem_encodeText {text : String} {c : UInt8} (h : c ∈ encodeText text) : 32 ≤ c := by
  simp only [encodeText, List.mem_append, List.mem_cons, List.mem_flatMap, List.not_mem_nil, or_false] at h
  rcases h with (rfl | ⟨b, -, hc⟩) | rfl
  · decide
  · exact le_of_mem_escapeByte hc
  · decide

theorem le_of_mem_value? {e : Entry} {field : Field} {value : Bytes} {c : UInt8}
    (hvalue : value? e field = some value) (h : c ∈ value) : 32 ≤ c := by
  cases field with
  | id | target =>
    cases hvalue
    exact le_of_mem_encodeText h
  | owner | correlation =>
    obtain ⟨text, -, rfl⟩ := Option.map_eq_some_iff.mp hvalue
    exact le_of_mem_encodeText h
  | deleted =>
    cases hvalue
    have hall : (encodeBool e.deleted).all (fun b => 32 ≤ b) = true := by cases e.deleted <;> decide
    exact le_of_mem_of_all hall h

theorem le_of_mem_encodeMember {e : Entry} {field : Field} {value : Bytes} {c : UInt8}
    (hvalue : value? e field = some value) (h : c ∈ encodeMember field value) : 32 ≤ c := by
  rcases List.mem_append.mp h with hname | hrest
  · exact le_of_mem_encodeText hname
  · rcases List.mem_cons.mp hrest with rfl | hrest
    · decide
    · exact le_of_mem_value? hvalue hrest

theorem le_of_mem_encode {e : Entry} {c : UInt8} (h : c ∈ encode e) : 32 ≤ c := by
  rw [encode_eq] at h
  simp only [List.mem_cons, List.mem_append, List.mem_flatMap, List.not_mem_nil, or_false] at h
  rcases h with rfl | (hid | ⟨w, hw, rfl | hc⟩) | rfl
  · decide
  · exact le_of_mem_encodeMember (show value? e .id = some (encodeText e.id) from rfl) hid
  · decide
  · exact le_of_mem_encodeMember (value?_of_mem_laterValues hw) hc
  · decide

end ShortLinks.Record
