import ShortLinks.Proofs.Log.Lines
import ShortLinks.Proofs.Record.Codec
import ShortLinks.Proofs.Record.Members

/-!
# Records in any order

A record may be written otherwise than the encoder does it: with its members in any order, with others among them and
with blanks anywhere. It says the same entry, and no object is taken for a record that says a member twice or lacks one
that every entry has.
-/

set_option autoImplicit false

namespace ShortLinks.Record

structure Object where
  before : Bytes
  inside : Bytes
  members : List Member
  after : Bytes
  blank_before : Blank before
  blank_inside : Blank inside
  blank_after : Blank after

/-- The entry is what a record means that says nothing of the field. -/
def MayLack (e : Entry) : Field → Prop
  | .id | .target => False
  | .owner => e.owner = none
  | .correlation => e.correlation = none
  | .deleted => e.deleted = false

namespace Object

def afterBrace (o : Object) : Bytes := o.inside ++ (Member.texts true o.members ++ 125 :: o.after)

def text (o : Object) : Bytes := o.before ++ 123 :: o.afterBrace

/-- The members that are known say this entry, none of them twice. -/
structure Tells (o : Object) (e : Entry) : Prop where
  gives : ∀ w ∈ o.members, ∀ field, w.key = field.name → Gives e field w.value
  once : ∀ field, count o.members field ≤ 1
  whole : ∀ field, count o.members field = 0 → MayLack e field

end Object

variable {e : Entry} {field : Field} {m : Members} {rest more s t : Bytes} {w : Member} {ws : List Member}

/-- Whatever fields there are say what the entry says. -/
def Holds (e : Entry) (m : Members) : Prop := ∀ field, m.has field = true → m.record e field = m

theorem holds_empty (e : Entry) : Holds e Members.empty := by
  intro field h
  cases field <;> cases h

theorem Holds.record (h : Holds e m) (field : Field) : Holds e (m.record e field) := by
  -- Fields do not overwrite each other.
  have hcomm (other : Field) : (m.record e field).record e other = (m.record e other).record e field := by
    cases field <;> cases other <;> rfl
  intro other hother
  by_cases hsame : other = field
  · subst hsame
    cases other <;> rfl
  · rw [has_record e m hsame] at hother
    rw [hcomm, h other hother]

theorem Holds.entry (h : Holds e m) (hlack : ∀ field, m.has field = false → MayLack e field) : m.entry = .ok e := by
  have hhas (field : Field) (hmust : ¬ MayLack e field) : m.has field = true := by
    by_contra hnot
    exact hmust (hlack field (Bool.eq_false_iff.mpr hnot))
  have hid : m.id = some e.id := by
    rw [← h .id (hhas .id id)]
    rfl
  have htarget : m.target = some e.target := by
    rw [← h .target (hhas .target id)]
    rfl
  -- A field that is optional is there, or the entry has nothing in it.
  have howner : m.owner.join = e.owner := by
    cases hfield : m.has .owner with
    | true =>
      rw [← h .owner hfield]
      rfl
    | false =>
      rw [show m.owner = none by simpa [Members.has] using hfield, hlack .owner hfield]
      rfl
  have hcorrelation : m.correlation.join = e.correlation := by
    cases hfield : m.has .correlation with
    | true =>
      rw [← h .correlation hfield]
      rfl
    | false =>
      rw [show m.correlation = none by simpa [Members.has] using hfield, hlack .correlation hfield]
      rfl
  have hdeleted : m.deleted.getD false = e.deleted := by
    cases hfield : m.has .deleted with
    | true =>
      rw [← h .deleted hfield]
      rfl
    | false =>
      rw [show m.deleted = none by simpa [Members.has] using hfield, hlack .deleted hfield]
      rfl
  unfold Members.entry
  rw [hid, htarget]
  simp only [howner, hcorrelation, hdeleted]

theorem readMember_gives (hends : Ends (w.afterValue ++ more)) (hgives : ∀ field, w.key = field.name → Gives e field w.value)
    (honce : ∀ field, w.key = field.name → m.has field = false) (hm : Holds e m) :
    ∃ m', Holds e m' ∧ readMember m (w.afterQuote ++ more) = .ok (m', w.afterValue ++ more) := by
  cases hfield : Field.ofName? w.key with
  | none =>
    refine ⟨m, hm, (readMember_afterQuote w hends).mpr ?_⟩
    rw [hfield]
    exact ⟨rfl, rfl⟩
  | some field =>
    have hkey := ofName?_eq_some_iff.mp hfield
    refine ⟨m.record e field, hm.record field, (readMember_afterQuote w hends).mpr ?_⟩
    rw [hfield]
    exact ⟨honce field hkey, read_gives (hgives field hkey) w.blank_beforeValue m _⟩

theorem readMembers_gives {fuel : Nat} {isFirst : Bool} {blanks : Bytes} (hblanks : Blank blanks)
    (hgives : ∀ w ∈ ws, ∀ field, w.key = field.name → Gives e field w.value)
    (honce : ∀ field, m.count field + count ws field ≤ 1) (hfuel : ws.length < fuel) (hm : Holds e m) (rest : Bytes) :
    ∃ m', Holds e m' ∧
      readMembers fuel isFirst m (blanks ++ (Member.texts isFirst ws ++ 125 :: rest)) = .ok (m', 125 :: rest) := by
  -- What has been read and what is still to come hold each field once between them.
  induction ws generalizing fuel isFirst blanks m with
  | nil =>
    cases fuel with
    | zero => simp at hfuel
    | succ fuel => exact ⟨m, hm, readMembers_close (hblanks.skipBlanks_append_cons (by decide) rest)⟩
  | cons w ws ih =>
    cases fuel with
    | zero => simp at hfuel
    | succ fuel =>
      have hends : Ends (w.afterValue ++ (Member.texts false ws ++ 125 :: rest)) :=
        w.blank_afterValue.ends_append (ends_texts ws rest)
      obtain ⟨hfirst, hlater⟩ := List.forall_mem_cons.mp hgives
      simp only [count_cons] at honce
      have hnew (field : Field) (hkey : w.key = field.name) : m.has field = false := by
        have hfield := honce field
        rw [if_pos hkey] at hfield
        exact Members.count_eq_zero_iff.mp (by omega)
      obtain ⟨m₁, hm₁, hmember⟩ := readMember_gives hends hfirst hnew hm
      obtain ⟨-, hcount⟩ := count_of_readMember hends hmember
      have honce₁ (field : Field) : m₁.count field + count ws field ≤ 1 := by
        have hfield := honce field
        rw [hcount field]
        omega
      obtain ⟨m', hm', hread⟩ : ∃ m', Holds e m' ∧
          readMembers fuel false m₁ (w.afterValue ++ (Member.texts false ws ++ 125 :: rest)) = .ok (m', 125 :: rest) :=
        ih w.blank_afterValue hlater honce₁ (Nat.lt_of_succ_lt_succ hfuel) hm₁
      refine ⟨m', hm', ?_⟩
      rw [readMembers_member (startsMember_texts hblanks w ws _), hmember]
      exact hread

theorem length_le_texts (isFirst : Bool) (ws : List Member) : ws.length ≤ (Member.texts isFirst ws).length := by
  induction ws generalizing isFirst with
  | nil => simp
  | cons w ws ih =>
    have hws := ih false
    simp only [Member.texts, Member.text, List.length_append, List.length_cons]
    omega

theorem readObject_eq_ok : readObject s = .ok (e, rest) ↔ ∃ m t,
    readMembers (s.length + 1) true Members.empty s = .ok (m, t) ∧ m.entry = .ok e ∧ t.drop 1 = rest := by
  unfold readObject
  refine bind_eq_ok.trans ⟨?_, ?_⟩
  · rintro ⟨⟨m, t⟩, hread, h⟩
    refine ⟨m, t, hread, ?_⟩
    simp only at h
    split at h
    · cases h
    · next entry hentry =>
      cases h
      exact ⟨hentry, rfl⟩
  · rintro ⟨m, t, hread, hentry, rfl⟩
    exact ⟨(m, t), hread, by simp only [hentry]; rfl⟩

theorem Blank.skipBlanks_eq_nil {blanks : Bytes} (h : Blank blanks) : skipBlanks blanks = [] :=
  skipBlanks_eq_nil_iff.mpr fun _ hb => h.isRecordBlank hb

namespace Object

variable {o : Object}

theorem readBody_text (o : Object) : readBody o.text = readObject o.afterBrace := by
  rw [text, readBody_blanks_append o.blank_before.skipBlanks_eq_nil, readBody, skipBlanks_cons (by decide)]
  rfl

theorem decode_text_eq_ok : decode o.text = .ok e ↔
    ∃ m t, readMembers (o.afterBrace.length + 1) true Members.empty o.afterBrace = .ok (m, t) ∧ m.entry = .ok e ∧
      skipBlanks (t.drop 1) = [] := by
  rw [decode_eq_ok, readRecord_eq_ok, readBody_text]
  simp only [readObject_eq_ok]
  constructor
  · rintro ⟨rest, ⟨m, t, hread, hentry, rfl⟩, hrest⟩
    exact ⟨m, t, hread, hentry, hrest⟩
  · rintro ⟨m, t, hread, hentry, hrest⟩
    exact ⟨_, ⟨m, t, hread, hentry, rfl⟩, hrest⟩

theorem count_of_read {fuel : Nat} (h : readMembers fuel true Members.empty o.afterBrace = .ok (m, t)) (field : Field) :
    m.count field = count o.members field := by
  have hcount := count_of_readMembers o.blank_inside h field
  rwa [Members.count_empty, Nat.zero_add] at hcount

theorem decode_of_tells (h : o.Tells e) : decode o.text = .ok e := by
  have hfuel : o.members.length < o.afterBrace.length + 1 := by
    have hle := length_le_texts true o.members
    simp only [afterBrace, List.length_append, List.length_cons]
    omega
  have honce (field : Field) : Members.empty.count field + count o.members field ≤ 1 := by
    rw [Members.count_empty, Nat.zero_add]
    exact h.once field
  obtain ⟨m, hm, hread⟩ : ∃ m, Holds e m ∧
      readMembers (o.afterBrace.length + 1) true Members.empty o.afterBrace = .ok (m, 125 :: o.after) :=
    readMembers_gives o.blank_inside h.gives honce hfuel (holds_empty e) o.after
  refine decode_text_eq_ok.mpr ⟨m, _, hread, hm.entry fun field hlacks => h.whole field ?_, o.blank_after.skipBlanks_eq_nil⟩
  rw [← count_of_read hread]
  exact Members.count_eq_zero_iff.mpr hlacks

theorem count_of_decode (h : decode o.text = .ok e) (field : Field) :
    count o.members field ≤ 1 ∧ (field ∈ [.id, .target] → count o.members field ≠ 0) := by
  obtain ⟨m, t, hread, hentry, -⟩ := decode_text_eq_ok.mp h
  rw [← count_of_read hread]
  refine ⟨m.count_le_one field, fun hfield hnone => ?_⟩
  have hlacks : m.has field = false := Members.count_eq_zero_iff.mp hnone
  unfold Members.entry at hentry
  split at hentry
  · cases hentry
  · cases hentry
  · next hid htarget =>
    simp only [List.mem_cons, List.not_mem_nil, or_false] at hfield
    rcases hfield with rfl | rfl
    · simp [Members.has, hid] at hlacks
    · simp [Members.has, htarget] at hlacks

def Refused (text : Bytes) : Prop :=
  ∃ cause, decode text = .error cause ∧ Log.readLine text = .malformed (Log.dropLineEnd text) cause

/-- How an object is read as a record. -/
structure Decodes (o : Object) : Prop where
  told : ∀ e, o.Tells e → decode o.text = .ok e ∧ Log.readLine o.text = .record e
  repeated : ∀ field, 2 ≤ count o.members field → Refused o.text
  lacking : ∀ field ∈ [Field.id, .target], count o.members field = 0 → Refused o.text

theorem readLine_text (o : Object) : Log.readLine o.text = match decode o.text with
    | .ok e => .record e
    | .error cause => .malformed (Log.dropLineEnd o.text) cause := by
  have hbrace : ¬ o.text.all Bytes.isAsciiBlank = true := fun hblank =>
    absurd (List.all_eq_true.mp hblank 123 (List.mem_append_right _ List.mem_cons_self)) (by decide)
  unfold Log.readLine
  refine (if_neg hbrace).trans ?_
  cases decode o.text <;> rfl

theorem refused_of_ne_ok (h : ∀ e, decode o.text ≠ .ok e) : Refused o.text := by
  have hline := readLine_text o
  cases hdecode : decode o.text with
  | ok e => exact absurd hdecode (h e)
  | error cause =>
    rw [hdecode] at hline
    exact ⟨cause, hdecode, hline⟩

theorem decodes (o : Object) : o.Decodes where
  told e h := by
    have hdecode := decode_of_tells h
    have hline := readLine_text o
    rw [hdecode] at hline
    exact ⟨hdecode, hline⟩
  repeated field h := refused_of_ne_ok fun e he => by
    have hcount := (count_of_decode he field).1
    omega
  lacking field hfield h := refused_of_ne_ok fun e he => (count_of_decode he field).2 hfield h

example : decode (Bytes.ofText
    "\x7b \"x\": [1.5e3, \x7b\"id\": []\x7d], \"deleted\": false,\t\"target\" :\"t\",\"x\":null,\"\\u0069d\":\"a\"\x7d ") =
      .ok ⟨"a", "t", none, none, false⟩ := by
  cbv

/-- The order of the members decides nothing. -/
theorem Tells.perm (h : o.Tells e) (hperm : o.members.Perm ws) : Tells { o with members := ws } e where
  gives w hw := h.gives w (hperm.mem_iff.mpr hw)
  once field := (hperm.countP_eq _).symm.trans_le (h.once field)
  whole field hcount := h.whole field ((hperm.countP_eq _).trans hcount)

end Object

theorem Quotes.json {text : String} {value : Bytes} (h : Quotes text value) : Json .value value := by
  obtain ⟨spelling, hspelling, rfl⟩ := h
  exact .scalar (.text hspelling.quoted)

theorem gives_value {value : Bytes} (h : value? e field = some value) : Gives e field value ∧ Json .value value := by
  have htext (text : String) : Quotes text (encodeText text) := ⟨_, spells_escape text, rfl⟩
  cases field with
  | id | target =>
    cases h
    exact ⟨htext _, (htext _).json⟩
  | owner | correlation =>
    obtain ⟨text, hsome, rfl⟩ := Option.map_eq_some_iff.mp h
    refine ⟨?_, (htext text).json⟩
    show QuotesOrNull _ _
    rw [hsome]
    exact htext text
  | deleted =>
    cases h
    refine ⟨rfl, .scalar (.word ?_)⟩
    cases e.deleted <;> simp

theorem exists_members {written : List (Field × Bytes)} (h : ∀ w ∈ written, value? e w.1 = some w.2) : ∃ ws : List Member,
    (∀ w ∈ ws, ∀ field, w.key = field.name → Gives e field w.value) ∧
      (∀ field, count ws field = (written.map Prod.fst).count field) ∧
      Member.texts false ws = written.flatMap fun w => 44 :: encodeMember w.1 w.2 := by
  induction written with
  | nil => exact ⟨[], by simp, fun _ => rfl, rfl⟩
  | cons first written ih =>
    obtain ⟨hfirst, hwritten⟩ := List.forall_mem_cons.mp h
    obtain ⟨ws, hgives, hcount, htexts⟩ := ih hwritten
    have hblank : Blank [] := List.forall_mem_nil _
    have hvalue := gives_value hfirst
    have hname {field : Field} (hkey : first.1.name = field.name) : first.1 = field :=
      Option.some.inj ((ofName?_name _).symm.trans (ofName?_eq_some_iff.mpr hkey))
    refine ⟨⟨first.1.name, _, first.2, [], [], [], [], spells_escape _, hvalue.2, hblank, hblank, hblank, hblank⟩ :: ws,
      List.forall_mem_cons.mpr ⟨fun field hkey => hname hkey ▸ hvalue.1, hgives⟩, fun field => ?_, ?_⟩
    · rw [count_cons, hcount, List.map_cons, List.count_cons]
      by_cases hsame : first.1 = field
      · simp [hsame]
      · rw [if_neg fun hkey => hsame (hname hkey), if_neg (by simpa using hsame)]
    · rw [List.flatMap_cons, ← htexts]
      simp [Member.texts, Member.text, Member.afterQuote, encodeMember, encodeText]

theorem texts_false (h : ws ≠ []) : Member.texts false ws = 44 :: Member.texts true ws := by
  cases ws with
  | nil => exact absurd rfl h
  | cons w ws => rfl

/-- What the encoder writes is one of the objects that tell an entry. -/
theorem exists_tells_encode (e : Entry) : ∃ o : Object, o.Tells e ∧ o.text = encode e := by
  have hvalues : ∀ w ∈ (Field.id, encodeText e.id) :: laterValues e, value? e w.1 = some w.2 :=
    List.forall_mem_cons.mpr ⟨rfl, fun w hw => value?_of_mem_laterValues hw⟩
  obtain ⟨ws, hgives, hcount, htexts⟩ := exists_members hvalues
  rw [texts_false (by rintro rfl; cases htexts)] at htexts
  have hbody : Member.texts true ws =
      encodeMember .id (encodeText e.id) ++ (laterValues e).flatMap fun w => 44 :: encodeMember w.1 w.2 :=
    (List.cons.inj htexts).2
  have hblank : Blank [] := List.forall_mem_nil _
  refine ⟨⟨[], [], ws, [], hblank, hblank, hblank⟩, ⟨hgives, fun field => ?_, fun field hnone => ?_⟩, ?_⟩
  · rw [hcount]
    exact List.nodup_iff_count.mp (nodup_laterValues e) field
  · rw [hcount, List.count_eq_zero] at hnone
    cases field with
    | id => exact hnone List.mem_cons_self
    | target | deleted => simp [laterValues, value?] at hnone
    | owner | correlation => exact Option.eq_none_iff_forall_ne_some.mpr (by simpa [laterValues, value?] using hnone)
  · simp [Object.text, Object.afterBrace, hbody, encode_eq]

end ShortLinks.Record
