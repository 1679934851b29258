import Mathlib.Data.List.DropRight
import ShortLinks.Proofs.Record.Interrupted
import ShortLinks.Proofs.Record.Skipping

/-!
# Members that are well-formed

A member is read up to its end whatever its value is, for what a field takes is no more than what could be skipped in its
place. If it is of a field it is the first one of that.
-/

set_option autoImplicit false

namespace ShortLinks.Record

/-- A member as it is written: a key, whose characters may be escaped, and any value. -/
structure Member where
  key : String
  spelling : Bytes
  value : Bytes
  beforeKey : Bytes
  afterKey : Bytes
  beforeValue : Bytes
  afterValue : Bytes
  spells : Spells spelling key.toList
  json : Json .value value
  blank_beforeKey : Blank beforeKey
  blank_afterKey : Blank afterKey
  blank_beforeValue : Blank beforeValue
  blank_afterValue : Blank afterValue

namespace Member

def afterQuote (w : Member) : Bytes :=
  w.spelling ++ 34 :: (w.afterKey ++ 58 :: (w.beforeValue ++ (w.value ++ w.afterValue)))

def text (w : Member) : Bytes := w.beforeKey ++ 34 :: w.afterQuote

def texts : Bool → List Member → Bytes
  | _, [] => []
  | isFirst, w :: ws => (if isFirst then [] else [44]) ++ (w.text ++ texts false ws)

end Member

def count (ws : List Member) (field : Field) : Nat := ws.countP fun w => w.key = field.name

def Quotes (text : String) (value : Bytes) : Prop :=
  ∃ spelling, Spells spelling text.toList ∧ value = 34 :: (spelling ++ [34])

def QuotesOrNull : Option String → Bytes → Prop
  | some text, value => Quotes text value
  | none, value => value = Bytes.ofText "null"

/-- The value is that of the field in an entry. -/
def Gives (e : Entry) : Field → Bytes → Prop
  | .id => Quotes e.id
  | .target => Quotes e.target
  | .owner => QuotesOrNull e.owner
  | .correlation => QuotesOrNull e.correlation
  | .deleted => fun value => value = Bytes.ofText (if e.deleted then "true" else "false")

variable {e : Entry} {field other : Field} {m m' : Members} {before value rest more s t : Bytes} {w : Member}
  {ws : List Member}

theorem readTextValue_quotes {text : String} (h : Quotes text value) (hbefore : Blank before) (rest : Bytes) :
    readTextValue (before ++ (value ++ rest)) = .ok (text, rest) := by
  obtain ⟨spelling, hspelling, rfl⟩ := h
  unfold readTextValue
  rw [List.cons_append, hbefore.skipBlanks_append_cons (by decide), List.append_assoc]
  exact readText_spells hspelling rest

theorem readOptionalText_quotesOrNull {text : Option String} (h : QuotesOrNull text value) (hbefore : Blank before)
    (rest : Bytes) : readOptionalText (before ++ (value ++ rest)) = .ok (text, rest) := by
  cases text with
  | none =>
    rw [show value = 110 :: nullTail from h.trans (by decide)]
    unfold readOptionalText
    rw [List.cons_append, hbefore.skipBlanks_append_cons (by decide)]
    rfl
  | some text =>
    have hread := readTextValue_quotes h (List.forall_mem_nil _) rest
    obtain ⟨spelling, -, rfl⟩ := h
    have hquote : skipBlanks (before ++ (34 :: (spelling ++ [34]) ++ rest)) = 34 :: (spelling ++ [34] ++ rest) :=
      hbefore.skipBlanks_append_cons (by decide) _
    rw [readOptionalText_eq hquote (by decide)]
    exact map_eq_ok.mpr ⟨_, hread, rfl⟩

theorem readBoolean_gives {v : Bool} (h : value = Bytes.ofText (if v then "true" else "false")) (hbefore : Blank before)
    (rest : Bytes) : readBoolean (before ++ (value ++ rest)) = .ok (v, rest) := by
  unfold readBoolean
  cases v with
  | true =>
    rw [show value = 116 :: trueTail from h.trans (by decide), List.cons_append, hbefore.skipBlanks_append_cons (by decide)]
    rfl
  | false =>
    rw [show value = 102 :: falseTail from h.trans (by decide), List.cons_append, hbefore.skipBlanks_append_cons (by decide)]
    rfl

theorem read_gives (h : Gives e field value) (hbefore : Blank before) (m : Members) (rest : Bytes) :
    m.read field (before ++ (value ++ rest)) = .ok (m.record e field, rest) := by
  cases field with
  | id => exact map_eq_ok.mpr ⟨_, readTextValue_quotes h hbefore rest, rfl⟩
  | target => exact map_eq_ok.mpr ⟨_, readTextValue_quotes h hbefore rest, rfl⟩
  | owner => exact map_eq_ok.mpr ⟨_, readOptionalText_quotesOrNull h hbefore rest, rfl⟩
  | correlation => exact map_eq_ok.mpr ⟨_, readOptionalText_quotesOrNull h hbefore rest, rfl⟩
  | deleted => exact map_eq_ok.mpr ⟨_, readBoolean_gives h hbefore rest, rfl⟩

theorem skipChars_of_readChars {raw : Bytes} (h : readChars s = .ok (raw, t)) : skipChars s = .ok t := by
  -- Left over are the cases in which something is read: the end, a pair of codes, a code, a letter and a plain byte.
  fun_induction readChars s generalizing raw with
  | case1 | case3 | case4 | case5 | case6 | case7 | case8 | case10 | case11 | case12 | case13 | case15
  | case17 | case18 => cases h
  | case2 s =>
    cases h
    exact skipChars_quote _
  | case9 w x y z n hn hnt hnl w' x' y' z' s m hm hmt _ ih =>
    obtain ⟨tail, hs, -⟩ := prepend_eq_ok.mp h
    exact ((skipChars_unicode hn _).trans (skipChars_unicode hm _)).trans (ih hs)
  | case14 w x y z s n hn hnt hnl _ ih =>
    obtain ⟨tail, hs, -⟩ := prepend_eq_ok.mp h
    exact (skipChars_unicode hn _).trans (ih hs)
  | case16 e s _ _ d hd _ ih =>
    obtain ⟨tail, hs, -⟩ := prepend_eq_ok.mp h
    exact (skipChars_simple hd _).trans (ih hs)
  | case19 b s hq hb hc ih =>
    obtain ⟨tail, hs, -⟩ := prepend_eq_ok.mp h
    exact (skipChars_plain hq hb hc _).trans (ih hs)

theorem skipValue_of_skipScalar {b : UInt8} {u : Bytes} (h : skipBlanks s = b :: u)
    (hskip : skipScalar (b :: u) = some (.ok t)) : skipValue s = .ok t := by
  have hb := head_of_skipScalar hskip
  simp only [List.mem_cons, List.not_mem_nil, or_false, not_or] at hb
  exact (skipOpen_scalar [] h hb.2.2.2.2.1 hb.2.2.2.2.2.2 hskip).trans (skipOpen_done (by decide) t)

theorem skipScalar_of_readTextValue {text : String} (h : readTextValue s = .ok (text, t)) :
    ∃ u, skipBlanks s = 34 :: u ∧ skipScalar (34 :: u) = some (.ok t) := by
  unfold readTextValue at h
  split at h
  · cases h
  · next u hu => exact ⟨u, hu, congrArg some (skipChars_of_readChars (readText_eq_ok.mp h))⟩
  · exact absurd h (wrongType_ne_ok _ _ _)

theorem skipValue_of_readTextValue {text : String} (h : readTextValue s = .ok (text, t)) : skipValue s = .ok t := by
  obtain ⟨u, hu, hskip⟩ := skipScalar_of_readTextValue h
  exact skipValue_of_skipScalar hu hskip

theorem skipValue_of_readOptionalText {text : Option String} (h : readOptionalText s = .ok (text, t)) :
    skipValue s = .ok t := by
  unfold readOptionalText at h
  split at h
  · next u hu =>
    obtain ⟨r, hr, heq⟩ := map_eq_ok.mp h
    cases heq
    exact skipValue_of_skipScalar hu (congrArg some hr)
  · obtain ⟨⟨v, r⟩, hr, heq⟩ := map_eq_ok.mp h
    cases heq
    obtain ⟨u, hu, hskip⟩ := skipScalar_of_readTextValue hr
    have hsame : skipBlanks (skipBlanks s) = skipBlanks s := List.dropWhile_idempotent _ _
    exact skipValue_of_skipScalar (hsame.symm.trans hu) hskip

theorem skipValue_of_readBoolean {v : Bool} (h : readBoolean s = .ok (v, t)) : skipValue s = .ok t := by
  unfold readBoolean at h
  split at h
  · cases h
  · next u hu =>
    obtain ⟨r, hr, heq⟩ := map_eq_ok.mp h
    cases heq
    exact skipValue_of_skipScalar hu (congrArg some hr)
  · next u hu =>
    obtain ⟨r, hr, heq⟩ := map_eq_ok.mp h
    cases heq
    exact skipValue_of_skipScalar hu (congrArg some hr)
  · exact absurd h (wrongType_ne_ok _ _ _)

/-- A value that a field takes is one that could be skipped, and ends where it would end then. -/
theorem skipValue_of_read (h : m.read field s = .ok (m', t)) : skipValue s = .ok t := by
  cases field <;> (obtain ⟨⟨v, r⟩, hr, heq⟩ := map_eq_ok.mp h; cases heq)
  case id | target => exact skipValue_of_readTextValue hr
  case owner | correlation => exact skipValue_of_readOptionalText hr
  case deleted => exact skipValue_of_readBoolean hr

theorem has_of_read (h : m.read field s = .ok (m', t)) : m'.has other = (m.has other || decide (other = field)) := by
  cases field <;> (obtain ⟨⟨v, r⟩, hr, heq⟩ := map_eq_ok.mp h; cases heq) <;> cases other <;> simp [Members.has]

theorem ofName?_eq_some_iff {key : String} : Field.ofName? key = some field ↔ key = field.name := by
  constructor
  · intro h
    have hname := List.find?_some h
    exact (beq_iff_eq.mp hname).symm
  · rintro rfl
    exact ofName?_name field

theorem readMember_afterQuote (w : Member) (hends : Ends (w.afterValue ++ more)) :
    readMember m (w.afterQuote ++ more) = .ok (m', t) ↔ match Field.ofName? w.key with
      | some field => m.has field = false ∧ m.read field (w.beforeValue ++ (w.value ++ (w.afterValue ++ more))) = .ok (m', t)
      | none => m = m' ∧ t = w.afterValue ++ more := by
  have hkey := readText_spells w.spells (w.afterKey ++ 58 :: (w.beforeValue ++ (w.value ++ (w.afterValue ++ more))))
  have hcolon : skipColon (w.afterKey ++ 58 :: (w.beforeValue ++ (w.value ++ (w.afterValue ++ more)))) =
      .ok (w.beforeValue ++ (w.value ++ (w.afterValue ++ more))) := by
    unfold skipColon
    rw [w.blank_afterKey.skipBlanks_append_cons (by decide)]
    rfl
  have hskip := skipValue_json w.json w.blank_beforeValue hends
  have hquote : w.afterQuote ++ more =
      w.spelling ++ quote :: (w.afterKey ++ 58 :: (w.beforeValue ++ (w.value ++ (w.afterValue ++ more)))) := by
    simp [Member.afterQuote, quote]
  rw [hquote, readMember_eq_ok]
  constructor
  · rintro ⟨key, u, v, htext, hv, h⟩
    cases hkey.symm.trans htext
    cases hcolon.symm.trans hv
    cases hfield : Field.ofName? w.key with
    | some field => rwa [hfield] at h
    | none =>
      rw [hfield] at h
      exact ⟨h.1, (Except.ok.inj (hskip.symm.trans h.2)).symm⟩
  · intro h
    refine ⟨_, _, _, hkey, hcolon, ?_⟩
    cases hfield : Field.ofName? w.key with
    | some field => rwa [hfield] at h
    | none =>
      rw [hfield] at h
      exact ⟨h.1, hskip.trans (congrArg Except.ok h.2.symm)⟩

def Members.count (m : Members) (field : Field) : Nat := (m.has field).toNat

theorem Members.count_le_one (m : Members) (field : Field) : m.count field ≤ 1 := Bool.toNat_le _

theorem Members.count_empty (field : Field) : Members.empty.count field = 0 := by cases field <;> rfl

theorem Members.count_eq_zero_iff : m.count field = 0 ↔ m.has field = false := Bool.toNat_eq_zero

theorem count_cons (w : Member) (ws : List Member) (field : Field) :
    count (w :: ws) field = count ws field + if w.key = field.name then 1 else 0 := by
  simp [count, List.countP_cons]

theorem count_of_readMember (hends : Ends (w.afterValue ++ more)) (h : readMember m (w.afterQuote ++ more) = .ok (m', t)) :
    t = w.afterValue ++ more ∧ ∀ field, m'.count field = m.count field + if w.key = field.name then 1 else 0 := by
  rw [readMember_afterQuote w hends] at h
  cases hfield : Field.ofName? w.key with
  | none =>
    rw [hfield] at h
    obtain ⟨rfl, rfl⟩ := h
    refine ⟨rfl, fun field => ?_⟩
    have hne : w.key ≠ field.name := fun hname => by simp [ofName?_eq_some_iff.mpr hname] at hfield
    rw [if_neg hne, Nat.add_zero]
  | some field =>
    rw [hfield] at h
    have hskip := skipValue_json w.json w.blank_beforeValue hends
    refine ⟨(Except.ok.inj (hskip.symm.trans (skipValue_of_read h.2))).symm, fun other => ?_⟩
    have hkey := ofName?_eq_some_iff.mp hfield
    unfold Members.count
    rw [has_of_read h.2]
    by_cases hother : other = field
    · subst hother
      simp [h.1, hkey]
    · have hne : w.key ≠ other.name := fun hname => hother (by
        have hsame := ofName?_eq_some_iff.mpr hname
        exact (Option.some.inj (hfield.symm.trans hsame)).symm)
      simp [hother, hne]

theorem startsMember_texts {isFirst : Bool} {blanks : Bytes} (h : Blank blanks) (w : Member) (ws : List Member) (rest : Bytes) :
    startsMember isFirst (blanks ++ (Member.texts isFirst (w :: ws) ++ rest))
      (w.afterQuote ++ (Member.texts false ws ++ rest)) := by
  have hquote {blanks : Bytes} (h : Blank blanks) :
      skipBlanks (blanks ++ (w.text ++ (Member.texts false ws ++ rest))) =
        34 :: (w.afterQuote ++ (Member.texts false ws ++ rest)) := by
    have hskip := (h.append w.blank_beforeKey).skipBlanks_append_cons (b := 34) (by decide)
      (w.afterQuote ++ (Member.texts false ws ++ rest))
    rw [List.append_assoc] at hskip
    rwa [Member.text, List.append_assoc]
  cases isFirst with
  | true => simpa [startsMember, Member.texts] using hquote h
  | false =>
    refine ⟨w.text ++ (Member.texts false ws ++ rest), ?_, hquote (List.forall_mem_nil _)⟩
    simpa [Member.texts] using h.skipBlanks_append_cons (b := 44) (by decide) _

theorem ends_texts (ws : List Member) (rest : Bytes) : Ends (Member.texts false ws ++ 125 :: rest) := by
  cases ws <;> simp [Ends, Member.texts]

/-- Every member that is read counts once, and none can be read twice. -/
theorem count_of_readMembers {fuel : Nat} {isFirst : Bool} {blanks : Bytes} (hblanks : Blank blanks)
    (h : readMembers fuel isFirst m (blanks ++ (Member.texts isFirst ws ++ 125 :: rest)) = .ok (m', t)) (field : Field) :
    m'.count field = m.count field + count ws field := by
  -- Nothing is asked of the fuel: where it runs out nothing is read.
  induction ws generalizing fuel isFirst blanks m with
  | nil =>
    cases fuel with
    | zero => cases h
    | succ fuel =>
      have hclose : skipBlanks (blanks ++ (Member.texts isFirst [] ++ 125 :: rest)) = 125 :: rest :=
        hblanks.skipBlanks_append_cons (by decide) rest
      cases (readMembers_close hclose).symm.trans h
      rfl
  | cons w ws ih =>
    cases fuel with
    | zero => cases h
    | succ fuel =>
      rw [readMembers_member (startsMember_texts hblanks w ws _)] at h
      obtain ⟨⟨m₁, v⟩, hmember, hmore⟩ := bind_eq_ok.mp h
      obtain ⟨rfl, hcount⟩ := count_of_readMember (w.blank_afterValue.ends_append (ends_texts ws rest)) hmember
      rw [ih w.blank_afterValue hmore, hcount, count_cons]
      omega

end ShortLinks.Record
