import ShortLinks.Settings.Environment

/-!
# Looking variables up

What an environment says of a variable, before and after that or another variable is set or taken out.
-/

set_option autoImplicit false

namespace ShortLinks

namespace Bytes

variable {b : Bytes} {text text' : String}

def IsText (b : Bytes) : Prop := ∃ text, ofText text = b

theorem text?_eq_none_iff : text? b = none ↔ ¬ IsText b := by
  rw [Option.eq_none_iff_forall_ne_some, IsText, not_exists]
  exact forall_congr' fun text => not_congr text?_eq_some_iff

theorem ofText_inj : ofText text = ofText text' ↔ text = text' := by
  rw [← text?_eq_some_iff, text?_ofText, Option.some_inj, eq_comm]

theorem ofText_eq_nil_iff : ofText text = [] ↔ text = "" := show ofText text = ofText "" ↔ _ from ofText_inj

end Bytes

namespace Environment

variable {env : Environment} {name other text : String} {value : Bytes} {cause : Unset}

def unset (env : Environment) (name : String) : Environment := env.filter (·.1 != name)

theorem lookup_unset_self : (env.unset name).lookup name = none := by
  rw [List.lookup_eq_none_iff]
  intro entry hentry
  have hne : entry.1 ≠ name := by simpa using (List.mem_filter.mp hentry).2
  exact bne_iff_ne.mpr hne.symm

theorem lookup_unset_of_ne (h : other ≠ name) : (env.unset name).lookup other = env.lookup other := by
  induction env with
  | nil => rfl
  | cons entry env ih =>
    obtain ⟨first, value⟩ := entry
    by_cases hfirst : first = name
    · have hother : (other == first) = false := by
        rw [hfirst]
        exact beq_false_of_ne h
      have hdrop : unset ((first, value) :: env) name = unset env name := by simp [unset, hfirst]
      rw [hdrop, ih, List.lookup_cons, hother]
    · have hkeep : unset ((first, value) :: env) name = (first, value) :: unset env name := by simp [unset, hfirst]
      rw [hkeep, List.lookup_cons, List.lookup_cons, ih]

theorem lookup_set_self : (env.set name value).lookup name = some value := List.lookup_cons_self

theorem lookup_set_of_ne (h : other ≠ name) : (env.set name value).lookup other = env.lookup other := by
  have hother : (other == name) = false := beq_false_of_ne h
  calc (env.set name value).lookup other = (env.unset name).lookup other := by
        rw [set, List.lookup_cons, hother]
        rfl
    _ = env.lookup other := lookup_unset_of_ne h

theorem text_eq_ok_iff : env.text name = .ok text ↔ env.lookup name = some (Bytes.ofText text) := by
  unfold Environment.text
  cases env.lookup name with
  | none => simp
  | some value =>
    rw [Option.some_inj, eq_comm (a := value), ← Bytes.text?_eq_some_iff]
    cases hread : Bytes.text? value <;> simp [hread]

theorem text?_of_ok (h : env.text name = .ok text) : env.text? name = some text := by
  rw [text?, h]
  rfl

theorem text?_of_error (h : env.text name = .error cause) : env.text? name = none := by
  rw [text?, h]
  rfl

theorem text?_eq_some_iff : env.text? name = some text ↔ env.lookup name = some (Bytes.ofText text) := by
  rw [← text_eq_ok_iff, text?]
  cases env.text name <;> simp [Except.toOption]

theorem text?_of_missing (h : env.lookup name = none) : env.text? name = none := by
  unfold text? Environment.text
  rw [h]
  rfl

theorem text?_of_not_isText (h : env.lookup name = some value) (hvalue : ¬ value.IsText) : env.text? name = none := by
  simp only [text?, Environment.text, h, Bytes.text?_eq_none_iff.mpr hvalue]
  rfl

theorem nonEmpty?_eq_some_iff :
    env.nonEmpty? name = some text ↔ env.lookup name = some (Bytes.ofText text) ∧ text ≠ "" := by
  rw [nonEmpty?, Option.filter_eq_some_iff, text?_eq_some_iff, bne_iff_ne]

theorem text_congr {env' : Environment} (h : env.lookup name = env'.lookup name) : env.text name = env'.text name := by
  unfold Environment.text
  rw [h]

end Environment
end ShortLinks
