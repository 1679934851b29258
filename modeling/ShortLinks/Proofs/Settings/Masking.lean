import Mathlib.Data.List.TakeWhile
import ShortLinks.Settings
import ShortLinks.Proofs.Settings.Environment

/-!
# What is shown of a password

Stars stand in an address for what comes between the last colon before the first at sign and that at sign. A password
that has neither sign is hidden whole. What a password holds up to such a colon, and what it holds after its first at
sign, is shown, and nothing else of it is.
-/

set_option autoImplicit false

namespace ShortLinks.Settings

variable {mark s front back before after scheme user rest : List Char}

theorem splitAt?_mark_append (mark after : List Char) : splitAt? mark (mark ++ after) = some ([], after) := by
  rcases hs : mark ++ after with _ | ⟨c, s⟩
  · obtain ⟨rfl, rfl⟩ := List.append_eq_nil_iff.mp hs
    rfl
  · have hprefix : mark.isPrefixOf (c :: s) = true := List.isPrefixOf_iff_prefix.mpr ⟨after, hs⟩
    rw [splitAt?, if_pos hprefix, ← hs, List.drop_left]

theorem splitAt?_cons {c : Char} (h : ¬ mark <+: c :: s) :
    splitAt? mark (c :: s) = (splitAt? mark s).map fun (before, after) => (c :: before, after) := by
  rw [splitAt?, if_neg (List.isPrefixOf_iff_prefix.not.mpr h)]

theorem splitAt?_append (h : ∀ c tail, c :: tail <:+ before → ¬ mark <+: c :: (tail ++ (mark ++ after))) :
    splitAt? mark (before ++ (mark ++ after)) = some (before, after) := by
  induction before with
  | nil => exact splitAt?_mark_append mark after
  | cons c before ih =>
    have hbefore : splitAt? mark (before ++ (mark ++ after)) = some (before, after) :=
      ih fun d tail htail => h d tail (htail.trans (List.suffix_cons c before))
    rw [List.cons_append, splitAt?_cons (h c before List.suffix_rfl), hbefore]
    rfl

theorem splitAt?_at_append (h : '@' ∉ before) : splitAt? ['@'] (before ++ '@' :: after) = some (before, after) := by
  have hclean : ∀ c tail, c :: tail <:+ before → ¬ ['@'] <+: c :: (tail ++ (['@'] ++ after)) := by
    intro c tail htail hprefix
    have hc : '@' = c := (List.cons_prefix_cons.mp hprefix).1
    exact h (htail.subset (hc ▸ List.mem_cons_self))
  exact splitAt?_append hclean

theorem splitAt?_at_eq_none (h : '@' ∉ s) : splitAt? ['@'] s = none := by
  induction s with
  | nil => rfl
  | cons c s ih =>
    obtain ⟨hc, hs⟩ := List.ne_and_not_mem_of_not_mem_cons h
    rw [splitAt?_cons fun hprefix => hc (List.cons_prefix_cons.mp hprefix).1, ih hs]
    rfl

/-- No end of the mark after a scheme is the front of another such mark, so that the first one ends the scheme. -/
theorem splitAt?_scheme_append (h : ¬ "://".toList <:+: scheme) :
    splitAt? "://".toList (scheme ++ ("://".toList ++ after)) = some (scheme, after) := by
  refine splitAt?_append fun c tail htail hprefix => ?_
  match tail with
  | [] => simp at hprefix
  | [d] => simp at hprefix
  | d :: e :: tail =>
    have hfront : "://".toList <+: c :: d :: e :: tail := by simpa using hprefix
    exact h (hfront.isInfix.trans htail.isInfix)

theorem scheme_of_no_colon (h : ':' ∉ scheme) : ¬ "://".toList <:+: scheme :=
  fun hmark => h (hmark.subset List.mem_cons_self)

theorem ne_colon_of_mem_reverse (h : ':' ∉ s) : ∀ c ∈ s.reverse, (c != ':') = true :=
  fun _ hc => bne_iff_ne.mpr fun hcolon => h (hcolon ▸ List.mem_reverse.mp hc)

theorem beforeLastColon?_append (h : ':' ∉ back) : beforeLastColon? (front ++ ':' :: back) = some front := by
  unfold beforeLastColon?
  rw [List.reverse_append, List.reverse_cons, List.append_assoc,
    List.dropWhile_append_of_pos (ne_colon_of_mem_reverse h)]
  simp

theorem beforeLastColon?_eq_none (h : ':' ∉ s) : beforeLastColon? s = none := by
  unfold beforeLastColon?
  rw [List.dropWhile_eq_nil_iff.mpr (ne_colon_of_mem_reverse h)]

theorem colon_cases (s : List Char) : ':' ∉ s ∨ ∃ front back, ':' ∉ back ∧ s = front ++ ':' :: back := by
  by_cases h : ':' ∈ s
  · obtain ⟨back, front, hs, hback⟩ := List.eq_append_cons_of_mem (List.mem_reverse.mpr h)
    refine .inr ⟨front.reverse, back.reverse, by simpa using hback, ?_⟩
    have hs' := congrArg List.reverse hs
    simpa using hs'
  · exact .inl h

theorem beforeLastColon?_eq_none_iff : beforeLastColon? s = none ↔ ':' ∉ s := by
  refine ⟨fun hnone hcolon => ?_, beforeLastColon?_eq_none⟩
  rcases colon_cases s with h | ⟨front, back, hback, rfl⟩
  · exact h hcolon
  · exact nomatch (beforeLastColon?_append hback).symm.trans hnone

/-- What is shown of a password: what it holds before the last colon that comes before its first at sign, and what it
holds after its first at sign. -/
def exposed (password : String) : Option (List Char) × Option (List Char) :=
  match splitAt? ['@'] password.toList with
  | none => (beforeLastColon? password.toList, none)
  | some (before, after) => (beforeLastColon? before, some after)

variable {password p q : String}

theorem exposed_of_not_mem (h : '@' ∉ password.toList) : exposed password = (beforeLastColon? password.toList, none) := by
  rw [exposed, splitAt?_at_eq_none h]

theorem exposed_of_append (h : '@' ∉ before) (hpassword : password.toList = before ++ '@' :: after) :
    exposed password = (beforeLastColon? before, some after) := by
  rw [exposed, hpassword, splitAt?_at_append h]

theorem exposed_eq_none_iff : exposed password = (none, none) ↔ ':' ∉ password.toList ∧ '@' ∉ password.toList := by
  by_cases hat : '@' ∈ password.toList
  · obtain ⟨before, after, hpassword, hbefore⟩ := List.eq_append_cons_of_mem hat
    rw [exposed_of_append hbefore hpassword]
    simp [hat]
  · rw [exposed_of_not_mem hat, Prod.mk.injEq, beforeLastColon?_eq_none_iff]
    simp [hat]

theorem not_mem_of_exposed (h : (exposed password).1 = some front) : '@' ∉ front := by
  have hfront {s : List Char} (hs : '@' ∉ s) (hsome : beforeLastColon? s = some front) : '@' ∉ front := by
    rcases colon_cases s with hnone | ⟨front', back, hback, rfl⟩
    · exact nomatch (beforeLastColon?_eq_none hnone).symm.trans hsome
    · obtain rfl := Option.some.inj ((beforeLastColon?_append hback).symm.trans hsome)
      exact fun hmem => hs (List.mem_append_left _ hmem)
  by_cases hat : '@' ∈ password.toList
  · obtain ⟨before, after, hpassword, hbefore⟩ := List.eq_append_cons_of_mem hat
    rw [exposed_of_append hbefore hpassword] at h
    exact hfront hbefore h
  · rw [exposed_of_not_mem hat] at h
    exact hfront hat h

def afterColon : Option (List Char) → List Char
  | none => []
  | some front => ':' :: front

def beforeAt : Option (List Char) → List Char
  | none => []
  | some after => after ++ ['@']

def masked (scheme user rest : List Char) (shown : Option (List Char) × Option (List Char)) : List Char :=
  scheme ++ ("://".toList ++ (user ++ (afterColon shown.1 ++ ":***".toList ++ '@' :: (beforeAt shown.2 ++ rest))))

theorem afterColon_injective : Function.Injective afterColon := by
  rintro (_ | front) (_ | front') h <;> simp_all [afterColon]

theorem beforeAt_injective : Function.Injective beforeAt := by
  rintro (_ | after) (_ | after') h <;> simp_all [beforeAt]

theorem beforeLastColon?_credentials (user s : List Char) :
    beforeLastColon? (user ++ ':' :: s) = some (user ++ afterColon (beforeLastColon? s)) := by
  rcases colon_cases s with h | ⟨front, back, hback, rfl⟩
  · rw [beforeLastColon?_append h, beforeLastColon?_eq_none h]
    exact congrArg some (List.append_nil user).symm
  · have hassoc : user ++ ':' :: (front ++ ':' :: back) = (user ++ ':' :: front) ++ ':' :: back := by simp
    rw [hassoc, beforeLastColon?_append hback, beforeLastColon?_append hback]
    rfl

theorem masked_exposed_inj : masked scheme user rest (exposed p) = masked scheme user rest (exposed q) ↔
    exposed p = exposed q := by
  refine ⟨fun h => ?_, fun h => h ▸ rfl⟩
  have hclean (password : String) : '@' ∉ afterColon (exposed password).1 ++ ":***".toList := by
    rcases hshown : (exposed password).1 with _ | front
    · decide
    · simpa [afterColon] using not_mem_of_exposed hshown
  have htail := List.append_cancel_left (List.append_cancel_left (List.append_cancel_left h))
  have hsplit := congrArg (splitAt? ['@']) htail
  rw [splitAt?_at_append (hclean p), splitAt?_at_append (hclean q), Option.some_inj, Prod.mk.injEq] at hsplit
  obtain ⟨hfront, hback⟩ := hsplit
  exact Prod.ext (afterColon_injective (List.append_cancel_right hfront))
    (beforeAt_injective (List.append_cancel_right hback))

def address (scheme user password rest : String) : String := s!"{scheme}://{user}:{password}@{rest}"

theorem toList_address (scheme user password rest : String) : (address scheme user password rest).toList =
    scheme.toList ++ ("://".toList ++ (user.toList ++ ':' :: (password.toList ++ '@' :: rest.toList))) := by
  change (scheme ++ "://" ++ user ++ ":" ++ password ++ "@" ++ rest).toList = _
  simp

theorem mask_eq {url : String} {host credentials : List Char}
    (hscheme : splitAt? "://".toList url.toList = some (scheme, rest))
    (hat : splitAt? ['@'] rest = some (credentials, host)) (hcolon : beforeLastColon? credentials = some user) :
    mask url = String.ofList (scheme ++ "://".toList ++ user ++ ":***@".toList ++ host) := by
  unfold mask
  rw [hscheme]
  simp only [Option.bind_eq_bind, Option.bind_some, hat, hcolon, Option.getD_some]

theorem mask_address {scheme user password rest : String} (hscheme : ¬ "://".toList <:+: scheme.toList)
    (huser : '@' ∉ user.toList) : mask (address scheme user password rest) =
      String.ofList (masked scheme.toList user.toList rest.toList (exposed password)) := by
  have hsplit : splitAt? "://".toList (address scheme user password rest).toList =
      some (scheme.toList, user.toList ++ ':' :: (password.toList ++ '@' :: rest.toList)) := by
    rw [toList_address, splitAt?_scheme_append hscheme]
  by_cases hat : '@' ∈ password.toList
  · obtain ⟨before, after, hpassword, hbefore⟩ := List.eq_append_cons_of_mem hat
    have hcredentials : '@' ∉ user.toList ++ ':' :: before := by simp [huser, hbefore]
    have hhost : user.toList ++ ':' :: (password.toList ++ '@' :: rest.toList) =
        (user.toList ++ ':' :: before) ++ '@' :: (after ++ '@' :: rest.toList) := by simp [hpassword]
    rw [mask_eq hsplit (hhost ▸ splitAt?_at_append hcredentials) (beforeLastColon?_credentials _ _),
      exposed_of_append hbefore hpassword]
    simp [masked, beforeAt]
  · have hcredentials : '@' ∉ user.toList ++ ':' :: password.toList := by simp [huser, hat]
    have hhost : user.toList ++ ':' :: (password.toList ++ '@' :: rest.toList) =
        (user.toList ++ ':' :: password.toList) ++ '@' :: rest.toList := by simp
    rw [mask_eq hsplit (hhost ▸ splitAt?_at_append hcredentials) (beforeLastColon?_credentials _ _),
      exposed_of_not_mem hat]
    simp [masked, beforeAt]

theorem startsWith_address {word scheme user password rest : String} (hword : ¬ "://".toList <:+: word.toList)
    (hscheme : ¬ "://".toList <:+: scheme.toList) :
    (address scheme user password rest).startsWith (word ++ "://") = true ↔ word = scheme := by
  rw [String.startsWith_string_iff, toList_address, String.toList_append]
  constructor
  · rintro ⟨after, hafter⟩
    have hsplit := congrArg (splitAt? "://".toList) hafter
    rw [List.append_assoc, splitAt?_scheme_append hword, splitAt?_scheme_append hscheme] at hsplit
    exact String.toList_injective (congrArg Prod.fst (Option.some.inj hsplit))
  · rintro rfl
    rw [← List.append_assoc]
    exact List.prefix_append _ _

end ShortLinks.Settings
