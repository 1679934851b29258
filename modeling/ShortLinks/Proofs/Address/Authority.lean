import Mathlib.Data.List.TakeWhile
import ShortLinks.Proofs.Outcome
import ShortLinks.Target

/-!
# Parts of an address

Cleaning, schemes, user information, hosts and ports are described here without the readers that take them from a text,
and each reader keeps to its description.
-/

set_option autoImplicit false

namespace ShortLinks.Address

variable {s t rest name scheme front middle back : List Char} {kind : SchemeKind} {url : Url} {host : Host}

/-- The text without the controls and spaces at its ends, and without tabs and line breaks anywhere. -/
inductive Cleaned : List Char → List Char → Prop where
  | intro {front middle back : List Char} (hfront : ∀ c ∈ front, c.toNat ≤ 32) (hback : ∀ c ∈ back, c.toNat ≤ 32)
      (hfirst : ∀ c ∈ middle.head?, ¬ c.toNat ≤ 32) (hlast : ∀ c ∈ middle.getLast?, ¬ c.toNat ≤ 32) :
      Cleaned (front ++ (middle ++ back)) (middle.filter fun c => c ∉ ['\t', '\n', '\r'])

def isOuter (c : Char) : Bool := c.toNat ≤ 32

theorem isOuter_iff {c : Char} : isOuter c = true ↔ c.toNat ≤ 32 := decide_eq_true_iff

theorem clean_eq (s : List Char) : Url.clean s =
    ((s.dropWhile isOuter).reverse.dropWhile isOuter).reverse.filter fun c => c ∉ ['\t', '\n', '\r'] := by
  refine List.filter_congr fun c _ => ?_
  simp [Bool.beq_eq_decide_eq, Bool.and_assoc]

theorem dropWhile_outer (hfront : ∀ c ∈ front, c.toNat ≤ 32) (hfirst : ∀ c ∈ middle.head?, ¬ c.toNat ≤ 32) :
    (front ++ middle).dropWhile isOuter = middle := by
  rw [List.dropWhile_append_of_pos fun c hc => isOuter_iff.mpr (hfront c hc)]
  cases middle with
  | nil => rfl
  | cons c middle => exact List.dropWhile_cons_of_neg (isOuter_iff.not.mpr (hfirst c rfl))

theorem outer_of_mem_takeWhile {c : Char} (hc : c ∈ s.takeWhile isOuter) : c.toNat ≤ 32 :=
  isOuter_iff.mp (List.mem_takeWhile_imp hc)

theorem not_outer_head?_dropWhile {c : Char} (hc : c ∈ (s.dropWhile isOuter).head?) : ¬ c.toNat ≤ 32 := by
  have hnot := List.head?_dropWhile_not isOuter s
  rw [Option.mem_def.mp hc] at hnot
  exact isOuter_iff.not.mp (by simpa using hnot)

theorem cleaned_iff : Cleaned s t ↔ Url.clean s = t := by
  rw [clean_eq]
  constructor
  · rintro @⟨front, middle, back, hfront, hback, hfirst, hlast⟩
    congr 1
    cases middle with
    | nil =>
      -- With nothing in between, the back is trimmed from the front.
      have hall : ∀ c ∈ front ++ back, isOuter c = true := fun c hc =>
        isOuter_iff.mpr ((List.mem_append.mp hc).elim (hfront c) (hback c))
      rw [List.nil_append, List.dropWhile_eq_nil_iff.mpr hall]
      rfl
    | cons c middle =>
      have hlast' : ∀ d ∈ (c :: middle).reverse.head?, ¬ d.toNat ≤ 32 := by rwa [List.head?_reverse]
      have hback' : ∀ d ∈ back.reverse, d.toNat ≤ 32 := fun d hd => hback d (List.mem_reverse.mp hd)
      rw [dropWhile_outer hfront (by simpa using hfirst), List.reverse_append, dropWhile_outer hback' hlast',
        List.reverse_reverse]
  · rintro rfl
    have hinner : s.dropWhile isOuter = ((s.dropWhile isOuter).reverse.dropWhile isOuter).reverse ++
        ((s.dropWhile isOuter).reverse.takeWhile isOuter).reverse := by
      rw [← List.reverse_append, List.takeWhile_append_dropWhile, List.reverse_reverse]
    have hwhole := (List.takeWhile_append_dropWhile (p := isOuter) (l := s)).symm
    rw [hinner] at hwhole
    conv => lhs; rw [hwhole]
    refine .intro (fun c hc => outer_of_mem_takeWhile hc)
      (fun c hc => outer_of_mem_takeWhile (List.mem_reverse.mp hc)) (fun c hc => ?_) (fun c hc => ?_)
    · obtain ⟨more, hmore⟩ := List.head?_eq_some_iff.mp hc
      rw [hmore] at hinner
      exact not_outer_head?_dropWhile (s := s) (by rw [hinner]; rfl)
    · rw [List.getLast?_reverse] at hc
      exact not_outer_head?_dropWhile hc

structure IsScheme (name : List Char) : Prop where
  letter : ∃ c more, name = c :: more ∧ Url.isAlpha c = true
  chars : ∀ c ∈ name, Url.isSchemeChar c = true

theorem isAlpha_of_toLower {c : Char} (h : Url.isAlpha c.toLower = true) : Url.isAlpha c = true := by
  unfold Char.toLower at h
  split at h
  · next hupper =>
    simp only [Url.isAlpha, Bool.or_eq_true, Bool.and_eq_true, decide_eq_true_eq, Char.le_def]
    exact .inr hupper
  · exact h

theorem isScheme_of_alpha (hne : name ≠ []) (h : ∀ c ∈ name, Url.isAlpha c = true) : IsScheme name := by
  obtain ⟨c, more, rfl⟩ := List.exists_cons_of_ne_nil hne
  exact ⟨⟨c, more, rfl, h c List.mem_cons_self⟩, fun d hd => by simp [Url.isSchemeChar, h d hd]⟩

theorem scheme?_append (h : IsScheme name) (rest : List Char) :
    Url.scheme? (name ++ ':' :: rest) = some (name.map Char.toLower, rest) := by
  obtain ⟨c, more, rfl, hc⟩ := h.letter
  have hcolon : ¬ Url.isSchemeChar ':' = true := by decide
  have htake : (c :: more ++ ':' :: rest).takeWhile Url.isSchemeChar = c :: more := by
    rw [List.takeWhile_append_of_pos h.chars, List.takeWhile_cons_of_neg hcolon, List.append_nil]
  have hdrop : (c :: more ++ ':' :: rest).dropWhile Url.isSchemeChar = ':' :: rest := by
    rw [List.dropWhile_append_of_pos h.chars, List.dropWhile_cons_of_neg hcolon]
  unfold Url.scheme?
  rw [htake, hdrop]
  simp [hc]

theorem exists_of_scheme? (h : Url.scheme? s = some (scheme, rest)) :
    ∃ name, IsScheme name ∧ s = name ++ ':' :: rest ∧ name.map Char.toLower = scheme := by
  unfold Url.scheme? at h
  split at h
  · next c u hc hu =>
    split at h
    · next halpha =>
      cases h
      have hs := List.takeWhile_append_dropWhile (p := Url.isSchemeChar) (l := s)
      obtain ⟨more, rfl⟩ := List.head?_eq_some_iff.mp hc
      have hchar : Url.isSchemeChar c = true := by simp [Url.isSchemeChar, halpha]
      refine ⟨(c :: more).takeWhile Url.isSchemeChar, ⟨⟨c, _, List.takeWhile_cons_of_pos hchar, halpha⟩, ?_⟩, ?_, rfl⟩
      · exact fun d hd => List.mem_takeWhile_imp hd
      · rw [← hu, hs]
    · cases h
  · cases h

theorem takeWhile_dropWhile_same (p : Char → Bool) (s : List Char) : (s.dropWhile p).takeWhile p = [] := by
  have hnot := List.head?_dropWhile_not p s
  cases hs : s.dropWhile p with
  | nil => rfl
  | cons c more =>
    rw [hs] at hnot
    exact List.takeWhile_cons_of_neg (by simpa using hnot)

theorem takeWhile_exact {p : Char → Bool} (hfront : ∀ c ∈ front, p c = true) (hrest : ∀ c ∈ rest.head?, p c = false) :
    (front ++ rest).takeWhile p = front := by
  rw [List.takeWhile_append_of_pos hfront]
  cases rest with
  | nil => exact List.append_nil front
  | cons c rest => rw [List.takeWhile_cons_of_neg (by simp [hrest c rfl]), List.append_nil]

theorem dropWhile_exact {p : Char → Bool} (hfront : ∀ c ∈ front, p c = true) (hrest : ∀ c ∈ rest.head?, p c = false) :
    (front ++ rest).dropWhile p = rest := by
  have hwhole := List.takeWhile_append_dropWhile (p := p) (l := front ++ rest)
  rw [takeWhile_exact hfront hrest] at hwhole
  exact List.append_cancel_left hwhole

theorem exists_of_splitUserInfo (kind : SchemeKind) (s : List Char) : ∃ front,
    s = front ++ (Url.splitUserInfo kind s).2 ∧ (front = [] ∨ ∃ info, front = info ++ ['@']) ∧
      (∀ c ∈ front, Url.endsAuthority kind c = false) ∧
      '@' ∉ (Url.splitUserInfo kind s).2.takeWhile fun c => !Url.endsAuthority kind c := by
  unfold Url.splitUserInfo
  extract_lets authority host size
  -- The authority is what precedes its last at sign, which comes first from behind, and the host after it.
  have hs : s = authority ++ s.dropWhile (fun c => !Url.endsAuthority kind c) := List.takeWhile_append_dropWhile.symm
  have hhost : '@' ∉ host := fun hat => by
    have hne := List.mem_takeWhile_imp (List.mem_reverse.mp hat)
    simp at hne
  have hsplit : authority = (authority.reverse.dropWhile (· != '@')).reverse ++ host := by
    rw [← List.reverse_append, List.takeWhile_append_dropWhile, List.reverse_reverse]
  generalize hinfo : authority.reverse.dropWhile (· != '@') = info at hsplit
  have hauthority : s.takeWhile (fun c => !Url.endsAuthority kind c) = info.reverse ++ host := hsplit
  have hinside : ∀ c ∈ info.reverse ++ host, Url.endsAuthority kind c = false := fun c hc => by
    have hgoes := List.mem_takeWhile_imp (hauthority ▸ hc)
    simpa using hgoes
  cases info with
  | nil =>
    rw [if_pos (by rw [hsplit]; rfl)]
    exact ⟨[], rfl, .inl rfl, by simp, hauthority ▸ hhost⟩
  | cons c info =>
    have hsize : size = (c :: info).reverse.length := by
      rw [show size = authority.length - host.length from rfl, hsplit, List.length_append, Nat.add_sub_cancel]
    have hdrop : s.drop (c :: info).reverse.length = host ++ s.dropWhile (fun c => !Url.endsAuthority kind c) := by
      conv => lhs; rw [hs, hsplit, List.append_assoc, List.drop_left]
    have hat : c = '@' := by
      have hnot := List.head?_dropWhile_not (· != '@') authority.reverse
      rw [hinfo] at hnot
      simpa using hnot
    have hlength : ¬ host.length = authority.length := by
      have hlonger := congrArg List.length hsplit
      rw [List.length_append, List.length_reverse, List.length_cons] at hlonger
      omega
    rw [if_neg hlength, hsize, hdrop]
    refine ⟨(c :: info).reverse, ?_, .inr ⟨info.reverse, by rw [hat, List.reverse_cons]⟩,
      fun d hd => hinside d (List.mem_append_left _ hd), ?_⟩
    · rw [← List.append_assoc, ← hsplit]
      exact hs
    · have hgoes : ∀ d ∈ host, (!Url.endsAuthority kind d) = true := fun d hd => by
        rw [hinside d (List.mem_append_right _ hd)]
        rfl
      rw [List.takeWhile_append_of_pos hgoes, takeWhile_dropWhile_same, List.append_nil]
      exact hhost

theorem splitUserInfo_exact {named : List Char} (huser : front = [] ∨ ∃ info, front = info ++ ['@'])
    (hgoes : ∀ c ∈ front ++ named, Url.endsAuthority kind c = false) (hat : '@' ∉ named)
    (hrest : ∀ c ∈ rest.head?, Url.endsAuthority kind c = true) :
    (Url.splitUserInfo kind (front ++ (named ++ rest))).2 = named ++ rest := by
  have hauthority : (front ++ (named ++ rest)).takeWhile (fun c => !Url.endsAuthority kind c) = front ++ named := by
    rw [← List.append_assoc]
    exact takeWhile_exact (fun c hc => by rw [hgoes c hc]; rfl) fun c hc => by rw [hrest c hc]; rfl
  have hhost : ((front ++ named).reverse.takeWhile (· != '@')).reverse = named := by
    rw [List.reverse_append, takeWhile_exact, List.reverse_reverse]
    · exact fun c hc => bne_iff_ne.mpr (ne_of_mem_of_not_mem (List.mem_reverse.mp hc) hat)
    · rcases huser with rfl | ⟨info, rfl⟩ <;> simp
  unfold Url.splitUserInfo
  simp only [hauthority, hhost, List.length_append]
  split
  · next hlength =>
    have hnil : front = [] := List.length_eq_zero_iff.mp (by omega)
    rw [hnil, List.nil_append]
  · rw [Nat.add_sub_cancel, List.drop_left]

theorem splitHost_append (kind : SchemeKind) (inBrackets : Bool) (s : List Char) :
    (Url.splitHost kind inBrackets s).1 ++ (Url.splitHost kind inBrackets s).2 = s := by
  fun_induction Url.splitHost kind inBrackets s with
  | case1 => rfl
  | case2 => rfl
  | case3 inBrackets c s _ host rest h ih =>
    rw [h] at ih
    rw [← ih]
    rfl

/-- At the end of the text a bracket is open. -/
def Opens (s : List Char) : Prop := ∃ before inner, s = before ++ '[' :: inner ∧ ']' ∉ inner

/-- At the end of the text a bracket is open, which may be one that was open before it. -/
def Within (inBrackets : Bool) (s : List Char) : Prop := (inBrackets = true ∧ ']' ∉ s) ∨ Opens s

theorem within_false : Within false s ↔ Opens s := by simp [Within]

theorem within_nil {inBrackets : Bool} : Within inBrackets [] ↔ inBrackets = true := by simp [Within, Opens]

theorem within_cons {inBrackets : Bool} {c : Char} :
    Within inBrackets (c :: s) ↔ Within (c == '[' || (inBrackets && c != ']')) s := by
  have hopens : Opens (c :: s) ↔ (c = '[' ∧ ']' ∉ s) ∨ Opens s := by
    constructor
    · rintro ⟨before, inner, h, hinner⟩
      cases before with
      | nil =>
        obtain ⟨rfl, rfl⟩ := List.cons.inj h
        exact .inl ⟨rfl, hinner⟩
      | cons d before =>
        obtain ⟨-, rfl⟩ := List.cons.inj h
        exact .inr ⟨before, inner, rfl, hinner⟩
    · rintro (⟨rfl, hs⟩ | ⟨before, inner, rfl, hinner⟩)
      · exact ⟨[], s, rfl, hs⟩
      · exact ⟨c :: before, inner, rfl, hinner⟩
  unfold Within
  rw [hopens]
  simp only [List.mem_cons, not_or, Bool.or_eq_true, beq_iff_eq, Bool.and_eq_true, bne_iff_ne, ne_eq]
  grind

theorem colon_of_splitHost {inBrackets : Bool} (h : (Url.splitHost kind inBrackets s).1 = front ++ ':' :: back) :
    Within inBrackets front := by
  fun_induction Url.splitHost kind inBrackets s generalizing front with
  | case1 => simp at h
  | case2 => simp at h
  | case3 inBrackets c s hgoes host rest hsplit ih =>
    rw [hsplit] at ih
    cases front with
    | nil =>
      obtain ⟨rfl, rfl⟩ := List.cons.inj h
      have hbrackets : inBrackets = true ∧ Url.endsAuthority kind ':' = false := by simpa using hgoes
      exact within_nil.mpr hbrackets.1
    | cons d front =>
      obtain ⟨rfl, rfl⟩ := List.cons.inj h
      exact within_cons.mpr (ih rfl)

theorem closed_of_splitHost {inBrackets : Bool} {more : List Char}
    (h : (Url.splitHost kind inBrackets s).2 = ':' :: more) : ¬ Within inBrackets (Url.splitHost kind inBrackets s).1 := by
  fun_induction Url.splitHost kind inBrackets s with
  | case1 => cases h
  | case2 inBrackets c s hends =>
    cases h
    have hcolon : Url.endsAuthority kind ':' = false := by simp [Url.endsAuthority]
    have hout : inBrackets = false := by simpa [hcolon] using hends
    simp [within_nil, hout]
  | case3 inBrackets c s _ host rest hsplit ih =>
    rw [hsplit] at ih
    exact within_cons.not.mpr (ih h)

theorem splitHost_exact {inBrackets : Bool} {name after : List Char} (hgoes : ∀ c ∈ name, Url.endsAuthority kind c = false)
    (hcolon : ∀ front back, name = front ++ ':' :: back → Within inBrackets front)
    (hafter : ∀ c ∈ after.head?, Url.endsAuthority kind c = true ∨ c = ':' ∧ ¬ Within inBrackets name) :
    Url.splitHost kind inBrackets (name ++ after) = (name, after) := by
  induction name generalizing inBrackets with
  | nil =>
    cases after with
    | nil => rfl
    | cons c after =>
      rw [List.nil_append, Url.splitHost, if_pos]
      rcases hafter c rfl with hends | ⟨rfl, hout⟩
      · simp [hends]
      · have hfalse : inBrackets = false := by simpa [within_nil] using hout
        simp [hfalse]
  | cons c name ih =>
    obtain ⟨hc, hname⟩ := List.forall_mem_cons.mp hgoes
    have hgo : ¬ ((c == ':' && !inBrackets) || Url.endsAuthority kind c) = true := by
      rw [hc, Bool.or_false, Bool.and_eq_true, beq_iff_eq]
      rintro ⟨rfl, hout⟩
      have hin := within_nil.mp (hcolon [] name rfl)
      simp [hin] at hout
    have hrest : Url.splitHost kind (c == '[' || (inBrackets && c != ']')) (name ++ after) = (name, after) :=
      ih hname (fun front back hfront => within_cons.mp (hcolon (c :: front) back (by rw [hfront]; rfl)))
        fun d hd => (hafter d hd).imp_right (And.imp_right within_cons.not.mp)
    rw [List.cons_append, Url.splitHost, if_neg hgo, hrest]

theorem not_ends_of_mem_splitHost {inBrackets : Bool} {c : Char} (h : c ∈ (Url.splitHost kind inBrackets s).1) :
    Url.endsAuthority kind c = false := by
  fun_induction Url.splitHost kind inBrackets s with
  | case1 => simp at h
  | case2 => simp at h
  | case3 inBrackets d s hgoes host rest hsplit ih =>
    rw [hsplit] at ih
    rcases List.mem_cons.mp h with rfl | hmem
    · simp at hgoes
      exact hgoes.2
    · exact ih hmem

theorem head?_splitHost {inBrackets : Bool} {c : Char} (h : c ∈ (Url.splitHost kind inBrackets s).2.head?) :
    c = ':' ∨ Url.endsAuthority kind c = true := by
  fun_induction Url.splitHost kind inBrackets s with
  | case1 => simp at h
  | case2 inBrackets d s hends =>
    obtain rfl : d = c := by simpa using h
    simp at hends
    exact hends.imp And.left id
  | case3 inBrackets d s hgoes host rest hsplit ih =>
    rw [hsplit] at ih
    exact ih h

theorem exists_of_parsePort {port : Option Nat} (h : Url.parsePort s = .ok (port, rest)) : ∃ digits,
    s = digits ++ rest ∧ (∀ c ∈ digits, c.isDigit = true) ∧ Url.digitsValue digits < 65536 ∧
      ∀ c ∈ rest.head?, c ∈ ['/', '\\', '?', '#'] := by
  unfold Url.parsePort at h
  extract_lets digits more at h
  split at h
  · cases h
  · next hgood =>
    obtain ⟨-, hmore⟩ := Prod.mk.inj (Except.ok.inj h)
    have hs : s = digits ++ rest := hmore ▸ List.takeWhile_append_dropWhile.symm
    refine ⟨digits, hs, fun c hc => List.mem_takeWhile_imp hc, Nat.lt_of_not_le (not_or.mp hgood).1, fun c hc => ?_⟩
    have hends := (not_or.mp hgood).2
    rw [hmore, Option.mem_def.mp hc] at hends
    by_contra hnot
    simp [Url.isSlash] at hends hnot
    exact hnot.2.2.2 (hends hnot.1 hnot.2.1 hnot.2.2.1)

theorem parsePort_exact {digits : List Char} (hdigits : ∀ c ∈ digits, c.isDigit = true)
    (hvalue : Url.digitsValue digits < 65536) (hrest : ∀ c ∈ rest.head?, c ∈ ['/', '\\', '?', '#']) :
    ∃ port, Url.parsePort (digits ++ rest) = .ok (port, rest) := by
  have hstop : ∀ c ∈ rest.head?, c.isDigit = false := fun c hc => by
    have hall : ∀ c ∈ ['/', '\\', '?', '#'], c.isDigit = false := List.forall_mem_iff_forall_getElem.mpr (by decide)
    exact hall c (hrest c hc)
  have hgood : ¬ (65536 ≤ Url.digitsValue digits ∨ rest.head?.any (fun c => !(Url.isSlash c || c == '?' || c == '#'))) := by
    refine not_or.mpr ⟨by omega, ?_⟩
    cases hhead : rest.head? with
    | none => simp
    | some c =>
      have hc := hrest c hhead
      simp only [List.mem_cons, List.not_mem_nil, or_false] at hc
      rcases hc with rfl | rfl | rfl | rfl <;> simp [Url.isSlash]
  unfold Url.parsePort
  rw [takeWhile_exact hdigits hstop, dropWhile_exact hdigits hstop]
  exact ⟨_, if_neg hgood⟩

theorem labels_ne_nil (s : List Char) : Domain.labels s ≠ [] := by
  unfold Domain.labels
  cases s with
  | nil => simp
  | cons c s =>
    rw [List.foldr_cons]
    split
    · simp
    · split <;> simp

theorem parse?_ne_nil {labels : List Label} (h : Domain.parse? s = some labels) : labels ≠ [] := by
  unfold Domain.parse? at h
  simp only [Option.bind_eq_bind, Option.bind_eq_some_iff] at h
  obtain ⟨mapped, -, found, hfound, h⟩ := h
  split at h
  · cases h
  · cases h
    rintro rfl
    obtain ⟨label, more, hlabels⟩ := List.exists_cons_of_ne_nil (labels_ne_nil mapped)
    rw [hlabels] at hfound
    simp [List.mapM_cons, Option.bind_eq_some_iff] at hfound

theorem isEmpty_domain_iff {labels : List Label} : (Host.domain labels).isEmpty = true ↔ labels = [] ∨ labels = [[]] := by
  match labels with
  | [] => simp [Host.isEmpty, List.intercalate]
  | [label] => simp [Host.isEmpty, List.intercalate]
  | label :: next :: more => simp [Host.isEmpty, List.intercalate]

/-- A host that is read is written as something: a name of which the mapping leaves nothing is refused. -/
theorem isEmpty_of_parseHost (h : Url.parseHost s = .ok host) : host.isEmpty = false := by
  unfold Url.parseHost at h
  split at h
  · split at h
    · split at h
      · cases h
        rfl
      · cases h
    · cases h
  · split at h
    · cases h
    · next labels hlabels =>
      obtain ⟨text, -, htext⟩ := Option.bind_eq_some_iff.mp hlabels
      split at h
      · cases h
      · next hne =>
        split at h
        · split at h
          · cases h
            rfl
          · cases h
        · cases h
          have hnot := isEmpty_domain_iff.not.mpr (not_or.mpr ⟨parse?_ne_nil htext, hne⟩)
          exact Bool.eq_false_iff.mpr hnot

theorem parseFile_scheme (h : Url.parseFile scheme s = .ok url) : url.scheme = scheme := by
  unfold Url.parseFile at h
  simp only [bind, Except.bind, pure, Except.pure] at h
  repeat' split at h
  all_goals first
    | exact congrArg Url.scheme (Except.ok.inj h).symm
    | cases h

theorem parseAuthority_scheme (h : Url.parseAuthority scheme kind s = .ok url) : url.scheme = scheme := by
  unfold Url.parseAuthority at h
  simp only [bind, Except.bind, pure, Except.pure, throw, throwThe, MonadExceptOf.throw] at h
  repeat' split at h
  all_goals first
    | exact congrArg Url.scheme (Except.ok.inj h).symm
    | cases h

theorem scheme_of_parse {target : String} (h : Url.parse target = .ok url) :
    ∃ rest, Url.scheme? (Url.clean target.toList) = some (url.scheme, rest) := by
  unfold Url.parse at h
  split at h
  · cases h
  · next scheme s hscheme =>
    have hsame : url.scheme = scheme := by
      split at h
      · exact parseFile_scheme h
      · exact parseAuthority_scheme h
      · split at h
        · exact parseAuthority_scheme h
        · cases h
          rfl
    exact ⟨s, hsame ▸ hscheme⟩

/-- What an authority of the network is read as: user information and a host, which is not empty, and a port if a colon
follows. -/
theorem exists_of_parseAuthority (h : Url.parseAuthority scheme .network s = .ok url) :
    ∃ name after host, Url.splitHost .network false (Url.splitUserInfo .network s).2 = (name, after) ∧ name ≠ [] ∧
      Url.parseHost name = .ok host ∧ url.host = some host ∧
      ∀ more, after = ':' :: more → ∃ port, Url.parsePort more = .ok (port, url.rest) := by
  unfold Url.parseAuthority at h
  simp only [bind, Except.bind, pure, Except.pure, throw, throwThe, MonadExceptOf.throw, reduceCtorEq, ↓reduceIte,
    true_and] at h
  split at h
  · cases h
  split at h
  · cases h
  next hname =>
    split at h
    · cases h
    next host hhost =>
      split at h
      · cases h
      refine ⟨_, _, host, rfl, hname, hhost, ?_⟩
      split at h
      · next more hafter =>
        split at h
        · cases h
        next found hport =>
          cases h
          refine ⟨rfl, fun more' hmore => ⟨found.1, ?_⟩⟩
          rw [hafter] at hmore
          cases hmore
          exact hport
      · next hno =>
        cases h
        exact ⟨rfl, fun more hmore => absurd hmore (hno more)⟩

end ShortLinks.Address
