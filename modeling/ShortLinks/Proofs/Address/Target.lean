import ShortLinks.Proofs.Address.Authority

/-!
# What a checked target looks like

Whatever stands around or within it, a text passes for a target if and only if it is laid out as an HTTP address with a
host, and no text with another scheme passes.
-/

set_option autoImplicit false

namespace ShortLinks.Address

/-- How an address is laid out. The user information goes with its at sign and the port with its colon. -/
structure Layout where
  scheme : List Char
  slashes : List Char
  userInfo : List Char
  host : List Char
  port : List Char
  rest : List Char

namespace Layout

def text (l : Layout) : List Char :=
  l.scheme ++ ':' :: (l.slashes ++ (l.userInfo ++ (l.host ++ (l.port ++ l.rest))))

def ends : List Char := ['/', '\\', '?', '#']

/-- The layout is that of an HTTP address with a host, its parts cut where a browser cuts them. -/
structure NamesHost (l : Layout) : Prop where
  scheme : l.scheme.map Char.toLower = "http".toList ∨ l.scheme.map Char.toLower = "https".toList
  slashes : ∀ c ∈ l.slashes, c = '/' ∨ c = '\\'
  userInfo : l.userInfo = [] ∨ ∃ info, l.userInfo = info ++ ['@']
  userInfo_inside : ∀ c ∈ l.userInfo, c ∉ ends
  host_inside : ∀ c ∈ l.host, c ∉ ends ∧ c ≠ '@'
  colons (front back : List Char) : l.host = front ++ ':' :: back → Opens front
  port : l.port = [] ∨ ∃ digits, l.port = ':' :: digits ∧ (∀ c ∈ digits, c.isDigit = true) ∧ Url.digitsValue digits < 65536
  port_outside : l.port ≠ [] → ¬ Opens l.host
  rest : ∀ c ∈ l.rest.head?, c ∈ ends
  host_ne_nil : l.host ≠ []
  /-- The host does not vanish either when it is decoded and mapped. -/
  host_named : ∃ host, Url.parseHost l.host = .ok host ∧ host.isEmpty = false

variable {l l' : Layout} {x y u v : List Char} {c : Char}

theorem not_slash (h : c ∉ ends) : ¬ (c = '/' ∨ c = '\\') := by
  rintro (rfl | rfl) <;> exact h (by decide)

/-- A text is cut in one way only before the first character of a kind. -/
theorem cut_inj {p : Char → Bool} (hx : ∀ c ∈ x, p c = true) (hy : ∀ c ∈ y, p c = true)
    (hu : ∀ c ∈ u.head?, p c = false) (hv : ∀ c ∈ v.head?, p c = false) (h : x ++ u = y ++ v) : x = y ∧ u = v := by
  have hxy : x = y := by rw [← takeWhile_exact hx hu, h, takeWhile_exact hy hv]
  subst hxy
  exact ⟨rfl, List.append_cancel_left h⟩

namespace NamesHost

theorem colon_not_mem_scheme (h : l.NamesHost) : ':' ∉ l.scheme := by
  intro hmem
  have hlower : ':' ∈ l.scheme.map Char.toLower := List.mem_map.mpr ⟨':', hmem, by decide⟩
  rcases h.scheme with hscheme | hscheme
  · rw [hscheme] at hlower
    exact absurd hlower (by decide)
  · rw [hscheme] at hlower
    exact absurd hlower (by decide)

theorem port_inside (h : l.NamesHost) (hc : c ∈ l.port) : c ∉ ends ∧ c ≠ '@' := by
  rcases h.port with hport | ⟨digits, hport, hdigits, -⟩
  · rw [hport] at hc
    cases hc
  · rw [hport] at hc
    rcases List.mem_cons.mp hc with rfl | hdigit
    · decide
    · have hisDigit := hdigits c hdigit
      refine ⟨fun hmem => ?_, ?_⟩
      · simp only [ends, List.mem_cons, List.not_mem_nil, or_false] at hmem
        rcases hmem with rfl | rfl | rfl | rfl <;> exact absurd hisDigit (by decide)
      · rintro rfl
        exact absurd hisDigit (by decide)

theorem head?_not_slash (h : l.NamesHost) (hc : c ∈ (l.userInfo ++ (l.host ++ (l.port ++ l.rest))).head?) : c ∉ ends := by
  obtain ⟨d, more, hmore⟩ := List.exists_cons_of_ne_nil (List.append_ne_nil_of_right_ne_nil l.userInfo h.host_ne_nil)
  rw [← List.append_assoc, hmore] at hc
  cases hc
  have hmem : c ∈ l.userInfo ++ l.host := hmore ▸ List.mem_cons_self
  exact (List.mem_append.mp hmem).elim (h.userInfo_inside c) fun hhost => (h.host_inside c hhost).1

theorem not_mem_ends_of_authority (h : l.NamesHost) (hc : c ∈ l.userInfo ++ (l.host ++ l.port)) : c ∉ ends := by
  rcases List.mem_append.mp hc with huser | hnamed
  · exact h.userInfo_inside c huser
  · exact (List.mem_append.mp hnamed).elim (fun hhost => (h.host_inside c hhost).1) fun hport => (h.port_inside hport).1

theorem ne_at_of_mem (h : l.NamesHost) (hc : c ∈ l.host ++ l.port) : c ≠ '@' :=
  (List.mem_append.mp hc).elim (fun hhost => (h.host_inside c hhost).2) fun hport => (h.port_inside hport).2

theorem head?_userInfo_reverse (h : l.NamesHost) (hc : c ∈ l.userInfo.reverse.head?) : c = '@' := by
  rcases h.userInfo with hnil | ⟨info, hinfo⟩
  · rw [hnil] at hc
    cases hc
  · rw [hinfo, List.reverse_append] at hc
    cases hc
    rfl

theorem host_of_port_prefix (h : l.NamesHost) (h' : l'.NamesHost) (hu : l'.host = l.host ++ u) (hport : l.port = u ++ l'.port) :
    u = [] := by
  rcases h.port with hnil | ⟨digits, hdigits, -⟩
  · rw [hnil] at hport
    exact (List.append_eq_nil_iff.mp hport.symm).1
  · cases u with
    | nil => rfl
    | cons c u =>
      rw [hdigits, List.cons_append] at hport
      obtain ⟨rfl, -⟩ := List.cons.inj hport
      exact absurd (h'.colons _ _ hu) (h.port_outside (by simp [hdigits]))

theorem host_port_inj (h : l.NamesHost) (h' : l'.NamesHost) (heq : l.host ++ l.port = l'.host ++ l'.port) :
    l.host = l'.host ∧ l.port = l'.port := by
  have hhost : l.host = l'.host := by
    rcases List.append_eq_append_iff.mp heq with ⟨u, hu, hport⟩ | ⟨u, hu, hport⟩
    · rw [hu, host_of_port_prefix h h' hu hport, List.append_nil]
    · rw [hu, host_of_port_prefix h' h hu hport, List.append_nil]
  exact ⟨hhost, List.append_cancel_left (hhost ▸ heq)⟩

theorem unique (h : l.NamesHost) (h' : l'.NamesHost) (htext : l.text = l'.text) : l = l' := by
  obtain ⟨hscheme, hcolon⟩ := cut_inj (p := (· != ':'))
    (fun c hc => bne_iff_ne.mpr (ne_of_mem_of_not_mem hc h.colon_not_mem_scheme))
    (fun c hc => bne_iff_ne.mpr (ne_of_mem_of_not_mem hc h'.colon_not_mem_scheme)) (by simp) (by simp) htext
  obtain ⟨hslashes, hbehind⟩ := cut_inj (p := fun c => c = '/' ∨ c = '\\') (by simpa using h.slashes)
    (by simpa using h'.slashes) (fun c hc => decide_eq_false (not_slash (h.head?_not_slash hc)))
    (fun c hc => decide_eq_false (not_slash (h'.head?_not_slash hc))) (List.cons.inj hcolon).2
  have hauthority : (l.userInfo ++ (l.host ++ l.port)) ++ l.rest = (l'.userInfo ++ (l'.host ++ l'.port)) ++ l'.rest := by
    simpa only [List.append_assoc] using hbehind
  obtain ⟨hinside, hrest⟩ := cut_inj (p := (· ∉ ends)) (fun c hc => decide_eq_true (h.not_mem_ends_of_authority hc))
    (fun c hc => decide_eq_true (h'.not_mem_ends_of_authority hc)) (fun c hc => decide_eq_false (not_not_intro (h.rest c hc)))
    (fun c hc => decide_eq_false (not_not_intro (h'.rest c hc))) hauthority
  -- The user information goes up to the last at sign, which is the first one from behind.
  have hreverse : (l.host ++ l.port).reverse ++ l.userInfo.reverse = (l'.host ++ l'.port).reverse ++ l'.userInfo.reverse := by
    rw [← List.reverse_append, hinside, List.reverse_append]
  obtain ⟨hnamed, huser⟩ := cut_inj (p := (· != '@'))
    (fun c hc => bne_iff_ne.mpr (h.ne_at_of_mem (List.mem_reverse.mp hc)))
    (fun c hc => bne_iff_ne.mpr (h'.ne_at_of_mem (List.mem_reverse.mp hc)))
    (fun c hc => by rw [h.head?_userInfo_reverse hc]; rfl) (fun c hc => by rw [h'.head?_userInfo_reverse hc]; rfl) hreverse
  obtain ⟨hhost, hport⟩ := host_port_inj h h' (List.reverse_inj.mp hnamed)
  cases l
  cases l'
  simp_all only [List.reverse_inj]

end NamesHost
end Layout

open Layout (ends)

variable {cleaned s : List Char} {url : Url} {target : String}

theorem endsAuthority_network_iff {c : Char} : Url.endsAuthority .network c = true ↔ c ∈ ends := by
  have hother : (SchemeKind.network != .other) = true := by decide
  simp only [Url.endsAuthority, hother, Bool.true_and, Bool.or_eq_true, beq_iff_eq, ends, List.mem_cons, List.not_mem_nil,
    or_false]
  grind

theorem not_mem_ends {c : Char} (h : Url.endsAuthority .network c = false) : c ∉ ends :=
  mt endsAuthority_network_iff.mpr (by simp [h])

theorem exists_layout {name scheme : List Char}
    (hscheme : name.map Char.toLower = "http".toList ∨ name.map Char.toLower = "https".toList)
    (h : Url.parseAuthority scheme .network (s.dropWhile Url.isSlash) = .ok url) :
    ∃ l : Layout, l.NamesHost ∧ l.text = name ++ ':' :: s := by
  obtain ⟨hostText, after, host, hsplit, hne, hhost, -, hport⟩ := exists_of_parseAuthority h
  obtain ⟨userInfo, hs, huser, hinside, hat⟩ := exists_of_splitUserInfo .network (s.dropWhile Url.isSlash)
  generalize (Url.splitUserInfo .network (s.dropWhile Url.isSlash)).2 = named at hsplit hs hat
  have hhostText : (Url.splitHost .network false named).1 = hostText := by rw [hsplit]
  have hafter : (Url.splitHost .network false named).2 = after := by rw [hsplit]
  have hnamed : hostText ++ after = named := by
    rw [← hhostText, ← hafter]
    exact splitHost_append .network false named
  have hgoes : ∀ c ∈ hostText, Url.endsAuthority .network c = false := by
    intro c hc
    rw [← hhostText] at hc
    exact not_ends_of_mem_splitHost hc
  have hslashes : s.takeWhile Url.isSlash ++ s.dropWhile Url.isSlash = s := List.takeWhile_append_dropWhile
  -- What follows the host is a port and the rest, or the rest alone.
  obtain ⟨port, rest, hportRest, hportForm, hrest⟩ : ∃ port rest, after = port ++ rest ∧
      (port = [] ∨ ∃ digits, port = ':' :: digits ∧ (∀ c ∈ digits, c.isDigit = true) ∧ Url.digitsValue digits < 65536) ∧
        ∀ c ∈ rest.head?, c ∈ ends := by
    cases after with
    | nil => exact ⟨[], [], rfl, .inl rfl, by simp⟩
    | cons c more =>
      have hend : c = ':' ∨ Url.endsAuthority .network c = true := by
        have hhead : c ∈ (Url.splitHost .network false named).2.head? := by
          rw [hafter]
          rfl
        exact head?_splitHost hhead
      rcases hend with rfl | hend
      · obtain ⟨number, hnumber⟩ := hport more rfl
        obtain ⟨digits, rfl, hdigits, hvalue, hrest⟩ := exists_of_parsePort hnumber
        exact ⟨':' :: digits, url.rest, rfl, .inr ⟨digits, rfl, hdigits, hvalue⟩, hrest⟩
      · refine ⟨[], c :: more, rfl, .inl rfl, fun d hd => ?_⟩
        cases hd
        exact endsAuthority_network_iff.mp hend
  have hclosed (hne : port ≠ []) : ¬ Opens hostText := by
    obtain ⟨digits, rfl, -⟩ := hportForm.resolve_left hne
    have houtside := closed_of_splitHost (hafter.trans hportRest)
    rwa [within_false, hhostText] at houtside
  refine ⟨⟨name, s.takeWhile Url.isSlash, userInfo, hostText, port, rest⟩, ?_, ?_⟩
  · refine ⟨hscheme, fun c hc => ?_, huser, fun c hc => not_mem_ends (hinside c hc), fun c hc => ⟨not_mem_ends (hgoes c hc), ?_⟩,
      fun front back hfront => ?_, hportForm, hclosed, hrest, hne, host, hhost, isEmpty_of_parseHost hhost⟩
    · have hslash := List.mem_takeWhile_imp hc
      simpa [Url.isSlash] using hslash
    · rintro rfl
      refine hat ?_
      rw [← hnamed, List.takeWhile_append_of_pos fun c hc => by rw [hgoes c hc]; rfl]
      exact List.mem_append_left _ hc
    · exact within_false.mp (colon_of_splitHost (hhostText.trans hfront))
  · rw [Layout.text, ← hportRest, hnamed, ← hs, hslashes]

theorem kind_of_http {scheme : List Char} (h : scheme = "http".toList ∨ scheme = "https".toList) :
    Url.kind scheme = .network := by
  rcases h with rfl | rfl <;> decide

theorem ends_of_mem {c : Char} (h : c ∈ ends) : Url.endsAuthority .network c = true := endsAuthority_network_iff.mpr h

theorem not_endsAuthority {c : Char} (h : c ∉ ends) : Url.endsAuthority .network c = false :=
  Bool.eq_false_iff.mpr (mt endsAuthority_network_iff.mp h)

namespace Layout.NamesHost

variable {l : Layout}

theorem splitUserInfo_eq (h : l.NamesHost) :
    (Url.splitUserInfo .network (l.userInfo ++ (l.host ++ (l.port ++ l.rest)))).2 = l.host ++ (l.port ++ l.rest) := by
  have hsplit : (Url.splitUserInfo .network (l.userInfo ++ ((l.host ++ l.port) ++ l.rest))).2 =
      (l.host ++ l.port) ++ l.rest :=
    splitUserInfo_exact h.userInfo (fun c hc => not_endsAuthority (h.not_mem_ends_of_authority hc))
      (fun hat => h.ne_at_of_mem hat rfl) fun c hc => ends_of_mem (h.rest c hc)
  simpa only [List.append_assoc] using hsplit

theorem splitHost_eq (h : l.NamesHost) :
    Url.splitHost .network false (l.host ++ (l.port ++ l.rest)) = (l.host, l.port ++ l.rest) := by
  refine splitHost_exact (fun c hc => not_endsAuthority (h.host_inside c hc).1)
    (fun front back hfront => within_false.mpr (h.colons front back hfront)) fun c hc => ?_
  rcases h.port with hport | ⟨digits, hport, -⟩
  · rw [hport] at hc
    exact .inl (ends_of_mem (h.rest c hc))
  · rw [hport] at hc
    cases hc
    exact .inr ⟨rfl, within_false.not.mpr (h.port_outside (by simp [hport]))⟩

theorem exists_parseAuthority (h : l.NamesHost) (scheme : List Char) : ∃ url host,
    Url.parseAuthority scheme .network (l.userInfo ++ (l.host ++ (l.port ++ l.rest))) = .ok url ∧
      url.host = some host ∧ host.isEmpty = false := by
  obtain ⟨host, hhost, hnamed⟩ := h.host_named
  have hsplit := h.splitUserInfo_eq
  generalize hinfo : Url.splitUserInfo .network (l.userInfo ++ (l.host ++ (l.port ++ l.rest))) = split at hsplit
  have hfirst : (l.host ++ (l.port ++ l.rest)).head?.any (Url.endsAuthority .network) = false := by
    obtain ⟨c, more, hcons⟩ := List.exists_cons_of_ne_nil h.host_ne_nil
    have hc : c ∈ l.host := hcons ▸ List.mem_cons_self
    rw [hcons]
    exact not_endsAuthority (h.host_inside c hc).1
  unfold Url.parseAuthority
  simp only [hinfo, hsplit, h.splitHost_eq, hfirst, hhost, h.host_ne_nil, bind, Except.bind, pure, Except.pure, reduceCtorEq,
    false_and, and_false, if_false, Bool.false_eq_true]
  rcases h.port with hport | ⟨digits, hport, hdigits, hvalue⟩
  · have hcolon : ∀ more, l.rest ≠ ':' :: more := fun more hmore => by
      have hends := h.rest ':' (by rw [hmore]; rfl)
      exact absurd hends (by decide)
    rw [hport, List.nil_append]
    split
    · next more hmore => exact absurd hmore (hcolon more)
    · exact ⟨_, host, rfl, rfl, hnamed⟩
  · obtain ⟨port, hread⟩ := parsePort_exact hdigits hvalue h.rest
    rw [hport, List.cons_append]
    simp only [hread]
    exact ⟨_, host, rfl, rfl, hnamed⟩

theorem isScheme (h : l.NamesHost) : IsScheme l.scheme := by
  have hletters : ∀ c ∈ l.scheme.map Char.toLower, Url.isAlpha c = true := by
    rcases h.scheme with hscheme | hscheme <;> rw [hscheme] <;> exact List.all_eq_true.mp (by decide)
  refine isScheme_of_alpha (fun hnil => ?_) fun c hc => isAlpha_of_toLower (hletters _ (List.mem_map_of_mem hc))
  have hscheme := h.scheme
  rw [hnil] at hscheme
  exact absurd hscheme (by decide)

theorem checkTarget_ok (h : l.NamesHost) (hclean : Url.clean target.toList = l.text) : checkTarget target = .ok () := by
  have hfound := (congrArg Url.scheme? hclean).trans (scheme?_append h.isScheme _)
  have hdrop : (l.slashes ++ (l.userInfo ++ (l.host ++ (l.port ++ l.rest)))).dropWhile Url.isSlash =
      l.userInfo ++ (l.host ++ (l.port ++ l.rest)) :=
    dropWhile_exact (fun c hc => by simpa [Url.isSlash] using h.slashes c hc) fun c hc => by
      simpa [Url.isSlash] using Layout.not_slash (h.head?_not_slash hc)
  obtain ⟨url, host, hurl, hhost, hnamed⟩ := h.exists_parseAuthority (l.scheme.map Char.toLower)
  have hparse : Url.parse target = .ok url := by
    unfold Url.parse
    simp only [hfound, kind_of_http h.scheme, hdrop]
    exact hurl
  have hscheme : ¬ (url.scheme ≠ "http".toList ∧ url.scheme ≠ "https".toList) := by
    rw [parseAuthority_scheme hurl]
    exact fun hneither => h.scheme.elim hneither.1 hneither.2
  unfold checkTarget
  simp only [hparse]
  rw [if_neg hscheme, if_neg (by simp [hhost, hnamed])]

end Layout.NamesHost

/-- What the check of a target lets through and what it refuses. -/
structure Screens (target : String) : Prop where
  /-- Let through is what is an HTTP address with a host once it is cleaned. -/
  layout (cleaned : List Char) : Cleaned target.toList cleaned →
    (checkTarget target = .ok () ↔ ∃! l : Layout, l.NamesHost ∧ l.text = cleaned)
  /-- No other scheme is let through, however it is written and whatever stands around it. -/
  scheme (name rest : List Char) : Cleaned target.toList (name ++ ':' :: rest) → IsScheme name →
    name.map Char.toLower ≠ "http".toList → name.map Char.toLower ≠ "https".toList → checkTarget target ≠ .ok ()
  hosted : checkTarget target ≠ .error .missingHost

theorem scheme_of_checkTarget (h : checkTarget target = .ok ()) : ∃ url, Url.parse target = .ok url ∧
    (url.scheme = "http".toList ∨ url.scheme = "https".toList) := by
  unfold checkTarget at h
  split at h
  · cases h
  · next url hurl =>
    split at h
    · cases h
    · next hscheme => exact ⟨url, hurl, by simpa [Classical.or_iff_not_imp_left] using hscheme⟩

theorem authority_of_parse (h : Url.parse target = .ok url) (hscheme : url.scheme = "http".toList ∨ url.scheme = "https".toList) :
    ∃ name rest, IsScheme name ∧ name.map Char.toLower = url.scheme ∧ Url.clean target.toList = name ++ ':' :: rest ∧
      Url.parseAuthority url.scheme .network (rest.dropWhile Url.isSlash) = .ok url := by
  obtain ⟨rest, hfound⟩ := scheme_of_parse h
  obtain ⟨name, hname, hcleaned, hlower⟩ := exists_of_scheme? hfound
  refine ⟨name, rest, hname, hlower, hcleaned, ?_⟩
  unfold Url.parse at h
  simp only [hfound, kind_of_http hscheme] at h
  exact h

theorem checkTarget_screens (target : String) : Screens target where
  layout cleaned hcleaned := by
    have hclean := cleaned_iff.mp hcleaned
    constructor
    · intro hok
      obtain ⟨url, hurl, hscheme⟩ := scheme_of_checkTarget hok
      obtain ⟨name, rest, -, hlower, hlaid, hauthority⟩ := authority_of_parse hurl hscheme
      obtain ⟨l, hnames, htext⟩ := exists_layout (hlower ▸ hscheme) hauthority
      rw [← hclean, hlaid]
      exact ⟨l, ⟨hnames, htext⟩, fun other hother => hother.1.unique hnames (hother.2.trans htext.symm)⟩
    · rintro ⟨l, ⟨hnames, htext⟩, -⟩
      exact hnames.checkTarget_ok (hclean.trans htext.symm)
  scheme name rest hcleaned hname hhttp hhttps hok := by
    obtain ⟨url, hurl, hscheme⟩ := scheme_of_checkTarget hok
    obtain ⟨rest', hfound⟩ := scheme_of_parse hurl
    rw [cleaned_iff.mp hcleaned, scheme?_append hname] at hfound
    obtain ⟨hsame, -⟩ := Prod.mk.inj (Option.some.inj hfound)
    rcases hscheme with h | h
    · exact hhttp (hsame.trans h)
    · exact hhttps (hsame.trans h)
  hosted h := by
    unfold checkTarget at h
    split at h
    · cases h
    · next url hurl =>
      split at h
      · cases h
      · next hscheme =>
        split at h
        · next hempty =>
          have hhttp : url.scheme = "http".toList ∨ url.scheme = "https".toList := by
            simpa [Classical.or_iff_not_imp_left] using hscheme
          obtain ⟨name, rest, -, -, -, hauthority⟩ := authority_of_parse hurl hhttp
          obtain ⟨_, _, host, -, -, hhost, hsome, -⟩ := exists_of_parseAuthority hauthority
          rw [hsome] at hempty
          exact absurd hempty (by simp [isEmpty_of_parseHost hhost])
        · cases h

example : checkTarget "\x01 hT\ntP:/\\u@[::1]:80\t" = .ok () ∧
    checkTarget "\x01jAvA\r\nscript\t://[::1]" = .error .unsupportedProtocol := by
  decide +kernel

end ShortLinks.Address
