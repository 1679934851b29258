import ShortLinks.Proofs.Record.Front.Basic

/-!
# Fronts of skipped values
-/

set_option autoImplicit false

namespace ShortLinks.Record

theorem skipSign_front (s : Bytes) : FrontOf (fun a c => skipSign a = c) s (skipSign s) := by
  cases s with
  | nil => exact .exactly [] [] fun c hc => by rw [eq_nil_of_head? hc]; rfl
  | cons b s =>
    by_cases hb : isSign b = true
    · rw [show skipSign (b :: s) = s by simp [skipSign, hb]]
      exact .exactly [b] s fun c _ => by simp [skipSign, hb]
    · rw [show skipSign (b :: s) = b :: s by simp [skipSign, hb]]
      refine .exactly [] (b :: s) fun c hc => ?_
      obtain ⟨u, rfl⟩ := eq_cons_of_head? hc
      simp [skipSign, hb]

theorem skipExponent_front {s t : Bytes} (h : skipExponent s = .ok t) :
    FrontOf (fun a c => skipExponent a = .ok c) s t := by
  have hsign := skipSign_front s
  unfold skipExponent at h
  split at h
  · cases h
  · next b u hu =>
    split at h
    · next hb =>
      cases h
      rw [hu] at hsign
      have hdigits : FrontOf (fun a c => ∃ v, a = b :: v ∧ skipDigits v = c) (b :: u) (skipDigits u) :=
        (skipDigits_front u).after [b] fun v c _ _ hc => ⟨v, rfl, hc⟩
      refine hsign.trans hdigits ?_
      rintro a _ c - - ha ⟨v, rfl, rfl⟩
      simp [skipExponent, ha, hb]
    · cases h

theorem skipExponentPart_front {s t : Bytes} (h : skipExponentPart s = .ok t) :
    FrontOf (fun a c => skipExponentPart a = .ok c) s t := by
  cases s with
  | nil =>
    cases h
    exact .exactly [] [] fun c hc => by rw [eq_nil_of_head? hc]; rfl
  | cons b s =>
    simp only [skipExponentPart] at h
    split at h
    · next hb =>
      refine (skipExponent_front h).after [b] fun a c _ _ ha => ?_
      simpa [skipExponentPart, hb] using ha
    · next hb =>
      cases h
      refine .exactly [] (b :: s) fun c hc => ?_
      obtain ⟨u, rfl⟩ := eq_cons_of_head? hc
      simp [skipExponentPart, hb]

theorem length_skipDigits_eq_iff (s : Bytes) :
    (skipDigits s).length = s.length ↔ s.head?.any Bytes.isDigit = false := by
  cases s with
  | nil => simp [skipDigits]
  | cons b s =>
    have hs := length_skipDigits_le s
    by_cases hb : Bytes.isDigit b = true
    · rw [show skipDigits (b :: s) = skipDigits s by simp [skipDigits, hb]]
      have hne : (skipDigits s).length ≠ s.length + 1 := by omega
      simp [hne, hb]
    · simp [skipDigits, hb]

theorem skipFraction_front {s t : Bytes} (h : skipFraction s = .ok t) :
    FrontOf (fun a c => skipFraction a = .ok c) s t := by
  unfold skipFraction at h
  split at h
  · next u =>
    split at h
    · cases h
    · next hu =>
      have hexponent : FrontOf (fun a c => skipExponentPart (skipDigits a) = .ok c) u t :=
        (skipDigits_front u).trans (skipExponentPart_front h) fun a b c _ _ ha hb => by rw [ha, hb]
      refine hexponent.after [46] fun a c ha _ hac => ?_
      rw [length_skipDigits_eq_iff, ← ha, ← length_skipDigits_eq_iff] at hu
      simpa [skipFraction, hu] using hac
  · next hs =>
    refine (skipExponentPart_front h).mono fun a c ha _ hac => ?_
    unfold skipFraction
    split
    · next v =>
      obtain ⟨u, rfl⟩ := eq_cons_of_head? ha.symm
      exact absurd rfl (hs u)
    · exact hac

theorem skipNumber_front {s t : Bytes} (h : skipNumber s = .ok t) :
    FrontOf (fun a c => skipNumber a = .ok c) s t := by
  unfold skipNumber at h
  split at h
  · cases h
  · next b u =>
    split at h
    · next hb =>
      split at h
      · cases h
      · next hu =>
        refine (skipFraction_front h).after [b] fun a c ha _ hac => ?_
        rw [← ha] at hu
        simpa [skipNumber, hb, hu] using hac
    · next hz =>
      split at h
      · next hb =>
        have hfraction : FrontOf (fun a c => skipFraction (skipDigits a) = .ok c) u t :=
          (skipDigits_front u).trans (skipFraction_front h) fun a b c _ _ ha hb => by rw [ha, hb]
        refine hfraction.after [b] fun a c _ _ hac => ?_
        simpa [skipNumber, hz, hb] using hac
      · cases h

theorem skipScalar_front {s t : Bytes} (h : skipScalar s = some (.ok t)) :
    FrontOf (fun a c => skipScalar a = some (.ok c)) s t := by
  unfold skipScalar at h
  split at h
  · exact (word_front (Option.some.inj h)).after [110] fun a c _ _ ha => congrArg some ha
  · exact (word_front (Option.some.inj h)).after [116] fun a c _ _ ha => congrArg some ha
  · exact (word_front (Option.some.inj h)).after [102] fun a c _ _ ha => congrArg some ha
  · exact (skipChars_front (Option.some.inj h)).after [34] fun a c _ _ ha => congrArg some ha
  · exact (skipNumber_front (Option.some.inj h)).after [45] fun a c _ _ ha => congrArg some ha
  · next b u h1 h2 h3 h4 h5 =>
    split at h
    · next hb =>
      refine (skipNumber_front (Option.some.inj h)).mono fun a c ha _ hac => ?_
      obtain ⟨v, rfl⟩ := eq_cons_of_head? ha
      unfold skipScalar
      split <;> simp_all
    · cases h
  · cases h

theorem skipKey_front {s t : Bytes} (h : skipKey s = .ok t) :
    FrontOf (fun a c => skipKey a = .ok c) s t := by
  unfold skipKey at h
  split at h
  · next u hu =>
    obtain ⟨v, hv, h⟩ := bind_eq_ok.mp h
    split at h
    · next w hw =>
      cases h
      have hcolon : FrontOf (fun a c => skipBlanks a = 58 :: c) v t :=
        .afterBlanks (G := fun a c => a = c) hw (.exactly [] t fun _ _ => rfl) fun a u c _ _ ha hu => hu ▸ ha
      have hchars : FrontOf (fun a c => ∃ r, skipChars a = .ok r ∧ skipBlanks r = 58 :: c) u t :=
        (skipChars_front hv).trans hcolon fun a b c _ _ ha hb => ⟨b, ha, hb⟩
      refine .afterBlanks hu hchars ?_
      rintro a u' c - - ha ⟨r, hr, hc⟩
      simp [skipKey, ha, hr, hc, Except.bind]
    · cases h
    · cases h
  · cases h
  · cases h

theorem skipOpen_front {place : Place} {stack : List Frame} {s t : Bytes} (h : skipOpen place stack s = .ok t) :
    FrontOf (fun a c => skipOpen place stack a = .ok c) s t := by
  fun_induction skipOpen place stack s with
  | case1 | case4 | case5 | case8 | case11 | case13 | case16 | case18 => cases h
  | case2 s stack u hu ih =>
    exact .afterBlanks hu (ih h) fun a v c _ _ ha hc => (skipOpen_container stack ha rfl).trans hc
  | case3 s stack u hu _ ih =>
    exact .afterBlanks hu (ih h) fun a v c _ _ ha hc => (skipOpen_container stack ha rfl).trans hc
  | case6 s stack b u hu hl ho v hv ih =>
    have hblanks := skipBlanks_front s
    rw [hu] at hblanks
    have hscalar := hblanks.trans (skipScalar_front hv)
      (H := fun a c => ∃ w, skipBlanks a = b :: w ∧ skipScalar (b :: w) = some (.ok c))
      fun a d c hd _ ha hc => by
        obtain ⟨w, rfl⟩ := eq_cons_of_head? hd
        exact ⟨w, ha, hc⟩
    refine hscalar.trans (ih h) ?_
    rintro a v' c - - ⟨w, ha, hw⟩ hc
    exact (skipOpen_scalar stack ha hl ho hw).trans hc
  | case7 place s hp =>
    cases h
    exact .exactly [] t fun c _ => skipOpen_done (fun hv => hp hv) c
  | case9 s frame stack u hu ih =>
    exact .afterBlanks hu (ih h) fun a v c _ _ ha hc => (skipOpen_close (by decide) stack ha).trans hc
  | case10 s stack b u hu hb ih =>
    have hblanks := skipBlanks_front s
    rw [hu] at hblanks
    refine hblanks.trans (ih h) fun a d c hd _ ha hc => ?_
    obtain ⟨w, rfl⟩ := eq_cons_of_head? hd
    exact (skipOpen_firstElement stack ha hb).trans hc
  | case12 s stack b u hu v hv hb ih =>
    have hblanks := skipBlanks_front s
    rw [hu] at hblanks
    have hkey := hblanks.trans (skipKey_front hv)
      (H := fun a c => ∃ w, skipBlanks a = b :: w ∧ skipKey (b :: w) = .ok c)
      fun a d c hd _ ha hc => by
        obtain ⟨w, rfl⟩ := eq_cons_of_head? hd
        exact ⟨w, ha, hc⟩
    refine hkey.trans (ih h) ?_
    rintro a v' c - - ⟨w, ha, hw⟩ hc
    exact (skipOpen_firstMember stack ha hb hw).trans hc
  | case14 s frame stack u hu ih =>
    exact .afterBlanks hu (ih h) fun a v c _ _ ha hc => (skipOpen_close (by decide) stack ha).trans hc
  | case15 s stack u hu _ ih =>
    exact .afterBlanks hu (ih h) fun a v c _ _ ha hc => (skipOpen_nextElement stack ha).trans hc
  | case17 s stack u v hv hu _ ih =>
    have hkey := (skipKey_front hv).trans (ih h)
      (H := fun a c => ∃ w, skipKey a = .ok w ∧ skipOpen .value (.object :: stack) w = .ok c)
      fun a d c _ _ ha hc => ⟨d, ha, hc⟩
    refine .afterBlanks hu hkey ?_
    rintro a w c - - ha ⟨x, hx, hc⟩
    exact (skipOpen_nextMember stack ha hx).trans hc

theorem skipValue_front {s t : Bytes} (h : skipValue s = .ok t) : FrontOf (fun a c => skipValue a = .ok c) s t :=
  skipOpen_front h

end ShortLinks.Record
