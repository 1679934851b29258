import Mathlib.Data.List.TakeWhile
import ShortLinks.Proofs.Outcome
import ShortLinks.Record.Decode

/-!
# Readers look at a front

A reader that succeeds has looked at a front of its input and at the byte after it. It does the same on every
input with that front whose next byte is the same one, whatever comes later. Words and strings are read so.
-/

set_option autoImplicit false

namespace ShortLinks.Record

/-- `reads` relates an input to what a reader leaves of it. The input has a front that may be followed by
anything that starts as `rest` does. -/
def FrontOf (reads : Bytes → Bytes → Prop) (s rest : Bytes) : Prop :=
  ∃ front, s = front ++ rest ∧ ∀ other, other.head? = rest.head? → reads (front ++ other) other

namespace FrontOf

variable {F G H : Bytes → Bytes → Prop} {s mid rest : Bytes}

theorem head?_append_congr {front other rest : Bytes} (h : other.head? = rest.head?) :
    (front ++ other).head? = (front ++ rest).head? := by
  rw [List.head?_append, List.head?_append, h]

theorem trans (h : FrontOf F s mid) (h' : FrontOf G mid rest)
    (hH : ∀ a b c, b.head? = mid.head? → c.head? = rest.head? → F a b → G b c → H a c) :
    FrontOf H s rest := by
  obtain ⟨front, hs, hF⟩ := h
  obtain ⟨front', hmid, hG⟩ := h'
  refine ⟨front ++ front', by rw [hs, hmid, List.append_assoc], ?_⟩
  intro other hother
  have hhead : (front' ++ other).head? = mid.head? := hmid ▸ head?_append_congr hother
  rw [List.append_assoc]
  exact hH _ _ _ hhead hother (hF _ hhead) (hG _ hother)

theorem after (front : Bytes) (h : FrontOf G s rest)
    (hH : ∀ b c, b.head? = s.head? → c.head? = rest.head? → G b c → H (front ++ b) c) :
    FrontOf H (front ++ s) rest := by
  obtain ⟨front', hs, hG⟩ := h
  refine ⟨front ++ front', by rw [hs, List.append_assoc], ?_⟩
  intro other hother
  rw [List.append_assoc]
  exact hH _ _ (hs ▸ head?_append_congr hother) hother (hG _ hother)

theorem mono (h : FrontOf F s rest)
    (hG : ∀ a c, a.head? = s.head? → c.head? = rest.head? → F a c → G a c) :
    FrontOf G s rest :=
  h.after [] hG

theorem exactly (front rest : Bytes) (h : ∀ c, c.head? = rest.head? → F (front ++ c) c) :
    FrontOf F (front ++ rest) rest :=
  ⟨front, rfl, h⟩

theorem length_le (h : FrontOf F s rest) :
    rest.length ≤ s.length := by
  obtain ⟨front, rfl, -⟩ := h
  simp

end FrontOf

theorem eq_cons_of_head? {b : UInt8} {s t : Bytes} (h : t.head? = (b :: s).head?) : ∃ u, t = b :: u :=
  List.head?_eq_some_iff.mp h

theorem eq_nil_of_head? {t : Bytes} (h : t.head? = ([] : Bytes).head?) : t = [] := List.head?_eq_none_iff.mp h

theorem dropWhile_front (p : UInt8 → Bool) (s : Bytes) :
    FrontOf (fun a c => a.dropWhile p = c) s (s.dropWhile p) := by
  refine ⟨s.takeWhile p, List.takeWhile_append_dropWhile.symm, ?_⟩
  intro other hother
  rw [List.dropWhile_append_of_pos (List.all_eq_true.mp List.all_takeWhile)]
  cases other with
  | nil => rfl
  | cons b t =>
    have hb := List.head?_dropWhile_not p s
    rw [← hother] at hb
    simp [show p b = false by simpa using hb]

theorem skipBlanks_front (s : Bytes) : FrontOf (fun a c => skipBlanks a = c) s (skipBlanks s) :=
  dropWhile_front _ s

theorem skipDigits_front (s : Bytes) : FrontOf (fun a c => skipDigits a = c) s (skipDigits s) :=
  dropWhile_front _ s

theorem FrontOf.afterBlanks {G H : Bytes → Bytes → Prop} {b : UInt8} {s t rest : Bytes}
    (hs : skipBlanks s = b :: t) (h : FrontOf G t rest)
    (hH : ∀ a u c, u.head? = t.head? → c.head? = rest.head? → skipBlanks a = b :: u → G u c → H a c) :
    FrontOf H s rest := by
  have hblanks := skipBlanks_front s
  rw [hs] at hblanks
  have hbyte : FrontOf (fun a c => ∃ u, a = b :: u ∧ u.head? = t.head? ∧ G u c) (b :: t) rest :=
    h.after [b] fun u c hu _ hc => ⟨u, rfl, hu, hc⟩
  refine hblanks.trans hbyte ?_
  rintro a _ c - hc ha ⟨u, rfl, hu, huc⟩
  exact hH a u c hu hc ha huc

theorem word_front {w s t : Bytes} (h : word w s = .ok t) : FrontOf (fun a c => word w a = .ok c) s t := by
  induction w generalizing s with
  | nil =>
    cases h
    exact .exactly [] t fun c _ => rfl
  | cons x w ih =>
    cases s with
    | nil => simp [word] at h
    | cons b s =>
      simp only [word] at h
      split at h
      · next hb =>
        refine (ih h).after [b] fun a c _ _ ha => ?_
        simpa [word, hb] using ha
      · cases h

theorem skipChars_front {s t : Bytes} (h : skipChars s = .ok t) :
    FrontOf (fun a c => skipChars a = .ok c) s t := by
  fun_induction skipChars s with
  | case1 | case3 | case4 | case6 | case8 | case9 => cases h
  | case2 s =>
    cases h
    exact .exactly [quote] t fun c _ => skipChars_quote c
  | case5 w x y z s m hm hb ih =>
    refine (ih h).after [backslash, 117, w, x, y, z] fun a c _ _ ha => ?_
    exact (skipChars_unicode hm a).trans ha
  | case7 e s _ he c hc hb ih =>
    refine (ih h).after [backslash, e] fun a d _ _ ha => ?_
    exact (skipChars_simple hc a).trans ha
  | case10 b s hq hb hc ih =>
    refine (ih h).after [b] fun a c _ _ ha => ?_
    exact (skipChars_plain hq hb hc a).trans ha

theorem prepend_eq_ok {front raw : Bytes} {r : Scan Bytes} {t : Bytes} :
    r.prepend front = .ok (raw, t) ↔ ∃ tail, r = .ok (tail, t) ∧ front ++ tail = raw := by
  unfold Scan.prepend
  rw [map_eq_ok]
  constructor
  · rintro ⟨⟨tail, rest⟩, hr, h⟩
    cases h
    exact ⟨tail, hr, rfl⟩
  · rintro ⟨tail, hr, rfl⟩
    exact ⟨(tail, t), hr, rfl⟩

theorem readChars_front {s raw t : Bytes} (h : readChars s = .ok (raw, t)) :
    FrontOf (fun a c => readChars a = .ok (raw, c)) s t := by
  fun_induction readChars s generalizing raw with
  | case1 | case3 | case4 | case5 | case6 | case7 | case8 | case10 | case11 | case12 | case13 | case15
  | case17 | case18 => cases h
  | case2 s =>
    cases h
    exact .exactly [quote] t fun c _ => readChars_quote c
  | case9 w x y z n hn hnt hnl w' x' y' z' s m hm hmt _ ih =>
    obtain ⟨tail, hs, rfl⟩ := prepend_eq_ok.mp h
    refine (ih hs).after [backslash, 117, w, x, y, z, backslash, 117, w', x', y', z'] fun a c _ _ ha => ?_
    refine (readChars_pair hn hnl hm hmt a).trans ?_
    exact prepend_eq_ok.mpr ⟨tail, ha, rfl⟩
  | case14 w x y z s n hn hnt hnl _ ih =>
    obtain ⟨tail, hs, rfl⟩ := prepend_eq_ok.mp h
    refine (ih hs).after [backslash, 117, w, x, y, z] fun a c _ _ ha => ?_
    refine (readChars_unicode hn (by simpa using hnt) (by simpa using hnl) a).trans ?_
    exact prepend_eq_ok.mpr ⟨tail, ha, rfl⟩
  | case16 e s _ _ d hd _ ih =>
    obtain ⟨tail, hs, rfl⟩ := prepend_eq_ok.mp h
    refine (ih hs).after [backslash, e] fun a c _ _ ha => ?_
    exact (readChars_simple hd a).trans (prepend_eq_ok.mpr ⟨tail, ha, rfl⟩)
  | case19 b s hq hb hc ih =>
    obtain ⟨tail, hs, rfl⟩ := prepend_eq_ok.mp h
    refine (ih hs).after [b] fun a c _ _ ha => ?_
    exact (readChars_plain hq hb hc a).trans (prepend_eq_ok.mpr ⟨tail, ha, rfl⟩)

theorem readText_eq_ok {s t : Bytes} {text : String} :
    readText s = .ok (text, t) ↔ readChars s = .ok (Bytes.ofText text, t) := by
  unfold readText
  cases readChars s with
  | error e => simp
  | ok r =>
    obtain ⟨raw, rest⟩ := r
    cases htext : Bytes.text? raw with
    | none =>
      have hne : raw ≠ Bytes.ofText text := by
        rintro rfl
        simp [Bytes.text?_ofText] at htext
      simp [htext, hne]
    | some u =>
      rw [Bytes.text?_eq_some_iff] at htext
      subst htext
      have hinj : Bytes.ofText u = Bytes.ofText text ↔ u = text :=
        ⟨fun h => Option.some.inj (by rw [← Bytes.text?_ofText u, h, Bytes.text?_ofText]), fun h => h ▸ rfl⟩
      simp [Bytes.text?_ofText, hinj]

theorem readText_front {s t : Bytes} {text : String} (h : readText s = .ok (text, t)) :
    FrontOf (fun a c => readText a = .ok (text, c)) s t :=
  (readChars_front (readText_eq_ok.mp h)).mono fun _ _ _ _ ha => readText_eq_ok.mpr ha

end ShortLinks.Record
