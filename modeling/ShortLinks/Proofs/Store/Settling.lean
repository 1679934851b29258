import Mathlib.Logic.Function.Iterate
import ShortLinks.Proofs.Store.Compaction

/-!
# Writing a log anew again

A log that was written anew and is written anew once more keeps its entries, byte for byte. A line that is no record is
kept without its end, and a carriage return before the line feed belongs to the end: where such a line had several of
them it loses one each time, so that the log settles only when none is left.
-/

set_option autoImplicit false

namespace ShortLinks

namespace Log

variable {log log' : Log} {content content' text : Bytes} {n : Nat}

def dropReturn (text : Bytes) : Bytes := if text.getLast? = some 13 then text.dropLast else text

theorem dropLineEnd_line (text : Bytes) : dropLineEnd (text ++ [10]) = dropReturn text := by
  rcases List.eq_nil_or_concat text with rfl | ⟨front, b, rfl⟩
  · rfl
  · by_cases hb : b = 13 <;> simp [dropLineEnd, dropReturn, hb]

theorem dropReturn_of_getLast? (h : text.getLast? ≠ some 13) : dropReturn text = text := if_neg h

theorem length_iterate_dropReturn_le (n : Nat) (text : Bytes) : (dropReturn^[n] text).length ≤ text.length := by
  induction n generalizing text with
  | zero => exact le_rfl
  | succ n ih =>
    refine (ih (dropReturn text)).trans ?_
    unfold dropReturn
    split
    · rw [List.length_dropLast]
      omega
    · exact le_rfl

theorem iterate_dropReturn_eq_self_iff : dropReturn^[n + 1] text = text ↔ text.getLast? ≠ some 13 := by
  constructor
  · intro hsame hlast
    have hle := length_iterate_dropReturn_le n (dropReturn text)
    have hdrop : dropReturn text = text.dropLast := if_pos hlast
    have hpos : 0 < text.length := List.length_pos_of_mem (List.mem_of_getLast? hlast)
    rw [← Function.iterate_succ_apply, hsame, hdrop, List.length_dropLast] at hle
    omega
  · intro hlast
    exact Function.iterate_fixed (dropReturn_of_getLast? hlast) (n + 1)

def rewrite (content : Bytes) : Bytes := (ofBytes content).toBytes

theorem toBytes_congr (hentries : log.entries = log'.entries) (hunparsed : log.unparsed = log'.unparsed) :
    log.toBytes = log'.toBytes := by
  unfold toBytes
  rw [hentries, hunparsed]

theorem entries_rewrite (content : Bytes) : (ofBytes (rewrite content)).entries = (ofBytes content).entries :=
  entries_ofBytes_toBytes content

theorem unparsed_rewrite (content : Bytes) :
    (ofBytes (rewrite content)).unparsed = (ofBytes content).unparsed.map dropReturn := by
  rw [unparsed_ofBytes, unparsed_ofBytes, rewrite, malformedLines_toBytes, List.map_map, List.map_map]
  exact List.map_congr_left fun line _ => dropLineEnd_line (dropLineEnd line)

theorem entries_iterate_rewrite (n : Nat) (content : Bytes) :
    (ofBytes (rewrite^[n] content)).entries = (ofBytes content).entries := by
  induction n with
  | zero => rfl
  | succ n ih => rw [Function.iterate_succ_apply', entries_rewrite, ih]

theorem unparsed_iterate_rewrite (n : Nat) (content : Bytes) :
    (ofBytes (rewrite^[n] content)).unparsed = (ofBytes content).unparsed.map dropReturn^[n] := by
  induction n with
  | zero => exact (List.map_id _).symm
  | succ n ih => rw [Function.iterate_succ_apply', unparsed_rewrite, ih, List.map_map, ← Function.iterate_succ']

/-- After any number of rewritings the log holds its entries, and its other lines without as many returns. -/
theorem iterate_rewrite (n : Nat) (content : Bytes) : rewrite^[n + 1] content =
    ((ofBytes content).keeping ((ofBytes content).unparsed.map dropReturn^[n])).toBytes := by
  rw [Function.iterate_succ_apply']
  exact toBytes_congr (entries_iterate_rewrite n content) (unparsed_iterate_rewrite n content)

theorem rewrite_eq_iff : rewrite content = rewrite content' ↔
    (ofBytes content).entries = (ofBytes content').entries ∧ (ofBytes content).unparsed = (ofBytes content').unparsed := by
  constructor
  · intro h
    refine ⟨by rw [← entries_rewrite, h, entries_rewrite], ?_⟩
    have hlines := congrArg malformedLines h
    rw [rewrite, rewrite, malformedLines_toBytes, malformedLines_toBytes] at hlines
    rw [unparsed_ofBytes, unparsed_ofBytes]
    refine (List.map_injective_iff.mpr (List.append_left_injective [10])) ?_
    rw [List.map_map, List.map_map]
    exact hlines
  · rintro ⟨hentries, hunparsed⟩
    exact toBytes_congr hentries hunparsed

theorem iterate_rewrite_eq_iff : rewrite^[n + 2] content = rewrite content ↔
    ∀ text ∈ (ofBytes content).unparsed, text.getLast? ≠ some 13 := by
  rw [Function.iterate_succ_apply', rewrite_eq_iff, entries_iterate_rewrite, unparsed_iterate_rewrite]
  refine (and_iff_right rfl).trans ?_
  conv_lhs => rw [← List.map_id (ofBytes content).unparsed, List.map_map]
  rw [List.map_inj_left]
  exact forall₂_congr fun text _ => iterate_dropReturn_eq_self_iff

end Log

namespace FileStore

variable {s s' first last : FileStore} {d : Disk} {path : String} {n : Nat}

/-- The log under a path is written anew: a store is opened on it, or one that is open compacts it or is opened again. -/
inductive Renews (path : String) : Disk → FileStore → Prop where
  | opened {d : Disk} {s : FileStore} (h : Opens path d s) : Renews path d s
  | compacted {s₀ s : FileStore} (hpath : s₀.path = path) (h : compact.Ends s₀ (.ok ()) s) : Renews path s₀.disk s
  | reopened {s₀ s : FileStore} (hpath : s₀.path = path) (h : reopen.Ends s₀ (.ok ()) s) : Renews path s₀.disk s

inductive RenewsTimes (path : String) (d : Disk) : Nat → FileStore → Prop where
  | once {s : FileStore} (h : Renews path d s) : RenewsTimes path d 1 s
  | again {n : Nat} {s s' : FileStore} (hs : RenewsTimes path d n s) (h : Renews path s.disk s') :
      RenewsTimes path d (n + 1) s'

theorem Renews.content (h : Renews path d s) : s.disk.content? path = some (Log.rewrite ((d.content? path).getD [])) := by
  have hrewritten : Rewritten path d s := by
    cases h with
    | opened h => exact h.rewritten
    | compacted hpath h => exact hpath ▸ compact_ends h
    | reopened hpath h => exact hpath ▸ (reopen_ends h).rewritten
  have hholds := Disk.content?_of_holds hrewritten.ready.holds
  rw [hrewritten.path_eq, hrewritten.content] at hholds
  exact hholds

theorem RenewsTimes.content (h : RenewsTimes path d n s) :
    s.disk.content? path = some (Log.rewrite^[n] ((d.content? path).getD [])) := by
  induction h with
  | once h => exact h.content
  | again _ h ih => rw [h.content, ih, Option.getD_some, Function.iterate_succ_apply']

/-- A log that is written anew after it was written anew is byte for byte what it was exactly if no line that is no
record has a carriage return left at its end. However often that happens, its entries stay as they are, and each such
line loses one carriage return each time, as long as it has any. -/
theorem rewriting_again (hfirst : Renews path d first) (hlast : RenewsTimes path first.disk (n + 1) last) :
    let log := Log.ofBytes ((d.content? path).getD [])
    ∃ before after, first.disk.content? path = some before ∧ last.disk.content? path = some after ∧
      (after = before ↔ ∀ text ∈ log.unparsed, text.getLast? ≠ some 13) ∧
      before = log.toBytes ∧ after = (log.keeping (log.unparsed.map Log.dropReturn^[n + 1])).toBytes := by
  intro log
  have hcontent := hlast.content
  rw [hfirst.content, Option.getD_some, ← Function.iterate_succ_apply] at hcontent
  exact ⟨_, _, hfirst.content, hcontent, Log.iterate_rewrite_eq_iff, rfl, Log.iterate_rewrite (n + 1) _⟩

def doubledDisk : Disk := ((Disk.blank []).create ["log"]).setContents 0 [120, 13, 13, 10]

theorem doubledDisk_holds : doubledDisk.Holds "log" 0 := ⟨["log"], by decide, by decide⟩

theorem doubledDisk_content : doubledDisk.content? "log" = some [120, 13, 13, 10] :=
  Disk.content?_of_holds doubledDisk_holds

theorem doubledDisk_compacts : ∃ s s', Opens "log" doubledDisk s ∧ compact.Ends s (.ok ()) s' := by
  have hsteady : doubledDisk.Steady := fun _ h => by cases h
  have hbeside : doubledDisk.Writable (besidePath "log") := ⟨["log.compact"], by decide, by decide⟩
  obtain ⟨s, hs⟩ := exists_opens doubledDisk_holds.writable hbeside hsteady
  obtain ⟨s', hs'⟩ := compact_of_steady hs.rewritten.ready (hs.rewritten.later.steady hsteady)
  exact ⟨s, s', hs, hs'⟩

theorem doubledDisk_rewriting_again : ∃ s s', Renews "log" doubledDisk s ∧ RenewsTimes "log" s.disk 1 s' ∧
    ∃ before after, s.disk.content? "log" = some before ∧ s'.disk.content? "log" = some after ∧
      (after = before ↔ ∀ text ∈ (Log.ofBytes [120, 13, 13, 10]).unparsed, text.getLast? ≠ some 13) := by
  obtain ⟨s, s', hs, hs'⟩ := doubledDisk_compacts
  have hagain : RenewsTimes "log" s.disk 1 s' := .once (.compacted hs.2 hs')
  obtain ⟨before, after, hbefore, hafter, hiff, -, -⟩ := rewriting_again (.opened hs) hagain
  rw [doubledDisk_content] at hiff
  exact ⟨s, s', .opened hs, hagain, before, after, hbefore, hafter, hiff⟩

/-- The line is `x` and a carriage return after the first time, and `x` alone after the second. -/
theorem doubledDisk_changes_again : ∃ s s', Opens "log" doubledDisk s ∧ compact.Ends s (.ok ()) s' ∧
    s.disk.content? "log" = some [120, 13, 10] ∧ s'.disk.content? "log" = some [120, 10] := by
  obtain ⟨s, s', hs, hs'⟩ := doubledDisk_compacts
  have hfirst := (Renews.opened hs).content
  have hsecond := (Renews.compacted hs.2 hs').content
  rw [doubledDisk_content, Option.getD_some] at hfirst
  have honce : Log.rewrite [120, 13, 13, 10] = [120, 13, 10] := by decide
  have htwice : Log.rewrite [120, 13, 10] = [120, 10] := by decide
  rw [honce] at hfirst
  rw [hfirst, Option.getD_some, htwice] at hsecond
  exact ⟨s, s', hs, hs', hfirst, hsecond⟩

end FileStore
end ShortLinks
