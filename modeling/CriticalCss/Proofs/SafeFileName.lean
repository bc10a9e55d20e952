import CriticalCss.Output.Name

/-!
# Safe output file names

The critical stylesheet of a run is written to a directory under a name built from a template.
Whatever the template expands to, and also when it fails or expands to blanks, the name is a
stem followed by `.css` where the stem is not empty, holds no NUL, no `/` and no `:`, and does not
start with a dot (`SafeStem`). Only the cleaning at the end is needed for this: it removes the
reserved characters and then the leading dots, and falls back to `_bad_file_name_` when nothing
is left (`safeStem_cleanFileName`). A name without a slash is the last element of every path that
joins it to a directory (`Text.pathBase_join`), so the file lands directly in that directory and
is not hidden.

## Main results

* `safeStem_cleanFileName`: a cleaned name is a safe stem.
* `Text.pathBase_join`: a name without a slash ends every path it is joined to.
* `NameValues.fileName_safe`: every file name of a run is a safe stem and `.css`.
-/

namespace CriticalCss.Text

/-- A name without a slash is the last element of every path it ends after a slash. -/
theorem pathBase_join {name : String} (hne : name.toList ≠ []) (hs : '/' ∉ name.toList)
    (dir : String) : pathBase (dir ++ "/" ++ name) = name := by
  have hrev : ∀ c ∈ name.toList.reverse, (c != '/') = true := fun c hc => by
    have : c ≠ '/' := fun h => hs (h ▸ List.mem_reverse.1 hc)
    simpa using this
  have hpath : (dir ++ "/" ++ name).toList.reverse =
      name.toList.reverse ++ '/' :: dir.toList.reverse := by
    simp
  -- the path ends in the name's last character, which is no slash
  have hdrop : (dir ++ "/" ++ name).toList.reverse.dropWhile (· == '/') =
      (dir ++ "/" ++ name).toList.reverse := by
    obtain ⟨c, rest, hcr⟩ := List.exists_cons_of_ne_nil (List.reverse_ne_nil_iff.2 hne)
    have hc : (c == '/') = false := by simpa using hrev c (hcr ▸ List.mem_cons_self)
    rw [hpath, hcr, List.cons_append, List.dropWhile_cons_of_neg (by simp [hc])]
  have htake : (name.toList.reverse ++ '/' :: dir.toList.reverse).takeWhile (· != '/') =
      name.toList.reverse := by
    rw [List.takeWhile_append_of_pos hrev, List.takeWhile_cons_of_neg (by simp), List.append_nil]
  have hp : (dir ++ "/" ++ name).isEmpty = false := by
    rw [Bool.eq_false_iff]
    intro h
    have := congrArg String.toList (String.isEmpty_iff.1 h)
    simp at this
  have hne' : dir ++ "/" ++ name ≠ "" := fun h => by simp [h] at hp
  unfold pathBase
  simp only [hp, hdrop, List.reverse_reverse, List.isEmpty_iff, String.toList_eq_nil_iff]
  rw [if_neg Bool.false_ne_true, if_neg hne', hpath, htake, List.reverse_reverse,
    String.ofList_toList]

end CriticalCss.Text

namespace CriticalCss.Output

/-- A stem a file can be named by in a directory: not empty, without NUL or a path or list
separator, and not starting with a dot. -/
structure SafeStem (stem : List Char) : Prop where
  ne_nil : stem ≠ []
  reserved : ∀ c ∈ stem, c ≠ '\x00' ∧ c ≠ '/' ∧ c ≠ ':'
  visible : stem.head? ≠ some '.'

theorem safeStem_cleanFileName (name : String) : SafeStem (cleanFileName name).toList := by
  unfold cleanFileName
  dsimp only
  split
  · -- the name of last resort
    refine ⟨by simp, fun c hc => ?_, by simp⟩
    have hall := List.all_eq_true.1
      (by decide : "_bad_file_name_".toList.all (fun c => c != '\x00' && c != '/' && c != ':') = true)
    simpa [and_assoc] using hall c hc
  · rename_i hne
    rw [String.toList_ofList]
    refine ⟨by simpa using hne, fun c hc => ?_, fun hd => ?_⟩
    · have := (List.mem_filter.1 ((List.dropWhile_sublist _).subset hc)).2
      simpa [and_assoc] using this
    · -- the dots in front are dropped, so the first character left is none
      have := List.head?_dropWhile_not (· == '.')
        (name.toList.filter fun c => c != '\x00' && c != '/' && c != ':')
      rw [hd] at this
      simp at this

theorem exists_fileName_eq (values : NameValues) (template : String) :
    ∃ stem, (values.fileName template).1 = cleanFileName stem ++ outputExtension := by
  exact ⟨_, rfl⟩

/-- The file name of a run is a safe stem followed by `.css`, whatever the template and the
values, and whether the template expands, fails, or expands to blanks: so it is the last element
of every path that joins it to a directory. -/
theorem NameValues.fileName_safe (values : NameValues) (template : String) :
    ∃ stem : String, (values.fileName template).1 = stem ++ outputExtension ∧
      SafeStem stem.toList ∧
      ∀ dir : String, Text.pathBase (dir ++ "/" ++ (values.fileName template).1) =
        (values.fileName template).1 := by
  obtain ⟨s, hs⟩ := exists_fileName_eq values template
  have hsafe := safeStem_cleanFileName s
  refine ⟨cleanFileName s, hs, hsafe, fun dir => Text.pathBase_join ?_ ?_ dir⟩
  · rw [hs, String.toList_append]
    exact List.append_ne_nil_of_left_ne_nil hsafe.ne_nil _
  · rw [hs, String.toList_append, List.mem_append]
    rintro (h | h)
    · exact (hsafe.reserved _ h).2.1 rfl
    · revert h
      decide

end CriticalCss.Output
