/-
The names that paths lead through, and how paths end.

* `parts_append_slash`, `parts_join`, `head?_join`: the names of a path that was put
  together, and where it starts.
* `exists_parts_append`: the last name ends as the path does.
* `EndsIn`: the last name of a path, where it leads down.
* `exists_append_of_hasExtension`, `stemAndExtension_append`: a file name with an extension
  ends in it, and one that is put together comes apart again.
-/
import Mathlib
import ContractScaffold.Path
import ContractScaffold.Proofs.Text.Trim

namespace ContractScaffold

open Text

namespace Path

/-! ### Names of a path -/

lemma parts_nil : parts [] = [] := rfl

lemma parts_of_slash_notMem {name : Text} (hne : name ≠ []) (hslash : '/' ∉ name) :
    parts name = [name] := by
  rw [parts, List.splitOn_eq_singleton hslash]
  simpa using hne

lemma parts_append_slash (front path : Path) :
    parts (front ++ '/' :: path) = parts front ++ parts path := by
  rw [parts, List.splitOn_append_cons_self, List.filter_append, parts, parts]

/-- A name below a directory is the last name of its path. -/
lemma parts_join (dir : Path) {name : Text} (hne : name ≠ []) (hslash : '/' ∉ name) :
    (dir.join name).parts = dir.parts ++ [name] := by
  have hhead : name.head? ≠ some '/' := fun h => hslash (List.mem_of_mem_head? h)
  rw [join, if_neg hhead]
  split_ifs with hdir
  · rcases hdir with rfl | hlast
    · exact parts_of_slash_notMem hne hslash
    · obtain ⟨front, rfl⟩ := List.getLast?_eq_some_iff.mp hlast
      rw [List.append_assoc, List.singleton_append, parts_append_slash, parts_append_slash,
        parts_of_slash_notMem hne hslash, parts_nil, List.append_nil]
  · rw [parts_append_slash, parts_of_slash_notMem hne hslash]

/-- A path below a directory starts where the directory does. -/
lemma head?_join {dir path : Path} (hdir : dir ≠ []) (hpath : path.head? ≠ some '/') :
    (dir.join path).head? = dir.head? := by
  obtain ⟨c, rest, rfl⟩ := List.exists_cons_of_ne_nil hdir
  rw [join, if_neg hpath]
  split_ifs <;> rfl

/-- A path ends in what stands below the directory. -/
lemma suffix_join (dir path : Path) : path <:+ dir.join path := by
  rw [join]
  split_ifs
  · exact List.suffix_rfl
  · exact List.suffix_append dir path
  · exact (List.suffix_cons '/' path).trans (List.suffix_append dir _)

/-- A path below a directory begins with the directory. -/
lemma prefix_join (dir : Path) {path : Path} (hpath : path.head? ≠ some '/') :
    dir <+: dir.join path := by
  rw [join, if_neg hpath]
  split_ifs
  · exact List.prefix_append dir path
  · exact List.prefix_append dir ('/' :: path)

/-- The last name of a path ends as the path does. -/
lemma exists_parts_append (front : Path) {ending : Text} (hne : ending ≠ [])
    (hslash : '/' ∉ ending) :
    ∃ names first, parts (front ++ ending) = names ++ [first ++ ending] := by
  by_cases hfront : '/' ∈ front
  · obtain ⟨back, above, hsplit, hback⟩ := List.eq_append_cons_of_mem (List.mem_reverse.mpr hfront)
    have hsplit : front = above.reverse ++ '/' :: back.reverse := by
      rw [← List.reverse_reverse front, hsplit]
      simp
    refine ⟨parts above.reverse, back.reverse, ?_⟩
    have hlast : parts (back.reverse ++ ending) = [back.reverse ++ ending] :=
      parts_of_slash_notMem (by simp [hne]) (by simp [hback, hslash])
    rw [hsplit, List.append_assoc, List.cons_append, parts_append_slash, hlast]
  · exact ⟨[], front, parts_of_slash_notMem (by simp [hne]) (by simp [hfront, hslash])⟩

/-- The path ends in the name, which is neither the directory itself nor the one above. -/
structure EndsIn (path : Path) (name : Text) : Prop where
  parts : ∃ above, path.parts = above ++ [name]
  ne_dot : name ≠ ['.']
  ne_up : name ≠ ['.', '.']

/-- The chain up from a path begins with the path. -/
lemma exists_ancestors_eq_cons {path : Path} (hne : path ≠ []) :
    ∃ above, path.ancestors = path :: above := by
  obtain ⟨c, rest, rfl⟩ := List.exists_cons_of_ne_nil hne
  rw [ancestors, List.length_cons, ancestorsFrom, if_neg hne]
  cases parent? (c :: rest) with
  | none => exact ⟨[], rfl⟩
  | some above => exact ⟨_, rfl⟩

end Path

/-! ### Extensions -/

/-- A file name with an extension ends in a dot and the extension, after something else. -/
lemma exists_append_of_hasExtension {extension name : Text}
    (h : hasExtension extension name = true) : ∃ stem, name = stem ++ '.' :: extension := by
  rw [hasExtension, stemAndExtension] at h
  split_ifs at h with hnone
  · simp at h
  · obtain ⟨-, hstem⟩ := not_or.mp hnone
    have hreversed : name.reverse.takeWhile (· != '.') = extension.reverse := by
      simpa [List.reverse_eq_iff] using h
    obtain ⟨c, rest, hrest⟩ : ∃ c rest, name.reverse.dropWhile (· != '.') = c :: rest :=
      List.exists_cons_of_ne_nil fun hnil => hstem (by rw [hnil]; rfl)
    have hdot : c = '.' := by
      have hhead := List.head?_dropWhile_not (· != '.') name.reverse
      rw [hrest] at hhead
      simpa using hhead
    refine ⟨rest.reverse, ?_⟩
    have hsplit := List.takeWhile_append_dropWhile (p := (· != '.')) (l := name.reverse)
    rw [hreversed, hrest, hdot] at hsplit
    rw [← List.reverse_reverse name, ← hsplit]
    simp

/-- A file name that is put together of a stem and an extension comes apart again. -/
lemma stemAndExtension_append {stem extension : Text} (hstem : stem ≠ []) (hne : extension ≠ [])
    (hdot : '.' ∉ extension) :
    stemAndExtension (stem ++ '.' :: extension) = (stem, some extension) := by
  have hreversed :
      (stem ++ '.' :: extension).reverse = extension.reverse ++ '.' :: stem.reverse := by simp
  have hchars : ∀ c ∈ extension.reverse, (c != '.') = true := fun c hc => by
    simpa using fun h : c = '.' => hdot (h ▸ List.mem_reverse.mp hc)
  have hstop : ('.' != '.') = false := rfl
  have hup : stem ++ '.' :: extension ≠ ['.', '.'] := by
    intro h
    have hlength := congrArg List.length h
    have hstem := List.length_pos_iff.mpr hstem
    have hne := List.length_pos_iff.mpr hne
    simp at hlength
    omega
  rw [stemAndExtension, hreversed, dropWhile_until hchars hstop, takeWhile_until hchars hstop]
  simp [hup, hstem]

end ContractScaffold
