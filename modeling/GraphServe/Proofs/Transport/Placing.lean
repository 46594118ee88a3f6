import GraphServe.Proofs.Json.Writing
import GraphServe.Transport.Form

/-!
# Forms with files — placing the files

The map of a form names the paths that each file goes to.  If these are paths of their own, and the
variables have something at each of them, then the placeholders of the files are written there
(`UploadForm.place_eq`), and each placeholder leads to its file (`Uploads.find?_placeholder`).
-/

namespace GraphServe

namespace Uploads

theorem key?_placeholder (key : String) : key? (placeholder key) = some key := by
  have hopening : opening.isPrefixOf (opening ++ key.toList ++ closing) = true := by
    rw [List.isPrefixOf_iff_prefix, List.append_assoc]
    exact List.prefix_append _ _
  have hclosing : closing.isSuffixOf (key.toList ++ closing) = true :=
    List.isSuffixOf_iff_suffix.mpr (List.suffix_append _ _)
  have hlength : (key.toList ++ closing).length - closing.length = key.toList.length := by
    rw [List.length_append, Nat.add_sub_cancel]
  simp only [key?, placeholder, Json.string?, String.toList_ofList, hopening, Option.bind_eq_bind,
    Option.bind_some, guard, if_true, pure]
  rw [List.append_assoc, List.drop_left, hclosing, hlength, List.take_left, String.ofList_toList]
  rfl

/-- A placeholder leads to the file of its key. -/
theorem find?_placeholder (u : Uploads) (key : String) :
    u.find? (placeholder key) = u.lookup key := by
  rw [find?, key?_placeholder]
  rfl

theorem lookup_insert (u : Uploads) (key : String) (file : Upload) (other : String) :
    (u.insert key file).lookup other = if other = key then some file else u.lookup other := by
  have hfilter : other ≠ key → List.lookup other (u.filter (·.1 ≠ key)) = u.lookup other := by
    intro hne
    induction u with
    | nil => rfl
    | cons entry u ih =>
        obtain ⟨k, f⟩ := entry
        rw [List.filter_cons, List.lookup_cons]
        by_cases hk : k = key
        · rw [if_neg (by simpa using hk), ih, beq_false_of_ne (hk ▸ hne)]
        · rw [if_pos (by simpa using hk), List.lookup_cons, ih]
  rw [insert, List.lookup_cons]
  by_cases h : other = key
  · rw [if_pos h, h, beq_self_eq_true]
  · rw [if_neg h, beq_false_of_ne h]
    exact hfilter h

end Uploads

namespace UploadForm

open Json

/-- A path of a form leads into the variables. -/
theorem variablePath?_append (path : String) :
    variablePath? (variablesOpening ++ path) = some (Path.parseDotted path) := by
  have hprefix : variablesOpening.toList.isPrefixOf
      (variablesOpening.toList ++ path.toList) = true :=
    List.isPrefixOf_iff_prefix.mpr (List.prefix_append _ _)
  simp only [variablePath?, String.toList_append, hprefix, if_true, List.drop_left,
    String.ofList_toList]

/-- The placeholder of a key at each of some dotted paths. -/
def writesOf (key : String) (paths : List String) : List (Path × Json) :=
  paths.map fun path => (Path.parseDotted path, Uploads.placeholder key)

theorem placeAll_eq {v : Json} {paths : List String} (key : String)
    (h : v.Awaits (paths.map Path.parseDotted)) :
    placeAll key v (paths.map (variablesOpening ++ ·)) = .ok (writeAll (writesOf key paths) v) := by
  induction paths generalizing v with
  | nil => rfl
  | cons path paths ih =>
      obtain ⟨w, hw⟩ := h.there _ List.mem_cons_self
      have hset := setAt_eq_insertAt (h.room _ List.mem_cons_self) hw (Uploads.placeholder key)
      rw [List.map_cons, placeAll, variablePath?_append]
      simp only [hset]
      exact ih (h.insertAt (Uploads.placeholder key))

/-- Under keys of their own, what stands under a key is all there is of it. -/
theorem filter_of_mem {files : List (String × Upload)} (hnodup : (files.map Prod.fst).Nodup)
    {key : String} {file : Upload} (hmem : (key, file) ∈ files) :
    files.filter (·.1 = key) = [(key, file)] ∧ files.lookup key = some file := by
  induction files with
  | nil => cases hmem
  | cons head files ih =>
      obtain ⟨k, f⟩ := head
      obtain ⟨hnew, hnodup⟩ := List.nodup_cons.mp hnodup
      rcases List.mem_cons.mp hmem with heq | hmem
      · cases heq
        have hnone : files.filter (·.1 = key) = [] := by
          refine List.filter_eq_nil_iff.mpr fun other hother hk => hnew ?_
          exact List.mem_map.mpr ⟨other, hother, of_decide_eq_true hk⟩
        refine ⟨?_, ?_⟩
        · rw [List.filter_cons, if_pos (by simp), hnone]
        · rw [List.lookup_cons, beq_self_eq_true]
      · have hk : k ≠ key := fun h => hnew (List.mem_map.mpr ⟨_, hmem, h.symm⟩)
        obtain ⟨hfilter, hlookup⟩ := ih hnodup hmem
        refine ⟨?_, ?_⟩
        · rw [List.filter_cons, if_neg (by simpa using hk), hfilter]
        · rw [List.lookup_cons, beq_false_of_ne (Ne.symm hk), hlookup]

/-- **Files are placed** at the paths they go to, and kept under their keys. -/
theorem place_eq {files : List (String × Upload)} (hnodup : (files.map Prod.fst).Nodup)
    {entries : List (String × List String)} (hkeys : ∀ e ∈ entries, e.1 ∈ files.map Prod.fst)
    (hpaths : ∀ e ∈ entries, e.2 ≠ []) {v : Json} (uploads : Uploads)
    (h : v.Awaits (entries.flatMap fun e => e.2.map Path.parseDotted)) :
    ∃ uploads', place files (entries.map fun e => (e.1, e.2.map (variablesOpening ++ ·)))
        (v, uploads) = .ok (writeAll (entries.flatMap fun e => writesOf e.1 e.2) v, uploads') ∧
      ∀ key, uploads'.lookup key =
        if key ∈ entries.map Prod.fst then files.lookup key else uploads.lookup key := by
  induction entries generalizing v uploads with
  | nil => exact ⟨uploads, rfl, fun key => rfl⟩
  | cons entry entries ih =>
      obtain ⟨key, paths⟩ := entry
      obtain ⟨hkey, hothers⟩ := List.forall_mem_cons.mp hkeys
      obtain ⟨hpath, hlater⟩ := List.forall_mem_cons.mp hpaths
      obtain ⟨⟨found, file⟩, hmem, hfound⟩ := List.mem_map.mp hkey
      obtain rfl : found = key := hfound
      obtain ⟨hfile, hlookup⟩ := filter_of_mem hnodup hmem
      have hwrites : (writesOf found paths).map Prod.fst = paths.map Path.parseDotted := by
        rw [writesOf, List.map_map]
        rfl
      rw [List.flatMap_cons, ← hwrites] at h
      have hfirst : v.Awaits (paths.map Path.parseDotted) :=
        hwrites ▸ ⟨(List.pairwise_append.mp h.parts).1,
          fun p hp => h.room p (List.mem_append_left _ hp),
          fun p hp => h.there p (List.mem_append_left _ hp)⟩
      obtain ⟨uploads', hplace, huploads⟩ := ih hothers hlater (uploads.insert found file) h.writeAll
      refine ⟨uploads', ?_, fun other => ?_⟩
      · rw [List.map_cons, place, if_neg (by simpa using hpath)]
        simp only [hfile, placeAll_eq found hfirst, bind, Except.bind]
        rw [List.flatMap_cons, writeAll_append]
        exact hplace
      · rw [huploads, Uploads.lookup_insert, List.map_cons]
        by_cases hmem : other ∈ entries.map Prod.fst
        · rw [if_pos hmem, if_pos (List.mem_cons_of_mem _ hmem)]
        · rw [if_neg hmem]
          by_cases hother : other = found
          · rw [if_pos hother, if_pos (hother ▸ List.mem_cons_self), hother, hlookup]
          · rw [if_neg hother, if_neg fun h => (List.mem_cons.mp h).elim hother hmem]

end UploadForm

end GraphServe
