import GraphServe.Client.Form
import Mathlib.Data.List.Induction
import Mathlib.Data.List.Nodup
import Mathlib.Data.List.Perm.Basic

/-!
# Forms that clients send — files and their paths

The files of a request are grouped, each with the paths it goes to.  The groups gather the files
without loss (`ClientForm.Gathers`): each file once, in the order in which the files first come, and
with it the paths that it comes with, in their order and as often as they come.  This determines the
groups (`ClientForm.gathers_iff`).  A file that has come before gets one more path
(`ClientForm.addPath_of_mem`), and one that has not is a new last group
(`ClientForm.addPath_of_not_mem`).

If files of one handle are one file, the groups are the request's files again
(`ClientForm.grouped_group`): each file is in exactly one group, and goes to its paths and to no
others.
-/

namespace GraphServe.ClientForm

/-- Where a file first comes. -/
def firstAt (files : List (String × ClientFile)) (file : ClientFile) : Nat :=
  files.findIdx (·.2.handle = file.handle)

/-- The paths that a file comes with, in order. -/
def pathsFor (files : List (String × ClientFile)) (file : ClientFile) : List String :=
  (files.filter (·.2.handle = file.handle)).map Prod.fst

/-- Groups gather files: each once, in the order in which they first come, with the paths that they
come with. -/
structure Gathers (files : List (String × ClientFile))
    (groups : List (ClientFile × List String)) : Prop where
  /-- The file of a group is the first of its handle. -/
  first : ∀ group ∈ groups,
    (files.map Prod.snd).find? (·.handle = group.1.handle) = some group.1
  every : ∀ f ∈ files, f.2.handle ∈ groups.map (·.1.handle)
  order : groups.Pairwise fun group later => firstAt files group.1 < firstAt files later.1
  paths : ∀ group ∈ groups, group.2 = pathsFor files group.1

/-- Files of one handle are one. -/
def HandlesTell (files : List (String × ClientFile)) : Prop :=
  ∀ a ∈ files, ∀ b ∈ files, a.2.handle = b.2.handle → a.2 = b.2

/-- The files of groups with their paths, one by one. -/
def spread (groups : List (ClientFile × List String)) : List (String × ClientFile) :=
  groups.flatMap fun (file, paths) => paths.map (·, file)

/-- Groups hold files: each file in one group, with all the paths it comes with. -/
structure Grouped (files : List (String × ClientFile)) (groups : List (ClientFile × List String)) :
    Prop where
  spread   : (spread groups).Perm files
  nodup    : (groups.map (·.1.handle)).Nodup
  nonempty : ∀ group ∈ groups, group.2 ≠ []

variable {files : List (String × ClientFile)} {groups : List (ClientFile × List String)}
  {path : String} {file : ClientFile}

/-! ### Places and paths -/

theorem firstAt_lt_iff :
    firstAt files file < files.length ↔ ∃ f ∈ files, f.2.handle = file.handle := by
  simp [firstAt, List.findIdx_lt_length]

/-- A file that has come keeps its place. -/
theorem firstAt_append (h : ∃ f ∈ files, f.2.handle = file.handle)
    (more : List (String × ClientFile)) : firstAt (files ++ more) file = firstAt files file := by
  have hlt := firstAt_lt_iff.mpr h
  rw [firstAt] at hlt ⊢
  rw [List.findIdx_append, if_pos hlt, firstAt]

/-- A file that has not come gets the place after all others. -/
theorem firstAt_concat (h : ¬ ∃ f ∈ files, f.2.handle = file.handle) (path : String) :
    firstAt (files ++ [(path, file)]) file = files.length := by
  have hge := firstAt_lt_iff.not.mpr h
  rw [firstAt] at hge ⊢
  rw [List.findIdx_append, if_neg hge]
  simp

theorem pathsFor_concat (files : List (String × ClientFile)) (path : String)
    (file known : ClientFile) :
    pathsFor (files ++ [(path, file)]) known =
      if known.handle = file.handle then pathsFor files known ++ [path]
      else pathsFor files known := by
  rw [pathsFor, List.filter_append, List.map_append, ← pathsFor]
  by_cases h : known.handle = file.handle
  · simp [h]
  · simp [h, Ne.symm h]

theorem pathsFor_eq_nil_iff :
    pathsFor files file = [] ↔ ¬ ∃ f ∈ files, f.2.handle = file.handle := by
  simp [pathsFor]

/-! ### One more path -/

/-- A group with one more path, if it is that of a file. -/
def withPath (path : String) (file : ClientFile) (group : ClientFile × List String) :
    ClientFile × List String :=
  (group.1, if group.1.handle = file.handle then group.2 ++ [path] else group.2)

theorem addPath_of_not_mem (h : file.handle ∉ groups.map (·.1.handle)) :
    addPath path file groups = groups ++ [(file, [path])] := by
  induction groups with
  | nil => rfl
  | cons group groups ih =>
      obtain ⟨known, paths⟩ := group
      obtain ⟨hknown, hgroups⟩ := not_or.mp (List.mem_cons.not.mp h)
      rw [addPath, if_neg (Ne.symm hknown), ih hgroups, List.cons_append]

theorem addPath_of_mem (hnodup : (groups.map (·.1.handle)).Nodup)
    (h : file.handle ∈ groups.map (·.1.handle)) :
    addPath path file groups = groups.map (withPath path file) := by
  induction groups with
  | nil => exact absurd h List.not_mem_nil
  | cons group groups ih =>
      obtain ⟨known, paths⟩ := group
      obtain ⟨hnew, hnodup⟩ := List.nodup_cons.mp hnodup
      rw [addPath, List.map_cons, withPath]
      by_cases hknown : known.handle = file.handle
      · -- the other groups are of other files
        have hothers : groups.map (withPath path file) = groups := by
          refine (List.map_congr_left fun group hgroup => ?_).trans (List.map_id groups)
          have hne : group.1.handle ≠ file.handle := fun heq =>
            hnew (List.mem_map.mpr ⟨group, hgroup, heq.trans hknown.symm⟩)
          rw [withPath, if_neg hne, id]
        rw [if_pos hknown, if_pos hknown, hothers]
      · have hmem := (List.mem_cons.mp h).resolve_left (Ne.symm hknown)
        rw [if_neg hknown, if_neg hknown, ih hnodup hmem]

theorem group_concat (files : List (String × ClientFile)) (path : String) (file : ClientFile) :
    group (files ++ [(path, file)]) = addPath path file (group files) := List.foldl_append

/-! ### Groups gather files -/

namespace Gathers

/-- A file of a group is one of those that are gathered. -/
theorem exists_mem (h : Gathers files groups) {group : ClientFile × List String}
    (hgroup : group ∈ groups) : ∃ f ∈ files, f.2 = group.1 :=
  List.mem_map.mp (List.mem_of_find?_eq_some (h.first group hgroup))

theorem comes (h : Gathers files groups) {group : ClientFile × List String}
    (hgroup : group ∈ groups) : ∃ f ∈ files, f.2.handle = group.1.handle := by
  obtain ⟨f, hf, heq⟩ := h.exists_mem hgroup
  exact ⟨f, hf, congrArg ClientFile.handle heq⟩

theorem nodup (h : Gathers files groups) : (groups.map (·.1.handle)).Nodup := by
  refine List.pairwise_map.mpr (h.order.imp fun {group later} hlt heq => ?_)
  rw [firstAt, firstAt, heq] at hlt
  exact Nat.lt_irrefl _ hlt

theorem nonempty (h : Gathers files groups) : ∀ group ∈ groups, group.2 ≠ [] := by
  intro group hgroup hnil
  rw [h.paths group hgroup] at hnil
  exact pathsFor_eq_nil_iff.mp hnil (h.comes hgroup)

/-- A file that has come gets the path behind its others. -/
theorem addPath_known (h : Gathers files groups) (path : String)
    (hmem : file.handle ∈ groups.map (·.1.handle)) :
    Gathers (files ++ [(path, file)]) (addPath path file groups) := by
  have hhandles : (groups.map (withPath path file)).map (·.1.handle)
      = groups.map (·.1.handle) := by
    rw [List.map_map]
    rfl
  rw [addPath_of_mem h.nodup hmem]
  constructor
  case first =>
    refine List.forall_mem_map.mpr fun group hgroup => ?_
    rw [List.map_append, List.find?_append]
    exact Option.or_eq_some_iff.mpr (.inl (h.first group hgroup))
  case every =>
    rw [hhandles]
    exact List.forall_mem_append.mpr ⟨h.every, List.forall_mem_singleton.mpr hmem⟩
  case order =>
    refine List.pairwise_map.mpr (h.order.imp_of_mem fun hgroup hlater hlt => ?_)
    rwa [withPath, withPath, firstAt_append (h.comes hgroup), firstAt_append (h.comes hlater)]
  case paths =>
    refine List.forall_mem_map.mpr fun group hgroup => ?_
    rw [withPath, pathsFor_concat, h.paths group hgroup]

/-- A file that has not come is the last, with this path. -/
theorem addPath_new (h : Gathers files groups) (path : String)
    (hmem : file.handle ∉ groups.map (·.1.handle)) :
    Gathers (files ++ [(path, file)]) (addPath path file groups) := by
  have hnew : ¬ ∃ f ∈ files, f.2.handle = file.handle := by
    rintro ⟨f, hf, heq⟩
    exact hmem (heq ▸ h.every f hf)
  rw [addPath_of_not_mem hmem]
  constructor
  case first =>
    refine List.forall_mem_append.mpr ⟨fun group hgroup => ?_, List.forall_mem_singleton.mpr ?_⟩
    · rw [List.map_append, List.find?_append, h.first group hgroup, Option.some_or]
    · have hnone : (files.map Prod.snd).find? (·.handle = file.handle) = none := by
        simpa using hnew
      rw [List.map_append, List.find?_append, hnone, Option.none_or]
      simp
  case every =>
    rw [List.map_append]
    refine List.forall_mem_append.mpr ⟨fun f hf => List.mem_append_left _ (h.every f hf), ?_⟩
    exact List.forall_mem_singleton.mpr (List.mem_append_right _ List.mem_cons_self)
  case order =>
    refine List.pairwise_append.mpr ⟨?_, List.pairwise_singleton _ _, fun group hgroup => ?_⟩
    · refine h.order.imp_of_mem fun hgroup hlater hlt => ?_
      rwa [firstAt_append (h.comes hgroup), firstAt_append (h.comes hlater)]
    · refine List.forall_mem_singleton.mpr ?_
      rw [firstAt_concat hnew, firstAt_append (h.comes hgroup)]
      exact firstAt_lt_iff.mpr (h.comes hgroup)
  case paths =>
    refine List.forall_mem_append.mpr ⟨fun group hgroup => ?_, List.forall_mem_singleton.mpr ?_⟩
    · have hne : group.1.handle ≠ file.handle := fun heq =>
        hmem (heq ▸ List.mem_map_of_mem hgroup)
      rw [pathsFor_concat, if_neg hne, h.paths group hgroup]
    · rw [pathsFor_concat, if_pos rfl, pathsFor_eq_nil_iff.mpr hnew, List.nil_append]

/-- **What files are gathered to is determined**, by the order and by what each group has to be. -/
theorem unique {others : List (ClientFile × List String)} (h : Gathers files groups)
    (h' : Gathers files others) : groups = others := by
  have hsub {a b : List (ClientFile × List String)} (ha : Gathers files a) (hb : Gathers files b) :
      ∀ group ∈ a, group ∈ b := by
    intro group hgroup
    obtain ⟨f, hf, hhandle⟩ := ha.comes hgroup
    obtain ⟨other, hother, heq⟩ := List.mem_map.mp (hb.every f hf)
    have hfile : other.1 = group.1 := by
      have hfound := hb.first other hother
      rw [heq.trans hhandle, ha.first group hgroup] at hfound
      exact (Option.some_inj.mp hfound).symm
    have hpaths : other.2 = group.2 := by
      rw [hb.paths other hother, ha.paths group hgroup, hfile]
    exact Prod.ext hfile hpaths ▸ hother
  have hperm : groups.Perm others :=
    (List.perm_ext_iff_of_nodup (.of_map _ h.nodup) (.of_map _ h'.nodup)).mpr fun group =>
      ⟨hsub h h' group, hsub h' h group⟩
  exact hperm.eq_of_pairwise (fun _ _ _ _ hlt hgt => absurd hlt (Nat.lt_asymm hgt)) h.order h'.order

end Gathers

/-- **The groups of a request gather its files.** -/
theorem gathers_group (files : List (String × ClientFile)) : Gathers files (group files) := by
  induction files using List.reverseRecOn with
  | nil => exact ⟨nofun, nofun, .nil, nofun⟩
  | append_singleton files f ih =>
      obtain ⟨path, file⟩ := f
      rw [group_concat]
      by_cases hmem : file.handle ∈ (group files).map (·.1.handle)
      · exact ih.addPath_known path hmem
      · exact ih.addPath_new path hmem

/-- No other groups gather the files of a request. -/
theorem gathers_iff : Gathers files groups ↔ groups = group files := by
  constructor
  · intro h
    exact h.unique (gathers_group files)
  · rintro rfl
    exact gathers_group files

/-- A file comes between the paths of another, one of which comes twice. -/
example :
    group [("x", ⟨"a", "a.txt", []⟩), ("y", ⟨"b", "b.txt", []⟩), ("x", ⟨"a", "a.txt", []⟩),
        ("z.0", ⟨"a", "a.txt", []⟩)] =
      [(⟨"a", "a.txt", []⟩, ["x", "x", "z.0"]), (⟨"b", "b.txt", []⟩, ["y"])] := by
  decide

/-! ### The files of groups -/

theorem spread_cons (file : ClientFile) (paths : List String)
    (groups : List (ClientFile × List String)) :
    spread ((file, paths) :: groups) = paths.map (·, file) ++ spread groups := List.flatMap_cons

theorem mem_spread {a : String × ClientFile} :
    a ∈ spread groups ↔ ∃ group ∈ groups, a.2 = group.1 ∧ a.1 ∈ group.2 := by
  simp only [spread, List.mem_flatMap, List.mem_map]
  constructor
  · rintro ⟨group, hgroup, p, hp, rfl⟩
    exact ⟨group, hgroup, rfl, hp⟩
  · rintro ⟨group, hgroup, hfile, hp⟩
    exact ⟨group, hgroup, a.1, hp, Prod.ext rfl hfile.symm⟩

theorem spread_addPath (path : String)
    (htell : ∀ group ∈ groups, group.1.handle = file.handle → group.1 = file) :
    (spread (addPath path file groups)).Perm (spread groups ++ [(path, file)]) := by
  induction groups with
  | nil => exact .refl _
  | cons group groups ih =>
      obtain ⟨known, paths⟩ := group
      obtain ⟨hfirst, htell⟩ := List.forall_mem_cons.mp htell
      rw [addPath]
      split
      · rename_i hknown
        obtain rfl : known = file := hfirst hknown
        rw [spread_cons, spread_cons, List.map_append, List.append_assoc, List.append_assoc]
        exact List.perm_append_comm.append_left _
      · rw [spread_cons, spread_cons, List.append_assoc]
        exact (ih htell).append_left _

theorem HandlesTell.of_append {more : List (String × ClientFile)}
    (h : HandlesTell (files ++ more)) : HandlesTell files := by
  intro a ha b hb
  exact h a (List.mem_append_left more ha) b (List.mem_append_left more hb)

theorem perm_spread_group (htell : HandlesTell files) : (spread (group files)).Perm files := by
  induction files using List.reverseRecOn with
  | nil => exact .refl _
  | append_singleton files f ih =>
      obtain ⟨path, file⟩ := f
      rw [group_concat]
      refine (spread_addPath path fun group hgroup hhandle => ?_).trans
        ((ih htell.of_append).append_right _)
      obtain ⟨f, hf, heq⟩ := (gathers_group files).exists_mem hgroup
      rw [← heq] at hhandle ⊢
      exact htell f (List.mem_append_left _ hf) (path, file)
        (List.mem_append_right _ List.mem_cons_self) hhandle

/-- **Each file is grouped once**, with all its paths. -/
theorem grouped_group (htell : HandlesTell files) : Grouped files (group files) where
  spread := perm_spread_group htell
  nodup := (gathers_group files).nodup
  nonempty := (gathers_group files).nonempty

/-- A file of a group is one of those that were grouped. -/
theorem Grouped.exists_mem (h : Grouped files groups) {group : ClientFile × List String}
    (hgroup : group ∈ groups) : ∃ path, (path, group.1) ∈ files := by
  obtain ⟨path, hpath⟩ := List.exists_mem_of_ne_nil _ (h.nonempty group hgroup)
  exact ⟨path, h.spread.mem_iff.mp (mem_spread.mpr ⟨group, hgroup, rfl, hpath⟩)⟩

/-- One more path is among those of the groups. -/
theorem perm_paths_addPath (path : String) (file : ClientFile)
    (groups : List (ClientFile × List String)) :
    ((addPath path file groups).flatMap (·.2)).Perm (groups.flatMap (·.2) ++ [path]) := by
  induction groups with
  | nil => exact .refl _
  | cons group groups ih =>
      obtain ⟨known, paths⟩ := group
      rw [addPath]
      split
      · rw [List.flatMap_cons, List.flatMap_cons, List.append_assoc, List.append_assoc]
        exact List.perm_append_comm.append_left paths
      · rw [List.flatMap_cons, List.flatMap_cons, List.append_assoc]
        exact ih.append_left paths

/-- The paths of the groups are those that the files come with, whichever files are one. -/
theorem perm_paths_group (files : List (String × ClientFile)) :
    ((group files).flatMap (·.2)).Perm (files.map Prod.fst) := by
  induction files using List.reverseRecOn with
  | nil => exact .refl _
  | append_singleton files f ih =>
      obtain ⟨path, file⟩ := f
      rw [group_concat, List.map_append]
      exact (perm_paths_addPath path file _).trans (ih.append_right _)

end GraphServe.ClientForm
