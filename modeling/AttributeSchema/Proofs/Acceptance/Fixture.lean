import AttributeSchema.Acceptance.Fixture
import AttributeSchema.Proofs.Files.Listing
/-!
# Paths of fixtures

The fixtures of a directory have different names, and so have their snapshots beside them. No snapshot
stands where a configuration is.
-/

namespace AttributeSchema.Fixture

open PathText (LeadsTo AreSiblings baseParts)

variable {files : FileTree} {directory : String} {fixtures : List Fixture} {l : Location}
  {name a b : String}

/-! ## Names of configurations -/

def HasConfigExtension (name : String) : Prop :=
  ∃ stem : List Char, stem ≠ [] ∧ name.toList = stem ++ ['.', 't', 'f']

theorem HasConfigExtension.isName (h : HasConfigExtension name) :
    PathText.isName name.toList = true := by
  obtain ⟨stem, hne, hname⟩ := h
  apply PathText.isName_of_length
  rw [hname, List.length_append]
  have hstem := List.length_pos_iff.2 hne
  change 2 < stem.length + 3
  omega

theorem isConfigName_iff (hslash : '/' ∉ name.toList) :
    isConfigName name = true ↔ HasConfigExtension name := by
  rw [isConfigName, beq_iff_eq]
  constructor
  · intro hextension
    obtain ⟨-, stem, hstem⟩ := PathText.splitExtension_of_extension? hslash hextension
    obtain ⟨hname, hne, -⟩ := PathText.eq_of_splitExtension hstem
    exact ⟨stem, hne, hname⟩
  · intro h
    have hends : PathText.EndsIn name.toList [] name.toList [] :=
      ⟨PathText.split_of_not_mem hslash, h.isName, by simp⟩
    obtain ⟨stem, hne, hname⟩ := h
    have hsplit : PathText.splitExtension name.toList = (stem, some ['t', 'f']) := by
      rw [hname]
      exact PathText.splitExtension_append hne (by decide)
    rw [PathText.extension?, PathText.fileName?_eq_some_iff.2 ⟨_, _, hends⟩, Option.bind_some, hsplit]
    rfl

def pathIn (directory name : String) : String :=
  String.ofList (PathText.join directory.toList name.toList)

theorem leadsTo_pathIn (hslash : '/' ∉ name.toList) (hconfig : HasConfigExtension name)
    (directory : String) :
    LeadsTo (pathIn directory name).toList (baseParts directory.toList) name.toList := by
  rw [pathIn, String.toList_ofList]
  exact ⟨PathText.split_join hslash directory.toList, hconfig.isName⟩

/-- The snapshot of a configuration has its stem, in the same directory. -/
theorem leadsTo_snapshotPathOf (hslash : '/' ∉ name.toList) {stem : List Char} (hne : stem ≠ [])
    (hname : name.toList = stem ++ ['.', 't', 'f']) (directory : String) :
    LeadsTo (snapshotPathOf (pathIn directory name)).toList (baseParts directory.toList)
      (stem ++ ['.', 'j', 's', 'o', 'n']) := by
  have hleads := leadsTo_pathIn hslash ⟨stem, hne, hname⟩ directory
  have hsplit : PathText.splitExtension name.toList = (stem, some ['t', 'f']) := by
    rw [hname]
    exact PathText.splitExtension_append hne (by decide)
  constructor
  · rw [snapshotPathOf, String.toList_ofList, hleads.endsIn.split_withExtension (by decide), hsplit]
    rfl
  · apply PathText.isName_of_length
    rw [List.length_append]
    change 2 < stem.length + 5
    omega

section

variable (ha : '/' ∉ a.toList ∧ HasConfigExtension a) (hb : '/' ∉ b.toList ∧ HasConfigExtension b)

include ha hb

theorem areSiblings_snapshots (hne : a ≠ b) (directory : String) :
    AreSiblings (snapshotPathOf (pathIn directory a)).toList
      (snapshotPathOf (pathIn directory b)).toList := by
  obtain ⟨hslash, stem, hstem, hname⟩ := ha
  obtain ⟨hslash', stem', hstem', hname'⟩ := hb
  refine ⟨_, _, _, leadsTo_snapshotPathOf hslash hstem hname directory,
    leadsTo_snapshotPathOf hslash' hstem' hname' directory, ?_⟩
  intro heq
  apply hne
  rw [← String.toList_inj, hname, hname', List.append_cancel_right heq]

/-- The names of a snapshot and of a configuration end in different characters. -/
theorem areSiblings_snapshot_config (directory : String) :
    AreSiblings (snapshotPathOf (pathIn directory a)).toList (pathIn directory b).toList := by
  have hleads' := leadsTo_pathIn hb.1 hb.2 directory
  obtain ⟨hslash, stem, hstem, hname⟩ := ha
  obtain ⟨-, stem', -, hname'⟩ := hb
  refine ⟨_, _, _, leadsTo_snapshotPathOf hslash hstem hname directory, hleads', ?_⟩
  intro heq
  have hlast := congrArg List.getLast? (heq.trans hname')
  simp at hlast

end

/-! ## Names in order -/

theorem inOrder_perm (names : List String) : (inOrder names).Perm names :=
  List.mergeSort_perm names _

theorem pairwise_inOrder (names : List String) : (inOrder names).Pairwise (· ≤ ·) := by
  have htrans (a b c : String) (hab : decide (a ≤ b) = true) (hbc : decide (b ≤ c) = true) :
      decide (a ≤ c) = true :=
    decide_eq_true (String.le_trans (of_decide_eq_true hab) (of_decide_eq_true hbc))
  have htotal (a b : String) : (decide (a ≤ b) || decide (b ≤ a)) = true := by
    simpa using String.le_total a b
  have hsorted := List.pairwise_mergeSort htrans htotal names
  exact hsorted.imp of_decide_eq_true

/-- The order of names does not depend on how they are listed. -/
theorem inOrder_eq_of_perm {names names' : List String} (h : names.Perm names') :
    inOrder names = inOrder names' :=
  List.Perm.eq_of_pairwise (fun _ _ _ _ => String.le_antisymm) (pairwise_inOrder names)
    (pairwise_inOrder names') ((inOrder_perm names).trans (h.trans (inOrder_perm names').symm))

theorem pairwise_lt_inOrder {names : List String} (h : names.Nodup) :
    (inOrder names).Pairwise (· < ·) := by
  have hnodup : (inOrder names).Nodup := (inOrder_perm names).nodup_iff.2 h
  refine ((pairwise_inOrder names).and hnodup).imp ?_
  rintro a b ⟨hle, hne⟩
  exact String.not_le.1 fun hge => hne (String.le_antisymm hle hge)

/-! ## Configurations of a directory -/

def configNames (files : FileTree) (l : Location) : List String :=
  inOrder ((files.namesIn l).filter isConfigName)

theorem paths_eq (hlocate : files.locate directory.toList = .ok l)
    (hdirectory : files.entry? l = some .directory) :
    paths files directory =
      if configNames files l = [] then .error (.noFixtures directory)
      else .ok ((configNames files l).map (pathIn directory)) := by
  rw [paths, FileTree.names_eq hlocate hdirectory]
  unfold configNames
  dsimp only
  cases inOrder ((files.namesIn l).filter isConfigName) <;> rfl

/-- The paths of fixtures are those of the configurations in the directory. -/
theorem paths_ok {found : List String} (h : paths files directory = .ok found) :
    ∃ l, files.locate directory.toList = .ok l ∧
      found = (configNames files l).map (pathIn directory) := by
  have hnames : ∃ names, files.names directory.toList = .ok names := by
    rw [paths] at h
    split at h
    · exact absurd h (by simp)
    · exact ⟨_, by assumption⟩
  obtain ⟨names, hnames⟩ := hnames
  obtain ⟨l, hlocate, hdirectory⟩ := FileTree.directory_of_names hnames
  rw [paths_eq hlocate hdirectory] at h
  split at h
  · exact absurd h (by simp)
  · exact ⟨l, hlocate, (Except.ok.inj h).symm⟩

section

variable {files : ProperTree}

theorem mem_configNames_iff : name ∈ configNames files l ↔
    (files.entry? (l ++ [name])).isSome = true ∧ HasConfigExtension name := by
  rw [configNames, (inOrder_perm _).mem_iff, List.mem_filter, ← FileTree.mem_namesIn_iff]
  apply and_congr_right
  intro hname
  exact isConfigName_iff (files.isProper.not_mem_of_mem_namesIn hname)

theorem of_mem_configNames (h : name ∈ configNames files l) :
    '/' ∉ name.toList ∧ HasConfigExtension name := by
  obtain ⟨hentry, hconfig⟩ := mem_configNames_iff.1 h
  exact ⟨files.isProper.not_mem_of_mem_namesIn (FileTree.mem_namesIn_iff.2 hentry), hconfig⟩

theorem pairwise_configNames (files : ProperTree) (l : Location) : (configNames files l).Pairwise (· < ·) :=
  pairwise_lt_inOrder ((files.isProper.nodup_namesIn l).filter _)

end

/-! ## Loaded fixtures -/

theorem load_ok {path : String} {f : Fixture} (h : load files path = .ok f) :
    f.configPath = path ∧ f.snapshotPath = snapshotPathOf path := by
  rw [load] at h
  split at h
  · exact absurd h (by simp)
  · obtain ⟨expected, -, h⟩ := bind_ok_iff.1 h
    obtain rfl := Except.ok.inj h
    exact ⟨rfl, rfl⟩

theorem paths_of_load {found : List String} (h : found.mapM (load files) = .ok fixtures) :
    fixtures.map Fixture.configPath = found ∧
      fixtures.map Fixture.snapshotPath = found.map snapshotPathOf := by
  have hconfig (path : String) (f : Fixture) (hload : load files path = .ok f) :
      f.configPath = id path := (load_ok hload).1
  have hsnapshot (path : String) (f : Fixture) (hload : load files path = .ok f) :
      f.snapshotPath = snapshotPathOf path := (load_ok hload).2
  have hconfigs := map_eq_map_of_mapM_ok hconfig h
  rw [List.map_id] at hconfigs
  exact ⟨hconfigs, map_eq_map_of_mapM_ok hsnapshot h⟩

theorem discover_ok (h : discover files directory = .ok fixtures) :
    ∃ l, files.locate directory.toList = .ok l ∧
      fixtures.map Fixture.configPath = (configNames files l).map (pathIn directory) ∧
      fixtures.map Fixture.snapshotPath =
        (configNames files l).map fun name => snapshotPathOf (pathIn directory name) := by
  obtain ⟨found, hfound, h⟩ := bind_ok_iff.1 h
  obtain ⟨l, hlocate, rfl⟩ := paths_ok hfound
  obtain ⟨hconfigs, hsnapshots⟩ := paths_of_load h
  rw [List.map_map] at hsnapshots
  exact ⟨l, hlocate, hconfigs, hsnapshots⟩

section

variable {files : ProperTree} (h : discover files directory = .ok fixtures)

include h

/-- The snapshots of discovered fixtures stand side by side. -/
theorem siblings_of_discover :
    fixtures.Pairwise fun f g => AreSiblings f.snapshotPath.toList g.snapshotPath.toList := by
  obtain ⟨l, -, -, hpaths⟩ := discover_ok h
  have hsiblings : (fixtures.map Fixture.snapshotPath).Pairwise
      fun p q => AreSiblings p.toList q.toList := by
    rw [hpaths, List.pairwise_map]
    refine (pairwise_configNames files l).imp_of_mem ?_
    intro a b ha hb hlt
    exact areSiblings_snapshots (of_mem_configNames ha) (of_mem_configNames hb)
      (String.ne_of_lt hlt) directory
  rw [List.pairwise_map] at hsiblings
  exact hsiblings

theorem snapshot_beside_config {f g : Fixture} (hf : f ∈ fixtures) (hg : g ∈ fixtures) :
    AreSiblings f.snapshotPath.toList g.configPath.toList := by
  obtain ⟨l, -, hconfigs, hsnapshots⟩ := discover_ok h
  obtain ⟨a, ha, hsnapshot⟩ := List.mem_map.1 (hsnapshots ▸ List.mem_map_of_mem hf)
  obtain ⟨b, hb, hconfig⟩ := List.mem_map.1 (hconfigs ▸ List.mem_map_of_mem hg)
  rw [← hsnapshot, ← hconfig]
  exact areSiblings_snapshot_config (of_mem_configNames ha)
    (of_mem_configNames hb) directory

end

end AttributeSchema.Fixture
