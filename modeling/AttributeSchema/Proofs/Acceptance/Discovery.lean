import AttributeSchema.Proofs.Acceptance.Fixture
import AttributeSchema.Proofs.Acceptance.Snapshot
/-!
# Which fixtures are discovered

A directory has a fixture for each of its names with the extension of configurations, in the order of these
names and in whatever order they are listed. The first one that cannot be loaded is the error.
-/

namespace AttributeSchema.Fixture

open PathText (AreSiblings)

variable {files files' : FileTree} {directory path : String} {l : Location}

/-! ## One fixture -/

/-- What loading a configuration leads to. The pattern of an expected error has to be one. -/
inductive Loads (files : FileTree) (path : String) : Except AcceptanceError Fixture → Prop
  | unreadable {e : FileError} (hread : files.read path.toList = .error e) :
      Loads files path (.error (.files path e))
  | noText {bytes : List UInt8} (hread : files.read path.toList = .ok bytes)
      (hno : ∀ text, bytes ≠ Text.Utf8.encode text) : Loads files path (.error (.files path .noText))
  | noPattern {text : List Char} {value : String}
      (hread : files.read path.toList = .ok (Text.Utf8.encode text))
      (hvalue : valueOf? "Error" (String.ofList text) = some value)
      (hpattern : Pattern.ofText? value = none) : Loads files path (.error (.pattern path))
  | plain {text : List Char} (hread : files.read path.toList = .ok (Text.Utf8.encode text))
      (hvalue : valueOf? "Error" (String.ofList text) = none) :
      Loads files path (.ok ⟨path, snapshotPathOf path, String.ofList text, none⟩)
  | expecting {text : List Char} {value : String} {pattern : Pattern}
      (hread : files.read path.toList = .ok (Text.Utf8.encode text))
      (hvalue : valueOf? "Error" (String.ofList text) = some value)
      (hpattern : Pattern.ofText? value = some pattern) :
      Loads files path (.ok ⟨path, snapshotPathOf path, String.ofList text, some pattern⟩)

theorem loads_load (files : FileTree) (path : String) : Loads files path (load files path) := by
  rw [load]
  cases htext : Snapshot.readText files path with
  | error e =>
      rcases Snapshot.readText_error_iff.1 htext with hread | ⟨rfl, bytes, hread, hno⟩
      · exact .unreadable hread
      · exact .noText hread hno
  | ok text =>
      have hread := Snapshot.readText_ok_iff.1 htext
      simp only [expected?]
      cases hvalue : valueOf? "Error" (String.ofList text) with
      | none => exact .plain hread hvalue
      | some value =>
          simp only
          cases hpattern : Pattern.ofText? value with
          | none => exact .noPattern hread hvalue hpattern
          | some pattern => exact .expecting hread hvalue hpattern

theorem load_of_loads {result : Except AcceptanceError Fixture} (h : Loads files path result) :
    load files path = result := by
  rw [load]
  cases h with
  | unreadable hread => rw [Snapshot.readText_error_iff.2 (.inl hread)]
  | noText hread hno => rw [Snapshot.readText_error_iff.2 (.inr ⟨rfl, _, hread, hno⟩)]
  | noPattern hread hvalue hpattern =>
      rw [Snapshot.readText_ok_iff.2 hread]
      simp only [expected?, hvalue, hpattern]
      rfl
  | plain hread hvalue =>
      rw [Snapshot.readText_ok_iff.2 hread]
      simp only [expected?, hvalue]
      rfl
  | expecting hread hvalue hpattern =>
      rw [Snapshot.readText_ok_iff.2 hread]
      simp only [expected?, hvalue, hpattern]
      rfl

theorem load_eq_iff {result : Except AcceptanceError Fixture} :
    load files path = result ↔ Loads files path result := by
  constructor
  · rintro rfl
    exact loads_load files path
  · exact load_of_loads

theorem load_congr (h : files'.read path.toList = files.read path.toList) :
    load files' path = load files path := by
  rw [load, load, Snapshot.readText, Snapshot.readText, h]

/-! ## All fixtures -/

inductive Discovers (files : FileTree) (directory : String) :
    List String → Except AcceptanceError (List Fixture) → Prop
  | none : Discovers files directory [] (.error (.noFixtures directory))
  | all {found : List String} {fixtures : List Fixture} (hne : found ≠ [])
      (hloads : List.Forall₂ (fun name f => Loads files (pathIn directory name) (.ok f)) found
        fixtures) : Discovers files directory found (.ok fixtures)
  | failed {before after : List String} {name : String} {e : AcceptanceError}
      (hbefore : ∀ b ∈ before, ∃ f, Loads files (pathIn directory b) (.ok f))
      (hname : Loads files (pathIn directory name) (.error e)) :
      Discovers files directory (before ++ name :: after) (.error e)

theorem mapM_load_ok_iff {found : List String} {fixtures : List Fixture} :
    found.mapM (load files ∘ pathIn directory) = .ok fixtures ↔
      List.Forall₂ (fun name f => Loads files (pathIn directory name) (.ok f)) found fixtures := by
  simp only [mapM_ok_iff, Function.comp_apply, load_eq_iff]

theorem mapM_load_error_iff {found : List String} {e : AcceptanceError} :
    found.mapM (load files ∘ pathIn directory) = .error e ↔
      ∃ before name after, found = before ++ name :: after ∧
        (∀ b ∈ before, ∃ f, Loads files (pathIn directory b) (.ok f)) ∧
        Loads files (pathIn directory name) (.error e) := by
  simp only [mapM_error_iff, Function.comp_apply, load_eq_iff]

theorem discovers_mapM_iff {found : List String} (hne : found ≠ [])
    {result : Except AcceptanceError (List Fixture)} :
    found.mapM (load files ∘ pathIn directory) = result ↔ Discovers files directory found result := by
  cases result with
  | ok fixtures =>
      rw [mapM_load_ok_iff]
      constructor
      · exact .all hne
      · rintro ⟨⟩
        assumption
  | error e =>
      rw [mapM_load_error_iff]
      constructor
      · rintro ⟨before, name, after, rfl, hbefore, hname⟩
        exact .failed hbefore hname
      · intro h
        cases h with
        | none => exact absurd rfl hne
        | failed hbefore hname => exact ⟨_, _, _, rfl, hbefore, hname⟩

theorem Discovers.eq_noFixtures {result : Except AcceptanceError (List Fixture)}
    (h : Discovers files directory [] result) : result = .error (.noFixtures directory) := by
  generalize hfound : ([] : List String) = found at h
  cases h with
  | none => rfl
  | all hne => exact absurd hfound.symm hne
  | failed => exact absurd hfound (by simp)

/-- No fixture fails to load because there is none. -/
theorem Discovers.noFixtures_iff {found : List String} {result : Except AcceptanceError (List Fixture)}
    (h : Discovers files directory found result) :
    result = .error (.noFixtures directory) ↔ found = [] := by
  constructor
  · rintro rfl
    cases h with
    | none => rfl
    | failed hbefore hname => exact nomatch hname
  · rintro rfl
    exact h.eq_noFixtures

theorem discover_eq_iff (hlocate : files.locate directory.toList = .ok l)
    (hdirectory : files.entry? l = some .directory)
    {result : Except AcceptanceError (List Fixture)} :
    discover files directory = result ↔ Discovers files directory (configNames files l) result := by
  rw [discover, paths_eq hlocate hdirectory]
  split
  · rename_i hnone
    rw [hnone]
    constructor
    · rintro rfl
      exact .none
    · intro h
      exact h.eq_noFixtures.symm
  · rename_i hne
    rw [← discovers_mapM_iff hne, ← List.mapM_map]
    rfl

theorem discover_reordered {files : ProperTree} (h : files.IsReordered files')
    (directory : String) : discover files' directory = discover files directory := by
  have hpaths : paths files' directory = paths files directory := by
    rw [paths, paths]
    rcases h.names_cases directory.toList with ⟨e, he, he'⟩ | ⟨names, names', hn, hn', hperm⟩
    · rw [he, he']
    · rw [hn, hn']
      simp only [inOrder_eq_of_perm (hperm.filter isConfigName)]
  have hload : load files' = load files := by
    funext path
    exact load_congr (h.read_eq path.toList)
  rw [discover, discover, hpaths, hload]

/-- Sorted names are determined by which ones they are. -/
theorem eq_of_pairwise_lt {names names' : List String} (h : names.Pairwise (· < ·))
    (h' : names'.Pairwise (· < ·)) (hmem : ∀ name, name ∈ names ↔ name ∈ names') : names = names' := by
  have hnodup : names.Nodup := h.imp String.ne_of_lt
  have hnodup' : names'.Nodup := h'.imp String.ne_of_lt
  refine List.Perm.eq_of_pairwise ?_ h h' ((List.perm_ext_iff_of_nodup hnodup hnodup').2 hmem)
  intro a b _ _ hab hba
  exact absurd (String.lt_trans hab hba) (String.lt_irrefl a)

/-- The configurations of a directory are known from its names, in whatever order these are. -/
theorem eq_of_mem_config_iff {files : ProperTree} {found names : List String}
    (hfound : found.Pairwise (· < ·))
    (hmem : ∀ name, name ∈ found ↔
      (files.entry? (l ++ [name])).isSome = true ∧ HasConfigExtension name)
    (hnames : names.Pairwise (· < ·)) (hperm : names.Perm ((files.namesIn l).filter isConfigName)) :
    found = names := by
  apply eq_of_pairwise_lt hfound hnames
  intro name
  rw [hmem, ← mem_configNames_iff, hperm.mem_iff]
  exact (inOrder_perm _).mem_iff

/-- The fixtures of a directory are those of its names with the extension of configurations, in order, and
their snapshots are told apart from each other and from the configurations. The order in which the
directory is listed does not matter. -/
theorem discover_exact (files : ProperTree) (directory : String) :
    (∀ files', files.IsReordered files' →
      discover files' directory = discover files directory) ∧
    ∀ l, files.locate directory.toList = .ok l → files.entry? l = some .directory →
      ∃ found : List String, found.Pairwise (· < ·) ∧
        (∀ name, name ∈ found ↔
          (files.entry? (l ++ [name])).isSome = true ∧ HasConfigExtension name) ∧
        (discover files directory = .error (.noFixtures directory) ↔ found = []) ∧
        (∀ result, discover files directory = result ↔ Discovers files directory found result) ∧
        ∀ fixtures, discover files directory = .ok fixtures →
          fixtures.map configPath = found.map (pathIn directory) ∧
          (fixtures.Pairwise fun f g => f.snapshotPath ≠ g.snapshotPath ∧
            AreSiblings f.snapshotPath.toList g.snapshotPath.toList) ∧
          ∀ f ∈ fixtures, ∀ g ∈ fixtures, f.snapshotPath ≠ g.configPath ∧
            AreSiblings f.snapshotPath.toList g.configPath.toList := by
  refine ⟨fun files' h => discover_reordered h directory, ?_⟩
  intro l hlocate hdirectory
  have hiff := @discover_eq_iff files directory l hlocate hdirectory
  refine ⟨configNames files l, pairwise_configNames files l,
    fun name => mem_configNames_iff, (hiff.1 rfl).noFixtures_iff, fun result => hiff, ?_⟩
  intro fixtures hfixtures
  refine ⟨?_, ?_, ?_⟩
  · obtain ⟨l', hlocate', hconfigs, -⟩ := discover_ok hfixtures
    obtain rfl := Except.ok.inj (hlocate.symm.trans hlocate')
    exact hconfigs
  · refine (siblings_of_discover hfixtures).imp ?_
    intro f g hsiblings
    exact ⟨mt (congrArg String.toList) hsiblings.ne, hsiblings⟩
  · intro f hf g hg
    have hsiblings := snapshot_beside_config hfixtures hf hg
    exact ⟨mt (congrArg String.toList) hsiblings.ne, hsiblings⟩

def tangledFiles (more : List (Location × Entry)) : FileTree :=
  ⟨more ++ [(["d", "b.tf"], .file (Text.Utf8.encode "two".toList)),
    (["d", ".tf"], .file []), (["d"], .directory),
    (["d", "a.b.tf"], .file (Text.Utf8.encode "one".toList)),
    (["d", "b.json"], .file []), (["a.tf"], .file [])], []⟩

def brokenEntries : List (Location × Entry) :=
  [(["d", "c.tf"], .file [255]), (["d", "a.tf"], .directory)]

def tangledTree : ProperTree := ⟨tangledFiles [], by constructor <;> decide +kernel⟩

def brokenTree : ProperTree := ⟨tangledFiles brokenEntries, by constructor <;> decide +kernel⟩

theorem discover_exact_tangled :
    discover tangledTree "d" =
      .ok [⟨"d/a.b.tf", "d/a.b.json", "one", none⟩, ⟨"d/b.tf", "d/b.json", "two", none⟩] ∧
    discover brokenTree "d" = .error (.files "d/a.tf" .isDirectory) ∧
    discover (tangledFiles brokenEntries.reverse) "d" = discover brokenTree "d" := by
  refine ⟨?_, ?_, ?_⟩
  · obtain ⟨found, hsorted, hmem, -, hresult, -⟩ :=
      (discover_exact tangledTree "d").2 ["d"] (by decide +kernel) (by decide +kernel)
    obtain rfl : found = ["a.b.tf", "b.tf"] :=
      eq_of_mem_config_iff hsorted hmem (by decide +kernel) (by decide +kernel)
    refine (hresult _).2 (.all (by simp) (.cons ?_ (.cons ?_ .nil)))
    · exact load_eq_iff.1 (by decide +kernel)
    · exact load_eq_iff.1 (by decide +kernel)
  · obtain ⟨found, hsorted, hmem, -, hresult, -⟩ :=
      (discover_exact brokenTree "d").2 ["d"] (by decide +kernel) (by decide +kernel)
    obtain rfl : found = ["a.b.tf"] ++ "a.tf" :: ["b.tf", "c.tf"] :=
      eq_of_mem_config_iff hsorted hmem (by decide +kernel) (by decide +kernel)
    have hbefore : load brokenTree "d/a.b.tf" =
        .ok ⟨"d/a.b.tf", "d/a.b.json", "one", none⟩ := by decide +kernel
    refine (hresult _).2 (.failed ?_ (load_eq_iff.1 (by decide +kernel)))
    intro b hb
    obtain rfl := List.mem_singleton.1 hb
    exact ⟨_, load_eq_iff.1 hbefore⟩
  · refine (discover_exact brokenTree "d").1 _ ⟨?_, rfl⟩
    exact (List.reverse_perm brokenEntries).symm.append_right _

end AttributeSchema.Fixture
