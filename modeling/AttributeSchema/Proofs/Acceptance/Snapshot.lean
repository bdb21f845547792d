import AttributeSchema.Acceptance.Check
import AttributeSchema.Proofs.Files.FileTree
import AttributeSchema.Proofs.Json.Maps
import AttributeSchema.Proofs.Text.Utf8
/-!
# What snapshots keep

A saved snapshot is loaded again as it was. The checks of a snapshot ask for its entries, and those of a
difference hold on the state it was taken from, but for attributes that became empty.
-/

namespace AttributeSchema.Snapshot

/-! ## On disk -/

theorem readsBack_text (step depth : Nat) (value : String) :
    Json.ReadsBack Json.text .string step depth value := by
  intro rest
  exact Json.text_quote value rest

/-- Reading looks past a blank in front of an object. -/
theorem mapOf_space {α : Type} (read : List Char → Json.Reading α) (s : List Char) :
    Json.mapOf read (' ' :: s) = Json.mapOf read s := rfl

def attributesJson (attributes : SortedMap String) : Json.Value :=
  .object (attributes.entries.map fun e => (e.1, .string e.2))

theorem readsBack_attributes (step depth : Nat) (attributes : SortedMap String) :
    Json.ReadsBack (Json.mapOf Json.text) attributesJson step depth attributes := by
  intro rest
  rw [mapOf_space, attributesJson,
    Json.mapOf_pretty (fun e _ => readsBack_text step (depth + 1) e.2) rest,
    SortedMap.ofList_entries]

theorem ofText_text (s : Snapshot) : ofText s.text.toList = .ok s := by
  have hentries : ∀ e ∈ s.resources.entries,
      Json.ReadsBack (Json.mapOf Json.text) attributesJson 4 1 e.2 :=
    fun e _ => readsBack_attributes 4 1 e.2
  have hread : Json.mapOf (Json.mapOf Json.text) (Json.prettyChars 4 0 s.toJson) =
      .ok (s.resources, []) := by
    have hpretty := Json.mapOf_pretty hentries []
    rw [List.append_nil, SortedMap.ofList_entries] at hpretty
    exact hpretty
  rw [ofText, text, Json.pretty, String.toList_ofList, Json.whole_of_read hread]
  rfl

variable {files files' : FileTree} {path : String} {s : Snapshot}

theorem save_ok (h : save files path s = .ok files') :
    files.write path.toList (Text.Utf8.encode s.text.toList) = .ok files' := by
  rw [save] at h
  split at h
  · rename_i hwrite
    rw [hwrite, Except.ok.inj h]
  · exact absurd h (by simp)

theorem read_save (h : save files path s = .ok files') :
    files'.read path.toList = .ok (Text.Utf8.encode s.text.toList) :=
  FileTree.read_write (save_ok h)

theorem readText_ok_iff {text : List Char} :
    readText files path = .ok text ↔ files.read path.toList = .ok (Text.Utf8.encode text) := by
  rw [readText, bind_ok_iff]
  constructor
  · rintro ⟨bytes, hread, htext⟩
    split at htext
    · rename_i text' hdecode
      obtain rfl := Except.ok.inj htext
      rw [hread, Text.Utf8.decode?_eq_some_iff.1 hdecode]
    · exact absurd htext (by simp)
  · intro hread
    exact ⟨_, hread, by simp only [Text.Utf8.decode?_encode]⟩

/-- A text is not read if the file is not, or if its bytes are those of no text. -/
theorem readText_error_iff {e : FileError} :
    readText files path = .error e ↔ files.read path.toList = .error e ∨
      e = .noText ∧ ∃ bytes, files.read path.toList = .ok bytes ∧
        ∀ text, bytes ≠ Text.Utf8.encode text := by
  rw [readText, bind_error_iff]
  apply or_congr_right
  constructor
  · rintro ⟨bytes, hread, htext⟩
    split at htext
    · exact absurd htext (by simp)
    · rename_i hdecode
      refine ⟨(Except.error.inj htext).symm, bytes, hread, ?_⟩
      rintro text rfl
      rw [Text.Utf8.decode?_encode] at hdecode
      exact absurd hdecode (by simp)
  · rintro ⟨rfl, bytes, hread, hno⟩
    refine ⟨bytes, hread, ?_⟩
    cases hdecode : Text.Utf8.decode? bytes with
    | none => rfl
    | some text => exact absurd (Text.Utf8.decode?_eq_some_iff.1 hdecode) (hno text)

/-- Where the text of a snapshot stands, that snapshot is loaded. -/
theorem load_of_read (h : files.read path.toList = .ok (Text.Utf8.encode s.text.toList)) :
    load files path = .ok s := by
  rw [load, readText_ok_iff.2 h]
  simp only [ofText_text]

theorem load_save (h : save files path s = .ok files') : load files' path = .ok s :=
  load_of_read (read_save h)

theorem load_congr (h : files'.read path.toList = files.read path.toList) :
    load files' path = load files path := by
  rw [load, load, readText, readText, h]

/-- A saved snapshot is loaded as it was, and the loaded one is saved as the same bytes, at its path or
anywhere else. -/
theorem save_load_save (h : save files path s = .ok files') :
    ∃ loaded, load files' path = .ok loaded ∧ loaded = s ∧ save files' path loaded = .ok files' ∧
      ∀ later later' other, save later other loaded = .ok later' →
        ∃ bytes, files'.read path.toList = .ok bytes ∧ later'.read other.toList = .ok bytes := by
  refine ⟨s, load_save h, rfl, ?_, ?_⟩
  · rw [save, FileTree.write_write (save_ok h)]
  · intro later later' other hlater
    exact ⟨Text.Utf8.encode s.text.toList, read_save h, read_save hlater⟩

/-- A resource without attributes, and one whose name and values need escapes. -/
def escapedSnapshot : Snapshot where
  resources := .ofList
    [("a \"token\"", .ofList [("", ""), ("back\\slash", "line\nbreak\ttab\x01"), ("ü", "𝄞")]),
      ("none", .empty)]

theorem save_load_save_escaped :
    ∃ files', save ⟨[(["s"], .directory)], ["s"]⟩ "./é.json" escapedSnapshot = .ok files' ∧
      ∃ loaded, load files' "./é.json" = .ok loaded ∧ loaded = escapedSnapshot ∧
        save files' "./é.json" loaded = .ok files' ∧
        ∀ later later' other, save later other loaded = .ok later' →
          ∃ bytes, files'.read "./é.json".toList = .ok bytes ∧ later'.read other.toList = .ok bytes := by
  have hok : (save ⟨[(["s"], .directory)], ["s"]⟩ "./é.json" escapedSnapshot).isOk = true := by
    decide +kernel
  obtain ⟨files', hfiles⟩ := exists_of_isOk hok
  exact ⟨files', hfiles, save_load_save hfiles⟩

/-! ## Entries -/

theorem get?_observe (state : State) (keep : String → String → String → String)
    (resource name : String) :
    (observe state keep).get? resource name =
      if name = countAttribute then none
      else (state.value? resource name).map (keep resource name) := by
  rw [get?, observe, SortedMap.get?_map, State.value?]
  cases state.resources.get? resource with
  | none => simp
  | some attributes =>
      simp only [Option.map_some, Option.bind_some]
      rw [SortedMap.get?_map, SortedMap.get?_filter (fun name => name != countAttribute)]
      by_cases hname : name = countAttribute
      · simp [hname]
      · simp [hname]

theorem mem_entries_iff {resource name value : String} :
    (resource, name, value) ∈ s.entries ↔ s.get? resource name = some value := by
  simp only [entries, List.mem_flatMap, List.mem_map, Prod.exists, Prod.mk.injEq, get?,
    Option.bind_eq_some_iff]
  constructor
  · rintro ⟨r, attributes, hresource, n, v, hname, rfl, rfl, rfl⟩
    exact ⟨attributes, SortedMap.mem_entries_iff.1 hresource, SortedMap.mem_entries_iff.1 hname⟩
  · rintro ⟨attributes, hresource, hname⟩
    exact ⟨resource, attributes, SortedMap.mem_entries_iff.2 hresource, name, value,
      SortedMap.mem_entries_iff.2 hname, rfl, rfl, rfl⟩

end AttributeSchema.Snapshot

namespace AttributeSchema

/-! ## Checks -/

namespace Check

theorem verifyAll_ok_iff {checks : List Check} {state : State} :
    verifyAll checks state = .ok () ↔ ∀ c ∈ checks, c.failure? state = none := by
  rw [verifyAll, ← List.filterMap_eq_nil_iff]
  cases checks.filterMap (failure? state) with
  | nil => simp
  | cons failure more => simp

theorem failure?_present {state : State} {resource name : String} :
    (present resource name).failure? state = none ↔
      ∃ value, state.value? resource name = some value ∧ value ≠ "" := by
  rw [failure?]
  cases state.value? resource name with
  | none => simp
  | some value => by_cases h : value = "" <;> simp [h]

theorem failure?_equals {state : State} {resource name value : String} :
    (equals resource name value).failure? state = none ↔
      state.value? resource name = some value := by
  rw [failure?]
  cases state.value? resource name with
  | none => simp
  | some actual => by_cases h : actual = value <;> simp [h]

end Check

namespace Snapshot

/-- The checks of a snapshot hold when each entry stands for a value that is there: any but the empty one
where only its presence was kept, else the kept one. -/
theorem verifyAll_checks_iff {s : Snapshot} {state : State} :
    Check.verifyAll s.checks state = .ok () ↔
      ∀ resource name kept, s.get? resource name = some kept →
        if kept = presentOnly then ∃ value, state.value? resource name = some value ∧ value ≠ ""
        else state.value? resource name = some kept := by
  rw [Check.verifyAll_ok_iff, checks, List.forall_mem_map]
  constructor
  · intro h resource name kept hkept
    have hcheck := h _ (mem_entries_iff.2 hkept)
    rw [Check.ofEntry] at hcheck
    split at hcheck
    · rename_i hpresent
      rw [if_pos hpresent]
      exact Check.failure?_present.1 hcheck
    · rename_i hpresent
      rw [if_neg hpresent]
      exact Check.failure?_equals.1 hcheck
  · rintro h ⟨resource, name, kept⟩ hmem
    have hentry := h resource name kept (mem_entries_iff.1 hmem)
    rw [Check.ofEntry]
    split
    · rename_i hpresent
      rw [if_pos hpresent] at hentry
      exact Check.failure?_present.2 hentry
    · rename_i hpresent
      rw [if_neg hpresent] at hentry
      exact Check.failure?_equals.2 hentry

/-- No attribute became empty since a snapshot was taken. -/
def KeepsEmpty (old : Snapshot) (state : State) : Prop :=
  ∀ resource name, name ≠ countAttribute → state.value? resource name = some "" →
    old.get? resource name = some ""

/-- The checks of a difference hold on the state it was taken from exactly if no attribute became empty:
what is empty is not present, however it is marked. -/
theorem verifyAll_diff_iff {old : Snapshot} {state : State} :
    Check.verifyAll (diff old state).checks state = .ok () ↔ KeepsEmpty old state := by
  rw [verifyAll_checks_iff, KeepsEmpty]
  have hget : ∀ resource name, (diff old state).get? resource name =
      if name = countAttribute then none
      else (state.value? resource name).map fun value =>
        if old.get? resource name = some value then value else presentOnly :=
    fun resource name => get?_observe state _ resource name
  constructor
  · intro h resource name hname hvalue
    by_contra hold
    have hkept : (diff old state).get? resource name = some presentOnly := by
      rw [hget, if_neg hname, hvalue, Option.map_some, if_neg hold]
    have hpresent := h resource name presentOnly hkept
    rw [if_pos rfl, hvalue] at hpresent
    obtain ⟨value, hsome, hne⟩ := hpresent
    exact hne (Option.some.inj hsome).symm
  · intro h resource name kept hkept
    rw [hget] at hkept
    split at hkept
    · exact absurd hkept (by simp)
    · rename_i hname
      obtain ⟨value, hvalue, rfl⟩ := Option.map_eq_some_iff.1 hkept
      have hpresent : old.get? resource name ≠ some value → value ≠ "" := by
        rintro hold rfl
        exact hold (h resource name hname hvalue)
      by_cases hold : old.get? resource name = some value
      · rw [if_pos hold]
        split
        · rename_i hmark
          exact ⟨value, hvalue, by rw [hmark]; decide⟩
        · exact hvalue
      · rw [if_neg hold, if_pos rfl]
        exact ⟨value, hvalue, hpresent hold⟩

end Snapshot

end AttributeSchema
