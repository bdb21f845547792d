import AttributeSchema.Proofs.Attribute.Value
import AttributeSchema.Record.Bundled
import AttributeSchema.Record.Decode
/-!
# Trees and texts give the same holders

Readers of records are put together from readers of attributes in the same way for trees and for texts.
When the attributes are read alike, so are the records, from objects and from arrays: what is passed over is
passed over in both, and what is refused in one is refused in the other.
-/

namespace AttributeSchema

open Json

namespace Record

/-! ## What may be null -/

theorem nullable_readAlike {α : Type} {tree : Value → Except String α}
    {treeOrNull : Value → Except String (Option α)} {read : List Char → Reading α} {v : Value}
    (hnull : treeOrNull .null = .ok none) (hother : v ≠ .null → treeOrNull v = (tree v).map some)
    (h : ReadAlike tree read v) : ReadAlike treeOrNull (Document.nullable read) v := by
  by_cases hv : v = .null
  · subst hv
    intro rest _
    rw [hnull]
    rfl
  · intro rest hrest
    have hread := (h rest hrest).map some
    have hspaces := skipSpaces_compact v rest
    obtain ⟨c, cs, heq, hc⟩ := exists_opens v
    have hne : c ≠ 'n' := by
      rintro rfl
      exact hv hc.eq_null
    rw [heq] at hread hspaces ⊢
    rw [hother hv, Document.nullable, hspaces]
    split
    · rename_i hopen
      exact absurd (List.cons.inj hopen).1 hne
    · exact hread

theorem leaf_readAlike (t : LeafType) (v : Value) : ReadAlike t.ofTree t.read v := by
  have hread : t.read = Document.nullable t.readCarrier := rfl
  rw [hread]
  apply nullable_readAlike rfl _ (LeafType.readAlike_carrier t v)
  intro hv
  cases v with
  | null => exact absurd rfl hv
  | _ => rfl

/-! ## Items behind the last attribute -/

/-- Whether reading attributes from the items of an array comes to its end, and what is left of the text. -/
def unread (rest : List Char) (isFirst : Bool) : Nat → List Value → Bool × List Char
  | 0, items => (false, itemsText isFirst items ++ ']' :: rest)
  | _ + 1, [] => (true, rest)
  | width + 1, _ :: items => unread rest false width items

theorem unread_of_le {width : Nat} {items : List Value} (h : items.length ≤ width) (rest : List Char)
    (isFirst : Bool) :
    unread rest isFirst width items = (true, rest) ∨
      unread rest isFirst width items = (false, ']' :: rest) := by
  induction width generalizing items isFirst with
  | zero =>
      obtain rfl := List.eq_nil_of_length_eq_zero (Nat.le_zero.1 h)
      exact .inr rfl
  | succ width ih =>
      cases items with
      | nil => exact .inl rfl
      | cons v items => exact ih (Nat.le_of_succ_le_succ h) false

theorem unread_of_lt {width : Nat} {items : List Value} (h : width < items.length) (rest : List Char)
    (isFirst : Bool) :
    ∃ isFirst' v more, unread rest isFirst width items =
      (false, itemsText isFirst' (v :: more) ++ ']' :: rest) := by
  induction width generalizing items isFirst with
  | zero =>
      cases items with
      | nil => exact absurd h (Nat.lt_irrefl 0)
      | cons v more => exact ⟨isFirst, v, more, rfl⟩
  | succ width ih =>
      cases items with
      | nil => exact absurd h (Nat.not_lt_zero _)
      | cons v items => exact ih (Nat.lt_of_succ_lt_succ h) false

theorem arrayEnd_item (isFirst : Bool) (v : Value) (more : List Value) (rest : List Char) :
    ∃ e, Document.arrayEnd (itemsText isFirst (v :: more) ++ ']' :: rest) = .error e := by
  obtain ⟨c, cs, heq, hc⟩ := exists_opens v
  have hend : c ≠ ']' := hc.ne (by decide) rfl
  have hcomma : c ≠ ',' := hc.ne (by decide) rfl
  have hspace := skipSpaces_cons hc.isSpace_eq_false
  rw [itemsText, heq]
  cases isFirst with
  | true => simp [separator, Document.arrayEnd, hspace, hend, hcomma]
  | false =>
      have hseparator (s : List Char) : skipSpaces (',' :: s) = ',' :: s := skipSpaces_cons rfl s
      simp [separator, Document.arrayEnd, hseparator, hspace, hend]

theorem arrayEnd_stuck {s : List Char} (h : Stuck s) : ∃ e, Document.arrayEnd s = .error e := by
  cases h with
  | point s => exact ⟨_, rfl⟩
  | letter s => exact ⟨_, rfl⟩

/-! ## Readers of records -/

/-- Readers of one record, from texts and from trees, read alike. Of the text of an array they leave what
stands behind the last attribute. -/
structure Matches {H : Type} (d : Document.Reader H) (t : Tree.Reader H) : Prop where
  null_eq : d.null = t.null
  entry_known : ∀ key ∈ d.names, ∀ v : Value, v.HasDistinctKeys → ∀ h,
    ReadAlike (fun v => t.entry key v h) (d.entry key h) v
  entry_unknown : ∀ key ∉ d.names, ∀ v h, t.entry key v h = .ok h
  items_agree : ∀ items : List Value, (∀ v ∈ items, v.HasDistinctKeys) → ∀ isFirst rest,
    Agrees ((t.items items).map fun h => (h, (unread rest isFirst t.width items).1))
      (d.items isFirst (itemsText isFirst items ++ ']' :: rest))
      (unread rest isFirst t.width items).2
  items_stuck : ∀ s, Stuck s → Refused (d.items false s)

theorem matches_done : Matches Document.Reader.done Tree.Reader.done where
  null_eq := rfl
  entry_known key hkey := absurd hkey List.not_mem_nil
  entry_unknown key _ v h := rfl
  items_agree items _ isFirst rest := rfl
  items_stuck s hs := by
    intro a rest hok
    obtain ⟨-, rfl⟩ := Prod.mk.inj (Except.ok.inj hok)
    exact hs

section Cons

variable {α H : Type} (name : String)

theorem treeCons_items (tree : Value → Except String (Option α)) (t : Tree.Reader H) (v : Value)
    (items : List Value) (ended : Bool) :
    ((Tree.Reader.cons name tree t).items (v :: items)).map (fun h => (h, ended)) =
      tree v >>= fun first =>
        ((t.items items).map fun h => (h, ended)).map fun (more, ended) => ((first, more), ended) := by
  simp only [Tree.Reader.cons]
  cases tree v with
  | error e => rfl
  | ok first => cases t.items items <;> rfl

theorem documentCons_items (read : List Char → Reading (Option α)) (d : Document.Reader H)
    {isFirst : Bool} {s rest : List Char} (hnext : nextItem isFirst s = .ok (true, rest)) :
    (Document.Reader.cons name read d).items isFirst s =
      readOn (read rest) fun first rest =>
        (d.items false rest).map fun ((more, ended), rest) => (((first, more), ended), rest) := by
  simp only [Document.Reader.cons, hnext]
  cases read rest <;> rfl

end Cons

theorem Matches.cons {α H : Type} {d : Document.Reader H} {t : Tree.Reader H} (h : Matches d t)
    (name : String) {tree : Value → Except String (Option α)} {read : List Char → Reading (Option α)}
    (hread : ∀ v : Value, v.HasDistinctKeys → ReadAlike tree read v) :
    Matches (Document.Reader.cons name read d) (Tree.Reader.cons name tree t) where
  null_eq := congrArg (Prod.mk none) h.null_eq
  entry_known := by
    intro key hkey v hv held rest hrest
    simp only [Document.Reader.cons, Tree.Reader.cons]
    by_cases hname : key = name
    · rw [if_pos hname, if_pos hname]
      exact (hread v hv rest hrest).map fun first => (first, held.2)
    · rw [if_neg hname, if_neg hname]
      have hmore : key ∈ d.names := (List.mem_cons.1 hkey).resolve_left hname
      exact (h.entry_known key hmore v hv held.2 rest hrest).map fun more => (held.1, more)
  entry_unknown := by
    intro key hkey v held
    have hother := not_or.1 fun hmem => hkey (List.mem_cons.2 hmem)
    simp only [Tree.Reader.cons, if_neg hother.1, h.entry_unknown key hother.2 v held.2]
    rfl
  items_agree := by
    intro items hitems isFirst rest
    cases items with
    | nil =>
        simp only [Document.Reader.cons, Tree.Reader.cons, itemsText, List.nil_append, nextItem_end]
        change Except.ok (((none, d.null), true), rest) = Except.ok (((none, t.null), true), rest)
        rw [h.null_eq]
    | cons v items =>
        obtain ⟨hv, hitems⟩ := List.forall_mem_cons.1 hitems
        rw [itemsText, List.append_assoc, List.append_assoc,
          documentCons_items name read d (nextItem_item isFirst v _), treeCons_items]
        apply (hread v hv _ (delimits_itemsText items rest)).bind
        · intro first _
          exact (h.items_agree items hitems false rest).map fun (more, ended) => ((first, more), ended)
        · intro first s hs
          exact (h.items_stuck s hs).map fun (more, ended) => ((first, more), ended)
  items_stuck := by
    intro s hs
    obtain ⟨e, he⟩ := nextItem_stuck hs
    exact refused_of_error ⟨e, by simp only [Document.Reader.cons, he]⟩

/-! ## Entries -/

section Entries

variable {H : Type} (d : Document.Reader H)

theorem entries_stuck {s : List Char} (hs : Stuck s) (seen : List String) (h : H) (fuel : Nat) :
    Refused (d.entries false seen h fuel s) := by
  cases fuel with
  | zero => exact refused_of_error ⟨_, rfl⟩
  | succ fuel =>
      obtain ⟨e, he⟩ := nextKey_stuck hs
      exact refused_of_error ⟨e, by rw [Document.Reader.entries, he]⟩

theorem entries_end (isFirst : Bool) (seen : List String) (h : H) (fuel : Nat) (rest : List Char) :
    d.entries isFirst seen h (fuel + 1) ('\x7d' :: rest) = .ok (h, rest) := by
  rw [Document.Reader.entries, nextKey_brace]

variable {d}

theorem entries_known {key : String} (hkey : key ∈ d.names) {seen : List String} (hseen : key ∉ seen)
    (isFirst : Bool) (h : H) (fuel : Nat) (v : Value) (entries : List (String × Value))
    (rest : List Char) :
    d.entries isFirst seen h (fuel + 1) (entriesText isFirst ((key, v) :: entries) ++ '\x7d' :: rest) =
      readOn (d.entry key h (compactChars v ++ (entriesText false entries ++ '\x7d' :: rest)))
        fun h rest => d.entries false (key :: seen) h fuel rest := by
  rw [entriesText, List.append_assoc, List.append_assoc, List.cons_append, List.append_assoc,
    Document.Reader.entries, nextKey_quote]
  simp only [stringText_escaped, colon_cons, if_pos hkey, if_neg hseen]
  cases d.entry key h _ <;> rfl

theorem entries_unknown {key : String} (hkey : key ∉ d.names) (isFirst : Bool) (seen : List String)
    (h : H) (fuel : Nat) (v : Value) (entries : List (String × Value)) (rest : List Char) :
    d.entries isFirst seen h (fuel + 1) (entriesText isFirst ((key, v) :: entries) ++ '\x7d' :: rest) =
      d.entries false seen h fuel (entriesText false entries ++ '\x7d' :: rest) := by
  rw [entriesText, List.append_assoc, List.append_assoc, List.cons_append, List.append_assoc,
    Document.Reader.entries, nextKey_quote]
  simp only [stringText_escaped, colon_cons, if_neg hkey, skip_compact v (delimits_entriesText _ _)]

end Entries

theorem Matches.entries_agree {H : Type} {d : Document.Reader H} {t : Tree.Reader H} (m : Matches d t)
    {entries : List (String × Value)} (hkeys : (entries.map Prod.fst).Nodup)
    (hvalues : ∀ e ∈ entries, e.2.HasDistinctKeys) {seen : List String}
    (hseen : ∀ e ∈ entries, e.1 ∉ seen) (isFirst : Bool) (h : H) (rest : List Char) {fuel : Nat}
    (hfuel : entries.length < fuel) :
    Agrees (t.entries h entries)
      (d.entries isFirst seen h fuel (entriesText isFirst entries ++ '\x7d' :: rest)) rest := by
  -- The text is also refused at a key that was seen before. No key that is still to come has been seen:
  -- this is kept from entry to entry because the keys are distinct.
  induction entries generalizing seen isFirst h fuel with
  | nil =>
      obtain ⟨fuel, rfl⟩ := Nat.exists_eq_add_one_of_ne_zero (Nat.ne_zero_of_lt hfuel)
      exact entries_end d isFirst seen h fuel rest
  | cons e entries ih =>
      obtain ⟨key, v⟩ := e
      obtain ⟨fuel, rfl⟩ := Nat.exists_eq_add_one_of_ne_zero (Nat.ne_zero_of_lt hfuel)
      have hfuel : entries.length < fuel := Nat.lt_of_succ_lt_succ hfuel
      obtain ⟨hkey, hkeys⟩ := List.nodup_cons.1 hkeys
      obtain ⟨hv, hvalues⟩ := List.forall_mem_cons.1 hvalues
      obtain ⟨hfresh, hseen⟩ := List.forall_mem_cons.1 hseen
      rw [Tree.Reader.entries]
      by_cases hname : key ∈ d.names
      · rw [entries_known hname hfresh]
        apply (m.entry_known key hname v hv h _ (delimits_entriesText entries rest)).bind
        · intro h _
          apply ih hkeys hvalues _ false h hfuel
          intro e he hmem
          rcases List.mem_cons.1 hmem with heq | hmem
          · exact hkey (heq ▸ List.mem_map.2 ⟨e, he, rfl⟩)
          · exact hseen e he hmem
        · intro h s hs
          exact entries_stuck d hs (key :: seen) h fuel
      · rw [m.entry_unknown key hname v h, entries_unknown hname]
        exact ih hkeys hvalues hseen false h hfuel

/-! ## Whole records -/

/-- Reads the end of an array behind its items, unless it was read with them. -/
def closeArray {H : Type} (found : H × Bool) (s : List Char) : Reading H :=
  match found with
  | (h, true) => .ok (h, s)
  | (h, false) => (Document.arrayEnd s).map fun (_, rest) => (h, rest)

theorem closeArray_stuck {H : Type} {s : List Char} (hs : Stuck s) (found : H × Bool) :
    Refused (closeArray found s) := by
  obtain ⟨h, ended⟩ := found
  cases ended with
  | true =>
      intro a rest hok
      obtain ⟨-, rfl⟩ := Prod.mk.inj (Except.ok.inj hok)
      exact hs
  | false => exact (refused_of_error (arrayEnd_stuck hs)).map fun _ => h

theorem closeArray_agree {H : Type} (h : H) (width : Nat) (items : List Value) (detail : String)
    (rest : List Char) :
    Agrees (if items.length ≤ width then .ok h else .error detail)
      (closeArray (h, (unread rest true width items).1) (unread rest true width items).2) rest := by
  by_cases hlength : items.length ≤ width
  · rw [if_pos hlength]
    -- The end was read in place of an attribute that is not given, or stands behind the last one.
    rcases unread_of_le hlength rest true with hunread | hunread
    · rw [hunread]
      rfl
    · rw [hunread]
      change (Document.arrayEnd (']' :: rest)).map (fun (_, rest) => (h, rest)) = .ok (h, rest)
      rw [Document.arrayEnd, skipSpaces_cons rfl]
      rfl
  · rw [if_neg hlength]
    obtain ⟨isFirst, v, more, hunread⟩ := unread_of_lt (Nat.lt_of_not_le hlength) rest true
    rw [hunread]
    exact (refused_of_error (arrayEnd_item isFirst v more rest)).map fun _ => h

section Read

variable {H : Type} {d : Document.Reader H} {t : Tree.Reader H} (m : Matches d t) (record : String)

theorem documentRead_array (s : List Char) :
    d.read record ('[' :: s) = readOn (d.items true s) closeArray := by
  rw [Document.Reader.read, skipSpaces_cons rfl]
  cases hitems : d.items true s with
  | error e => simp only [hitems, readOn]
  | ok found =>
      obtain ⟨⟨h, ended⟩, rest⟩ := found
      cases ended <;> simp only [hitems, readOn, closeArray]

theorem treeRead_array (items : List Value) (ended : Bool) :
    t.read record (.array items) =
      ((t.items items).map fun h => (h, ended)) >>= fun found =>
        if items.length ≤ t.width then .ok found.1
        else .error ("invalid length " ++ String.ofList (Text.Decimal.digits items.length) ++
          ", expected fewer elements in array") := by
  rw [Tree.Reader.read]
  cases t.items items <;> rfl

include m

theorem Matches.array_readAlike {items : List Value} (hitems : ∀ v ∈ items, v.HasDistinctKeys) :
    ReadAlike (t.read record) (d.read record) (.array items) := by
  intro rest _
  rw [compactChars_array, documentRead_array,
    treeRead_array record items (unread rest true t.width items).1]
  apply (m.items_agree items hitems true rest).bind
  · intro found hfound
    obtain ⟨h, -, rfl⟩ := map_ok_iff.1 hfound
    exact closeArray_agree h t.width items _ rest
  · intro found s hs
    exact closeArray_stuck hs found

theorem Matches.object_readAlike {entries : List (String × Value)}
    (hkeys : (entries.map Prod.fst).Nodup) (hvalues : ∀ e ∈ entries, e.2.HasDistinctKeys) :
    ReadAlike (t.read record) (d.read record) (.object entries) := by
  intro rest _
  have hlength := length_le_entriesText true entries
  rw [compactChars_object, Document.Reader.read, skipSpaces_cons rfl]
  change Agrees (t.entries t.null entries) (d.entries true [] d.null _ _) rest
  rw [m.null_eq]
  apply m.entries_agree hkeys hvalues (fun e _ => List.not_mem_nil)
  rw [List.length_append]
  omega

/-- Records are read alike, from objects and from arrays. -/
theorem Matches.readAlike {v : Value} (hv : v.HasDistinctKeys) :
    ReadAlike (t.read record) (d.read record) v := by
  by_cases hkind : (∃ items, v = .array items) ∨ ∃ entries, v = .object entries
  · rcases hkind with ⟨items, rfl⟩ | ⟨entries, rfl⟩
    · cases hv with
      | array hitems => exact m.array_readAlike record hitems
    · cases hv with
      | object hkeys hvalues => exact m.object_readAlike record hkeys hvalues
  · apply agrees_of_opens
    · cases v with
      | array items => exact absurd (.inl ⟨items, rfl⟩) hkind
      | object entries => exact absurd (.inr ⟨entries, rfl⟩) hkind
      | _ => exact ⟨_, rfl⟩
    · intro c cs hc
      rw [Document.Reader.read, skipSpaces_cons hc.isSpace_eq_false]
      split
      · rename_i heq
        obtain ⟨rfl, -⟩ := List.cons.inj heq
        exact absurd (.inr hc.eq_object) hkind
      · rename_i heq
        obtain ⟨rfl, -⟩ := List.cons.inj heq
        exact absurd (.inl hc.eq_array) hkind
      · exact ⟨_, rfl⟩

end Read

/-! ## Records as attributes -/

section Attributes

variable {H : Type} {d : Document.Reader H} {t : Tree.Reader H} (record : String)

theorem Matches.readNullable_readAlike (m : Matches d t) {v : Value} (hv : v.HasDistinctKeys) :
    ReadAlike (t.readNullable record) (Document.nullable (d.read record)) v := by
  apply nullable_readAlike rfl _ (m.readAlike record hv)
  intro hne
  cases v with
  | null => exact absurd rfl hne
  | _ => rfl

theorem documentReadAll_eq (isFirst : Bool) (fuel : Nat) (s : List Char) :
    d.readAll record isFirst fuel s = readItems (d.read record) isFirst fuel s := by
  induction fuel generalizing isFirst s with
  | zero => rfl
  | succ fuel ih =>
      rw [Document.Reader.readAll, readItems]
      cases nextItem isFirst s with
      | error e => rfl
      | ok next =>
          obtain ⟨isItem, rest⟩ := next
          cases isItem with
          | false => rfl
          | true =>
              dsimp only
              cases d.read record rest with
              | error e => rfl
              | ok found =>
                  obtain ⟨first, rest⟩ := found
                  change (d.readAll record false fuel rest).map _ = _
                  rw [ih]

theorem treeReadAll_eq (items : List Value) :
    t.readAll record items = items.mapM (t.read record) := by
  induction items with
  | nil => rfl
  | cons v items ih =>
      rw [Tree.Reader.readAll, List.mapM_cons, ih]
      rfl

def treeItems (t : Tree.Reader H) (record : String) : Value → Except String (List H)
  | .array items => items.mapM (t.read record)
  | other => .error (invalidType other "a sequence")

theorem Matches.treeItems_readAlike (m : Matches d t) {v : Value} (hv : v.HasDistinctKeys) :
    ReadAlike (treeItems t record) (d.readList record) v := by
  by_cases hkind : ∃ items, v = .array items
  · obtain ⟨items, rfl⟩ := hkind
    intro rest _
    have hlength := length_le_itemsText true items
    cases hv with
    | array hitems =>
        rw [compactChars_array, Document.Reader.readList, documentReadAll_eq]
        apply readItems_agree fun v hv => m.readAlike record (hitems v hv)
        rw [List.length_append]
        omega
  · apply agrees_of_opens
    · cases v with
      | array items => exact absurd ⟨items, rfl⟩ hkind
      | _ => exact ⟨_, rfl⟩
    · intro c cs hc
      rw [Document.Reader.readList]
      · exact ⟨_, rfl⟩
      · rintro rest heq
        obtain ⟨rfl, -⟩ := List.cons.inj heq
        exact absurd hc.eq_array hkind

theorem Matches.readList_readAlike (m : Matches d t) {v : Value} (hv : v.HasDistinctKeys) :
    ReadAlike (t.readList record) (Document.nullable (d.readList record)) v := by
  apply nullable_readAlike rfl _ (m.treeItems_readAlike record hv)
  intro hne
  cases v with
  | null => exact absurd rfl hne
  | array items =>
      rw [Tree.Reader.readList, treeReadAll_eq]
      rfl
  | _ => rfl

end Attributes

/-- Whatever the shape of a record, its readers read alike. -/
theorem matches_reader (s : Shape) : Matches (Document.reader s) (Tree.reader s) := by
  -- A shape stands in others as a record and as their last attributes: both are `Matches` of its readers.
  induction s with
  | done => exact matches_done
  | leaf name conversion rest ih => exact ih.cons name fun v _ => leaf_readAlike conversion.type v
  | untagged name conversion rest ih => exact ih
  | nested name record inner rest hinner hrest =>
      exact hrest.cons name fun v hv => hinner.readNullable_readAlike record hv
  | optional name record inner rest hinner hrest =>
      exact hrest.cons name fun v hv => hinner.readNullable_readAlike record hv
  | list name record inner rest hinner hrest =>
      exact hrest.cons name fun v hv => hinner.readList_readAlike record hv

/-! ## Whole texts -/

/-- A text is read to its end if it is read up to there. -/
theorem whole_agree {α : Type} {result : Except String α} {read : List Char → Reading α}
    {s : List Char} (h : Agrees result (read s) []) :
    (∃ a, result = .ok a ∧ whole read s = .ok a) ∨
      ∃ detail detail', result = .error detail ∧ whole read s = .error detail' := by
  cases result with
  | ok a =>
      have hread : read s = .ok (a, []) := h
      exact .inl ⟨a, rfl, by rw [whole, hread]; rfl⟩
  | error detail =>
      refine .inr ?_
      cases hread : read s with
      | error e => exact ⟨detail, _, rfl, by rw [whole, hread]⟩
      | ok found =>
          obtain ⟨a, rest⟩ := found
          have hstuck : Stuck rest := h a rest hread
          cases hstuck with
          | point rest => exact ⟨detail, _, rfl, by rw [whole, hread]; rfl⟩
          | letter rest => exact ⟨detail, _, rfl, by rw [whole, hread]; rfl⟩

/-- A configuration and its text are read as the same holder, or neither is read. -/
theorem ofText_compact (r : Record) {v : Value} (hv : v.HasDistinctKeys) :
    (∃ h, r.ofTree v = .ok h ∧ r.ofText (compact v) = .ok h) ∨
      ∃ detail detail', r.ofTree v = .error detail ∧ r.ofText (compact v) = .error detail' := by
  have hread := (matches_reader r.shape).readAlike r.name hv [] .nil
  rw [List.append_nil] at hread
  rw [ofText, Document.Reader.ofText, compact, String.toList_ofList]
  exact whole_agree hread

end Record

namespace Bundled

/-- Decoding a configuration and decoding its text leave the same record with the same diagnostics. If
one cannot be read, neither can the other; the record then stays as it is, with one diagnostic each that
may only differ in its detail. -/
theorem sources_agree : ∀ e ∈ records, ∀ v : Json.Value, v.Canonical →
    (∃ h, e.2.ofTree v = .ok h ∧ e.2.ofText (Json.compact v) = .ok h ∧
      ∀ target, e.2.decodeTree v target = e.2.shape.decodeInto h target ∧
        e.2.decodeText (Json.compact v) target = e.2.shape.decodeInto h target) ∨
    ∃ detail detail', e.2.ofTree v = .error detail ∧ e.2.ofText (Json.compact v) = .error detail' ∧
      ∀ target,
        e.2.decodeTree v target = (target, [⟨.error, "Failed to read configuration", detail⟩]) ∧
        e.2.decodeText (Json.compact v) target =
          (target, [⟨.error, "Failed to read configuration", detail'⟩]) := by
  intro e _ v hv
  rcases Record.ofText_compact e.2 (Json.Value.hasDistinctKeys_of_canonical hv) with
    ⟨h, htree, htext⟩ | ⟨detail, detail', htree, htext⟩
  · refine .inl ⟨h, htree, htext, fun target => ⟨?_, ?_⟩⟩
    · rw [Record.decodeTree, htree, Record.decodeRead]
    · rw [Record.decodeText, htext, Record.decodeRead]
  · refine .inr ⟨detail, detail', htree, htext, fun target => ⟨?_, ?_⟩⟩
    · rw [Record.decodeTree, htree]
      rfl
    · rw [Record.decodeText, htext]
      rfl

def oneAndAHalf : Json.Value := .float ⟨false, 0x18_0000_0000_0000, -52⟩

/-- A token with a policy by order, escapes in a text and an unknown value that holds others. -/
def deepToken : Json.Value :=
  .object [("create_index", .integer 7), ("description", .string "\"a\"\n"),
    ("policies", .array [.array [.string "p"]]),
    ("unknown", .object [("deep", .array [oneAndAHalf, .array [.null, .string "\\"]])])]

def fractionToken : Json.Value := .object [("create_index", oneAndAHalf)]

theorem sources_agree_token :
    (deepToken.Canonical ∧
      ∃ h, aclToken.ofTree deepToken = .ok h ∧ aclToken.ofText (Json.compact deepToken) = .ok h) ∧
    fractionToken.Canonical ∧
      ∃ detail detail', aclToken.ofTree fractionToken = .error detail ∧
        aclToken.ofText (Json.compact fractionToken) = .error detail' := by
  have hdeep : deepToken.Canonical := by
    simp only [deepToken, oneAndAHalf, Json.Value.Canonical, Json.Value.CanonicalEntries,
      Json.Value.CanonicalItems]
    decide
  have hfraction : fractionToken.Canonical := by
    simp only [fractionToken, oneAndAHalf, Json.Value.Canonical, Json.Value.CanonicalEntries]
    decide
  refine ⟨⟨hdeep, ?_⟩, hfraction, ?_⟩
  · rcases sources_agree ("acl_token", aclToken) (by simp [records]) deepToken hdeep with
      ⟨h, htree, htext, -⟩ | ⟨detail, detail', htree, -⟩
    · exact ⟨h, htree, htext⟩
    · have hreads : (aclToken.ofTree deepToken).isOk = true := by decide
      rw [htree] at hreads
      exact absurd hreads (by simp [Except.isOk, Except.toBool])
  · rcases sources_agree ("acl_token", aclToken) (by simp [records]) fractionToken hfraction with
      ⟨h, htree, -⟩ | ⟨detail, detail', htree, htext, -⟩
    · have hfails : (aclToken.ofTree fractionToken).isOk = false := by decide
      rw [htree] at hfails
      exact absurd hfails (by simp [Except.isOk, Except.toBool])
    · exact ⟨detail, detail', htree, htext⟩

end Bundled

end AttributeSchema
