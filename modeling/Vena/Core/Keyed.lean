import Mathlib.Data.List.Nodup

/-!
# Rows with a Primary Key

A table is a list of rows that are told apart by a key. These are the facts
about looking a row up by its key, about the statements that write a table, and
about what each of them keeps.

## Main definitions

* `insertNew`, `insertAllNew`: Inserting rows whose key is not taken; a conflict
  does nothing.
* `upsert`: Inserting a row, or replacing the one under its key.

## Theorems

* `filter_key`: The rows under the key of a row are that row alone.
* `eq_of_key`: Two rows under one key are the same row.
* `map_key_update`: An update that keeps keys keeps the list of keys.
* `forall_update`, `exists_update`, `forall_concat`, `exists_concat`: Properties
  of the rows, and foreign keys into them, that an update or a new row keeps.
* `nodup_concat`, `nodup_insertNew`, `nodup_insertAllNew`, `nodup_upsert`: Keys
  stay unique.
* `mem_insertAllNew`, `mem_insertAllNew_cases`, `key_insertAllNew`: What is in a
  table after an insertion.
* `insertAllNew_append`, `insertAllNew_again`: Insertions in several parts, and
  rows that come again.
* `find?_insertAllNew`, `filter_insertAllNew`, `prefix_insertAllNew`: What an
  insertion leaves under one key, under some keys, and in front.
* `keys_insertAllNew`, `insertAllNew_eq_of_initial`: The keys it leaves, and when
  more rows add nothing.
* `mem_upsert`, `mem_upsert_of_ne`, `mem_upsert_cases`, `find?_upsert`: What is in it
  after an upsert.
* `filter_update`, `filter_upsert_of_not`: The rows a statement does not touch.
-/

namespace Vena

namespace Keyed

section

variable {κ ρ : Type*}

/-- Two rows under one key are the same row. -/
theorem eq_of_key (key : ρ → κ) (rows : List ρ) (r q : ρ) (hkey : (rows.map key).Nodup)
    (hr : r ∈ rows) (hq : q ∈ rows) (heq : key r = key q) : r = q :=
  List.inj_on_of_nodup_map hkey hr hq heq

/-- An update of some rows that keeps their keys keeps the list of keys. -/
theorem map_key_update (key : ρ → κ) (rows : List ρ) (p : ρ → Prop) [DecidablePred p] (f : ρ → ρ)
    (hf : ∀ r, p r → key (f r) = key r) :
    (rows.map (fun r => if p r then f r else r)).map key = rows.map key := by
  rw [List.map_map]
  refine List.map_congr_left (fun r _ => ?_)
  simp only [Function.comp_apply]
  split
  · next h => exact hf r h
  · rfl

/-- A property that the update's function keeps is kept for every row. -/
theorem forall_update (P : ρ → Prop) (rows : List ρ) (p : ρ → Prop) [DecidablePred p] (f : ρ → ρ)
    (hf : ∀ r, P r → P (f r)) (h : ∀ r ∈ rows, P r) :
    ∀ r ∈ rows.map (fun r => if p r then f r else r), P r := by
  intro r hr
  rcases List.mem_map.mp hr with ⟨old, hold, heq⟩
  rw [← heq]
  split
  · exact hf old (h old hold)
  · exact h old hold

/-- An update is not seen through a filter that neither the rows it takes nor
    what it makes of them pass. -/
theorem filter_update (P : ρ → Bool) (rows : List ρ) (p : ρ → Prop) [DecidablePred p] (f : ρ → ρ)
    (hf : ∀ r, p r → P r = false ∧ P (f r) = false) :
    (rows.map (fun r => if p r then f r else r)).filter P = rows.filter P := by
  induction rows with
  | nil => rfl
  | cons r rows ih =>
      rw [List.map_cons, List.filter_cons, List.filter_cons, ih]
      split
      · next hp => rw [(hf r hp).1, (hf r hp).2, if_neg (by decide), if_neg (by decide)]
      · rfl

theorem exists_update (P : ρ → Prop) (rows : List ρ) (p : ρ → Prop) [DecidablePred p] (f : ρ → ρ)
    (hf : ∀ r, P r → P (f r)) (h : ∃ r ∈ rows, P r) :
    ∃ r ∈ rows.map (fun r => if p r then f r else r), P r := by
  rcases h with ⟨old, hold, hP⟩
  refine ⟨_, List.mem_map.mpr ⟨old, hold, rfl⟩, ?_⟩
  split
  · exact hf old hP
  · exact hP

theorem forall_concat (P : ρ → Prop) (rows : List ρ) (row : ρ) (h : ∀ r ∈ rows, P r)
    (hrow : P row) : ∀ r ∈ rows ++ [row], P r := by
  intro r hr
  rcases List.mem_append.mp hr with hold | hnew
  · exact h r hold
  · rwa [List.mem_singleton.mp hnew]

/-- A foreign key into a table still holds after the table has grown. -/
theorem exists_concat (P : ρ → Prop) (rows : List ρ) (row : ρ) (h : ∃ r ∈ rows, P r) :
    ∃ r ∈ rows ++ [row], P r := by
  rcases h with ⟨r, hr, hP⟩
  exact ⟨r, List.mem_append_left _ hr, hP⟩

/-- A key that no row has stays unique when a row with it is added. -/
theorem nodup_concat (key : ρ → κ) (rows : List ρ) (row : ρ) (hkey : (rows.map key).Nodup)
    (hnew : ∀ r ∈ rows, key r ≠ key row) : ((rows ++ [row]).map key).Nodup := by
  rw [List.map_append, List.nodup_append]
  refine ⟨hkey, List.nodup_singleton _, ?_⟩
  intro a ha b hb
  rw [List.map_singleton, List.mem_singleton] at hb
  rcases List.mem_map.mp ha with ⟨r, hr, heq⟩
  rw [← heq, hb]
  exact hnew r hr

end

variable {κ ρ : Type*} [DecidableEq κ]

/-- The rows under the key of a row of the table are that row alone. -/
theorem filter_key (key : ρ → κ) (rows : List ρ) (r : ρ) (hkey : (rows.map key).Nodup)
    (hmem : r ∈ rows) : rows.filter (fun q => key q = key r) = [r] := by
  induction rows with
  | nil => exact absurd hmem List.not_mem_nil
  | cons q qs ih =>
      rw [List.map_cons, List.nodup_cons] at hkey
      rcases List.mem_cons.mp hmem with heq | hin
      · subst heq
        rw [List.filter_cons, if_pos (by simp only [decide_true])]
        -- No later row has this key.
        congr 1
        rw [List.filter_eq_nil_iff]
        intro v hv hid
        rw [decide_eq_true_eq] at hid
        exact hkey.1 (hid ▸ List.mem_map_of_mem hv)
      · have hne : key q ≠ key r := fun heq => hkey.1 (heq ▸ List.mem_map_of_mem hin)
        rw [List.filter_cons, if_neg (by simp only [hne, decide_false, Bool.false_eq_true,
          not_false_eq_true]), ih hkey.2 hin]

/-- INSERT … ON CONFLICT DO NOTHING, of one row. -/
def insertNew (key : ρ → κ) (rows : List ρ) (row : ρ) : List ρ :=
  if key row ∈ rows.map key then rows else rows ++ [row]

/-- INSERT … ON CONFLICT DO NOTHING, of several rows. -/
def insertAllNew (key : ρ → κ) (rows new : List ρ) : List ρ :=
  new.foldl (insertNew key) rows

/-- INSERT … ON CONFLICT DO UPDATE of every other column. -/
def upsert (key : ρ → κ) (rows : List ρ) (row : ρ) : List ρ :=
  if key row ∈ rows.map key then rows.map (fun r => if key r = key row then row else r)
  else rows ++ [row]

theorem nodup_insertNew (key : ρ → κ) (rows : List ρ) (row : ρ) (hkey : (rows.map key).Nodup) :
    ((insertNew key rows row).map key).Nodup := by
  unfold insertNew
  split
  · exact hkey
  · next hnew =>
      exact nodup_concat key rows row hkey
        (fun r hr heq => hnew (heq ▸ List.mem_map_of_mem hr))

theorem nodup_insertAllNew (key : ρ → κ) (new : List ρ) :
    ∀ rows : List ρ, (rows.map key).Nodup → ((insertAllNew key rows new).map key).Nodup := by
  induction new with
  | nil => exact fun rows hkey => hkey
  | cons row new ih => exact fun rows hkey => ih _ (nodup_insertNew key rows row hkey)

theorem nodup_upsert (key : ρ → κ) (rows : List ρ) (row : ρ) (hkey : (rows.map key).Nodup) :
    ((upsert key rows row).map key).Nodup := by
  unfold upsert
  split
  · rw [map_key_update key rows (fun r => key r = key row) (fun _ => row) (fun _ h => h.symm)]
    exact hkey
  · next hnew =>
      exact nodup_concat key rows row hkey
        (fun r hr heq => hnew (heq ▸ List.mem_map_of_mem hr))

/-- The rows that stay are those under other keys. -/
theorem mem_upsert_cases (key : ρ → κ) (rows : List ρ) (row r : ρ)
    (hr : r ∈ upsert key rows row) : (r ∈ rows ∧ key r ≠ key row) ∨ r = row := by
  unfold upsert at hr
  split at hr
  · rcases List.mem_map.mp hr with ⟨old, hold, heq⟩
    split at heq
    · exact Or.inr heq.symm
    · next hne => exact Or.inl (heq ▸ ⟨hold, hne⟩)
  · next hnew =>
      rcases List.mem_append.mp hr with hold | hrow
      · exact Or.inl ⟨hold, fun heq => hnew (heq ▸ List.mem_map_of_mem hold)⟩
      · exact Or.inr (List.mem_singleton.mp hrow)

theorem mem_upsert (key : ρ → κ) (rows : List ρ) (row : ρ) : row ∈ upsert key rows row := by
  unfold upsert
  split
  · next htaken =>
      rcases List.mem_map.mp htaken with ⟨r, hr, heq⟩
      exact List.mem_map.mpr ⟨r, hr, if_pos heq⟩
  · exact List.mem_append_right _ (List.mem_singleton_self row)

theorem mem_upsert_of_ne (key : ρ → κ) (rows : List ρ) (row r : ρ) (hr : r ∈ rows)
    (hne : key r ≠ key row) : r ∈ upsert key rows row := by
  unfold upsert
  split
  · exact List.mem_map.mpr ⟨r, hr, if_neg hne⟩
  · exact List.mem_append_left _ hr

/-- An upsert is not seen through a filter that does not pass rows under its key. -/
theorem filter_upsert_of_not (key : ρ → κ) (P : ρ → Bool) (rows : List ρ) (row : ρ)
    (hP : ∀ r, key r = key row → P r = false) :
    (upsert key rows row).filter P = rows.filter P := by
  unfold upsert
  split
  · exact filter_update P rows _ _ (fun r hr => ⟨hP r hr, hP row rfl⟩)
  · rw [List.filter_append, List.filter_singleton, hP row rfl, cond_false, List.append_nil]

/-- Under its key an upsert leaves the row, and under every other key what was there. -/
theorem find?_upsert (key : ρ → κ) (rows : List ρ) (row : ρ) (k : κ) :
    (upsert key rows row).find? (fun r => key r = k) =
      if key row = k then some row else rows.find? (fun r => key r = k) := by
  split
  · next hk =>
      cases hfind : (upsert key rows row).find? (fun r => key r = k) with
      | none =>
          rw [List.find?_eq_none] at hfind
          exact absurd (decide_eq_true hk) (hfind row (mem_upsert key rows row))
      | some r =>
          have hr := List.find?_some hfind
          rw [decide_eq_true_eq] at hr
          rcases mem_upsert_cases key rows row r (List.mem_of_find?_eq_some hfind) with
            ⟨_, hne⟩ | rfl
          · exact absurd (hr.trans hk.symm) hne
          · rfl
  · next hk =>
      have hfilter := filter_upsert_of_not key (fun r => decide (key r = k)) rows row
        (fun r hr => decide_eq_false (fun heq => hk (hr.symm.trans heq)))
      rw [← List.head?_filter, hfilter, List.head?_filter]

theorem mem_insertNew (key : ρ → κ) (rows : List ρ) (row r : ρ) (hr : r ∈ rows) :
    r ∈ insertNew key rows row := by
  unfold insertNew
  split
  · exact hr
  · exact List.mem_append_left _ hr

/-- An insertion keeps the rows that were there. -/
theorem mem_insertAllNew (key : ρ → κ) (new : List ρ) (r : ρ) :
    ∀ rows : List ρ, r ∈ rows → r ∈ insertAllNew key rows new := by
  induction new with
  | nil => exact fun rows hr => hr
  | cons row new ih => exact fun rows hr => ih _ (mem_insertNew key rows row r hr)

/-- What an insertion adds has a key that was free. -/
theorem mem_insertNew_cases (key : ρ → κ) (rows : List ρ) (row r : ρ)
    (hr : r ∈ insertNew key rows row) : r ∈ rows ∨ (r = row ∧ key row ∉ rows.map key) := by
  unfold insertNew at hr
  split at hr
  · exact Or.inl hr
  · next hfree =>
      rcases List.mem_append.mp hr with hold | hnew
      · exact Or.inl hold
      · exact Or.inr ⟨List.mem_singleton.mp hnew, hfree⟩

theorem mem_insertAllNew_cases (key : ρ → κ) (new : List ρ) (r : ρ) :
    ∀ rows : List ρ, r ∈ insertAllNew key rows new →
      r ∈ rows ∨ (r ∈ new ∧ key r ∉ rows.map key) := by
  induction new with
  | nil => exact fun rows hr => Or.inl hr
  | cons row new ih =>
      intro rows hr
      rcases ih _ hr with hold | ⟨hin, hfree⟩
      · rcases mem_insertNew_cases key rows row r hold with hrows | ⟨heq, hfree⟩
        · exact Or.inl hrows
        · exact Or.inr ⟨List.mem_cons.mpr (Or.inl heq), heq ▸ hfree⟩
      -- A key that was taken at the start is still taken after the first insertion.
      · refine Or.inr ⟨List.mem_cons_of_mem _ hin, fun htaken => hfree ?_⟩
        rcases List.mem_map.mp htaken with ⟨q, hq, heq⟩
        exact List.mem_map.mpr ⟨q, mem_insertNew key rows row q hq, heq⟩

theorem key_insertNew (key : ρ → κ) (rows : List ρ) (row : ρ) :
    key row ∈ (insertNew key rows row).map key := by
  unfold insertNew
  split
  · next h => exact h
  · exact List.mem_map_of_mem (List.mem_append_right _ (List.mem_singleton_self row))

theorem key_insertNew_of_mem (key : ρ → κ) (rows : List ρ) (row : ρ) (k : κ)
    (hk : k ∈ rows.map key) : k ∈ (insertNew key rows row).map key := by
  rcases List.mem_map.mp hk with ⟨r, hr, heq⟩
  exact List.mem_map.mpr ⟨r, mem_insertNew key rows row r hr, heq⟩

/-- After an insertion every given key is there. -/
theorem key_insertAllNew (key : ρ → κ) (new : List ρ) :
    ∀ (rows : List ρ) (row : ρ), row ∈ new → key row ∈ (insertAllNew key rows new).map key := by
  induction new with
  | nil => exact fun rows row hrow => absurd hrow List.not_mem_nil
  | cons first new ih =>
      intro rows row hrow
      rcases List.mem_cons.mp hrow with heq | hin
      · rcases List.mem_map.mp (key_insertNew key rows first) with ⟨r, hr, hkey⟩
        rw [heq, ← hkey]
        exact List.mem_map_of_mem (mem_insertAllNew key new r _ hr)
      · exact ih _ row hin

/-- A taken key turns the row away. -/
theorem insertNew_of_key (key : ρ → κ) (rows : List ρ) (row : ρ) (hkey : key row ∈ rows.map key) :
    insertNew key rows row = rows :=
  if_pos hkey

/-- Two insertions one after the other are one insertion of all rows. -/
theorem insertAllNew_append (key : ρ → κ) (rows xs ys : List ρ) :
    insertAllNew key rows (xs ++ ys) = insertAllNew key (insertAllNew key rows xs) ys :=
  List.foldl_append

theorem find?_insertNew (key : ρ → κ) (rows : List ρ) (row : ρ) (k : κ) :
    (insertNew key rows row).find? (fun r => key r = k) =
      (rows.find? (fun r => key r = k)).or ([row].find? (fun r => key r = k)) := by
  unfold insertNew
  split
  · next htaken =>
      by_cases hk : key row = k
      · rcases List.mem_map.mp htaken with ⟨r, hr, heq⟩
        have hsome : (rows.find? (fun r => key r = k)).isSome := by
          rw [List.find?_isSome]
          exact ⟨r, hr, decide_eq_true (heq.trans hk)⟩
        rw [Option.or_of_isSome hsome]
      · rw [List.find?_singleton, if_neg (by rwa [decide_eq_true_eq]), Option.or_none]
  · rw [List.find?_append]

/-- Under a key there is the row that was there, or else the first one given for it. -/
theorem find?_insertAllNew (key : ρ → κ) (new : List ρ) (k : κ) :
    ∀ rows : List ρ, (insertAllNew key rows new).find? (fun r => key r = k) =
      (rows.find? (fun r => key r = k)).or (new.find? (fun r => key r = k)) := by
  induction new with
  | nil =>
      intro rows
      rw [List.find?_nil, Option.or_none]
      rfl
  | cons row new ih =>
      intro rows
      have hcons : row :: new = [row] ++ new := rfl
      rw [hcons, insertAllNew_append, ih, List.find?_append, ← Option.or_assoc]
      exact congrArg (fun r => Option.or r _) (find?_insertNew key rows row k)

theorem filter_insertNew (key : ρ → κ) (p : κ → Bool) (rows : List ρ) (row : ρ) :
    (insertNew key rows row).filter (fun r => p (key r)) =
      if p (key row) then insertNew key (rows.filter (fun r => p (key r))) row
      else rows.filter (fun r => p (key r)) := by
  have hkeys : p (key row) = true →
      (key row ∈ (rows.filter (fun r => p (key r))).map key ↔ key row ∈ rows.map key) := by
    intro hp
    simp only [List.mem_map, List.mem_filter]
    constructor
    · rintro ⟨r, ⟨hr, _⟩, heq⟩
      exact ⟨r, hr, heq⟩
    · rintro ⟨r, hr, heq⟩
      exact ⟨r, ⟨hr, heq ▸ hp⟩, heq⟩
  unfold insertNew
  cases hp : p (key row) with
  | true =>
      rw [if_pos rfl]
      by_cases htaken : key row ∈ rows.map key
      · rw [if_pos htaken, if_pos ((hkeys hp).mpr htaken)]
      · rw [if_neg htaken, if_neg (fun h => htaken ((hkeys hp).mp h)), List.filter_append,
          List.filter_singleton, hp, cond_true]
  | false =>
      rw [if_neg Bool.false_ne_true]
      split
      · rfl
      · rw [List.filter_append, List.filter_singleton, hp, cond_false, List.append_nil]

/-- The rows under some of the keys come from the rows given for these. -/
theorem filter_insertAllNew (key : ρ → κ) (p : κ → Bool) (new : List ρ) :
    ∀ rows : List ρ, (insertAllNew key rows new).filter (fun r => p (key r)) =
      insertAllNew key (rows.filter (fun r => p (key r))) (new.filter (fun r => p (key r))) := by
  induction new with
  | nil => exact fun rows => rfl
  | cons row new ih =>
      intro rows
      have hcons : insertAllNew key rows (row :: new) =
          insertAllNew key (insertNew key rows row) new := rfl
      rw [hcons, ih, filter_insertNew, List.filter_cons]
      split
      · rfl
      · rfl

/-- An insertion only adds rows at the end. -/
theorem prefix_insertAllNew (key : ρ → κ) (new : List ρ) :
    ∀ rows : List ρ, rows <+: insertAllNew key rows new := by
  induction new with
  | nil => exact fun rows => List.prefix_rfl
  | cons row new ih =>
      intro rows
      refine List.IsPrefix.trans ?_ (ih (insertNew key rows row))
      unfold insertNew
      split
      · exact List.prefix_rfl
      · exact List.prefix_append rows [row]

/-- A row that comes a second time changes nothing. -/
theorem insertAllNew_again (key : ρ → κ) (rows xs ys : List ρ) (row : ρ) (hrow : row ∈ xs) :
    insertAllNew key rows (xs ++ row :: ys) = insertAllNew key rows (xs ++ ys) := by
  have hcons : row :: ys = [row] ++ ys := rfl
  have hsame : insertAllNew key (insertAllNew key rows xs) [row] = insertAllNew key rows xs :=
    insertNew_of_key key _ row (key_insertAllNew key xs rows row hrow)
  rw [hcons, insertAllNew_append, insertAllNew_append, hsame, ← insertAllNew_append]

/-- The keys after an insertion. -/
theorem keys_insertAllNew (key : ρ → κ) (rows new : List ρ) (k : κ) :
    k ∈ (insertAllNew key rows new).map key ↔ k ∈ rows.map key ∨ k ∈ new.map key := by
  constructor
  · intro hk
    rcases List.mem_map.mp hk with ⟨r, hr, rfl⟩
    rcases mem_insertAllNew_cases key new r rows hr with hold | ⟨hnew, _⟩
    · exact Or.inl (List.mem_map_of_mem hold)
    · exact Or.inr (List.mem_map_of_mem hnew)
  · rintro (hk | hk)
    · exact (((prefix_insertAllNew key new rows).map key).subset) hk
    · rcases List.mem_map.mp hk with ⟨r, hr, rfl⟩
      exact key_insertAllNew key new rows r hr

/-- Rows whose keys are all taken are turned away. -/
theorem insertAllNew_of_keys (key : ρ → κ) (new : List ρ) :
    ∀ rows : List ρ, (∀ row ∈ new, key row ∈ rows.map key) → insertAllNew key rows new = rows := by
  induction new with
  | nil => exact fun rows _ => rfl
  | cons row new ih =>
      intro rows h
      rw [List.forall_mem_cons] at h
      have hcons : insertAllNew key rows (row :: new) =
          insertAllNew key (insertNew key rows row) new := rfl
      rw [hcons, insertNew_of_key key rows row h.1]
      exact ih rows h.2

/-- Of rows that repeat only themselves an insertion keeps each one once. -/
theorem perm_insertAllNew (key : ρ → κ) (rows new : List ρ) (hkey : (rows.map key).Nodup)
    (h : ∀ row, row ∈ new ↔ row ∈ rows) : (insertAllNew key [] new).Perm rows := by
  have hnodup : ((insertAllNew key [] new).map key).Nodup :=
    nodup_insertAllNew key new [] List.nodup_nil
  refine (List.perm_ext_iff_of_nodup (List.Nodup.of_map key hnodup)
    (List.Nodup.of_map key hkey)).mpr (fun row => ?_)
  constructor
  · intro hrow
    rcases mem_insertAllNew_cases key new row [] hrow with hold | ⟨hnew, _⟩
    · exact absurd hold List.not_mem_nil
    · exact (h row).mp hnew
  · intro hrow
    -- The row that has the key is this one.
    rcases List.mem_map.mp (key_insertAllNew key new [] row ((h row).mpr hrow)) with ⟨r, hr, heq⟩
    rcases mem_insertAllNew_cases key new r [] hr with hold | ⟨hnew, _⟩
    · exact absurd hold List.not_mem_nil
    · rwa [eq_of_key key rows r row hkey ((h r).mp hnew) hrow heq] at hr

/-- The rest of a sequence of rows adds nothing exactly if its keys are taken. -/
theorem insertAllNew_eq_of_initial (key : ρ → κ) (rows xs ys : List ρ) (h : xs <+: ys) :
    insertAllNew key rows xs = insertAllNew key rows ys ↔
      ∀ row ∈ ys, key row ∈ rows.map key ∨ key row ∈ xs.map key := by
  constructor
  · intro hsame row hrow
    rw [← keys_insertAllNew, hsame]
    exact key_insertAllNew key ys rows row hrow
  · intro hkeys
    rcases h with ⟨rest, rfl⟩
    rw [insertAllNew_append]
    refine (insertAllNew_of_keys key rest _ (fun row hrow => ?_)).symm
    rw [keys_insertAllNew]
    exact hkeys row (List.mem_append_right xs hrow)

end Keyed

end Vena
