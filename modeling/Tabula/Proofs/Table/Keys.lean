import Tabula.Proofs.Table.Numbers

/-!
# Keys that are taken

An insertion is refused if a row has its key already. That changes no row, and the counter neither
as long as the numbers of the rows are below it. An update checks no key: the keys of the rows
differ after it exactly if it has not given its row a key that another row has.
-/

namespace Tabula

/-- An update of the row at a position gives that row no key that another row has. -/
def Table.TakesNoKey (table : Table) (position : Nat) (values : List (ColumnRef × Value)) : Prop :=
  ∀ changed, table.update position values = .ok changed →
    ∀ other < table.rows.length, other ≠ position →
      (table.schema.keyOf (table.rows.getD other [])).same
        (table.schema.keyOf (changed.2.rows.getD position [])) = false

/-- Whether an update takes a key can be decided by carrying it out. -/
instance Table.decidableTakesNoKey (table : Table) (position : Nat)
    (values : List (ColumnRef × Value)) : Decidable (table.TakesNoKey position values) :=
  inferInstanceAs (Decidable (∀ _, _ → _))

/-- The row that given values make would have the key of a row that is there. -/
def Table.RepeatsKey (table : Table) (values : List (ColumnRef × Value)) : Prop :=
  table.schema.primaryKey ≠ [] ∧
    ∃ supplied, table.schema.checkValues values = .ok supplied ∧
      ∃ row ∈ table.rows,
        (table.schema.keyOf row).same (table.schema.keyOf (table.drafted supplied).1) = true

namespace Table

variable {table after : Table} {values : List (ColumnRef × Value)} {position : Nat} {old : Row}

/-- A row is found by its key only if the table has a primary key. -/
theorem primaryKey_ne_nil_of_find? {key : RowKey} (h : position ∈ table.find? key) :
    table.schema.primaryKey ≠ [] := by
  intro hnone
  rw [find?, hnone] at h
  cases h

/-- An update that succeeds takes no key exactly if no other row has the key of the new one. -/
theorem takesNoKey_iff (hupdate : table.update position values = .ok (old, after)) :
    table.TakesNoKey position values ↔ ∀ other < table.rows.length, other ≠ position →
      (table.schema.keyOf (table.rows.getD other [])).same
        (table.schema.keyOf (after.rows.getD position [])) = false := by
  refine ⟨fun htakes => htakes _ hupdate, fun htakes changed hother => ?_⟩
  rw [hupdate, Except.ok.injEq] at hother
  exact hother ▸ htakes

/-- The keys differ after an update exactly if it has taken no key. -/
theorem keysDiffer_update_iff (h : table.KeysDiffer)
    (hupdate : table.update position values = .ok (old, after)) :
    after.KeysDiffer ↔ table.TakesNoKey position values := by
  rw [takesNoKey_iff hupdate]
  obtain ⟨hold, supplied, -, -, rfl⟩ := update_eq_ok hupdate
  obtain ⟨hlt, -⟩ := List.getElem?_eq_some_iff.mp hold
  have hnew : (table.rows.set position (overwrite old supplied)).getD position [] =
      overwrite old supplied := by
    rw [List.getD_eq_getElem _ _ (by simpa using hlt), List.getElem_set_self]
  simp only [KeysDiffer, List.length_set, hnew]
  constructor
  · intro hdiffer other hother hne
    have hpair := hdiffer other position hother hlt hne
    rwa [List.getElem_set_ne hne.symm, List.getElem_set_self, ← List.getD_eq_getElem _ []] at hpair
  · intro htakes i j hi hj hne
    by_cases hip : i = position
    · subst hip
      rw [List.getElem_set_self, List.getElem_set_ne hne, RowKey.same_comm,
        ← List.getD_eq_getElem _ []]
      exact htakes j hj hne.symm
    · rw [List.getElem_set_ne (Ne.symm hip)]
      by_cases hjp : j = position
      · subst hjp
        rw [List.getElem_set_self, ← List.getD_eq_getElem _ []]
        exact htakes i hi hne
      · rw [List.getElem_set_ne (Ne.symm hjp)]
        exact h i j hi hj hne

/-- An insertion that would repeat a key is refused with an error of execution. -/
theorem insert_of_repeatsKey (h : table.RepeatsKey values) :
    ∃ supplied error, table.schema.checkValues values = .ok supplied ∧
      table.insert values = (.error error, { table with nextId := (table.drafted supplied).2 }) ∧
      error.report.kind = .execution := by
  obtain ⟨hkey, supplied, hsupplied, row, hrow, hsame⟩ := h
  have htaken : table.find? (table.schema.keyOf (table.drafted supplied).1) ≠ none := by
    intro hnone
    rw [(find?_eq_none_iff hkey).mp hnone row hrow] at hsame
    cases hsame
  rcases table.insert_cases values with
    ⟨_, hvalues, -⟩ | ⟨other, hother, ⟨error, hchecked, hcase⟩ | ⟨hchecked, -⟩⟩
  · rw [hsupplied] at hvalues
    cases hvalues
  · rw [hsupplied, Except.ok.injEq] at hother
    subst hother
    refine ⟨supplied, error, hsupplied, hcase, ?_⟩
    rcases table.checkRow_cases (table.drafted supplied).1 with
      ⟨column, -, hnull⟩ | ⟨-, ⟨hnone, -⟩ | ⟨_, -, hduplicate⟩⟩
    · rw [hchecked, Except.error.injEq] at hnull
      rw [hnull]
      rfl
    · exact absurd hnone htaken
    · rw [hchecked, Except.error.injEq] at hduplicate
      rw [hduplicate]
      rfl
  · rw [hsupplied, Except.ok.injEq] at hother
    subst hother
    exact absurd (checkRow_eq_ok_iff.mp hchecked).2 htaken

/-- The row that repeats a key has not moved the counter, if the numbers of the rows are below
it. -/
theorem snd_drafted_of_repeated (hsound : table.Sound) (hids : table.IdsBelow)
    {supplied : List (Column × Value)}
    (hsupplied : table.schema.checkValues values = .ok supplied) {row : Row}
    (hrow : row ∈ table.rows)
    (hsame : (table.schema.keyOf row).same (table.schema.keyOf (table.drafted supplied).1) = true) :
    (table.drafted supplied).2 = table.nextId := by
  have hlawful := hsound.lawful
  by_cases hnumbered : ∃ column ∈ table.schema.columns, column.isAutoIncrement = true
  · obtain ⟨column, hcolumn, hauto⟩ := hnumbered
    obtain ⟨id, hid⟩ := hlawful.exists_number hcolumn hauto (hsound.fits row hrow)
    have hbelow := hids column hcolumn hauto row hrow id hid
    have hat := at_drafted_of_numbered hlawful hcolumn hauto supplied
    rw [hlawful.keyOf_of_numbered hcolumn hauto, hlawful.keyOf_of_numbered hcolumn hauto, hid,
      hat] at hsame
    rw [drafted, snd_fillRow_of_numbered table.nextId hlawful.length_numbered_le_one hcolumn hauto]
    cases hgiven : suppliedFor supplied column with
    | none =>
      -- the next number is no number of a row
      rw [hgiven] at hsame
      simp [RowKey.same, sameRow, Value.same_int_of_lt hbelow] at hsame
    | some value =>
      -- the given number is that of the row
      have htyped := typed_fillColumn hlawful hsupplied hcolumn table.nextId
      rw [((hlawful.columns column hcolumn).numbered hauto).1] at htyped
      simp only [fillColumn, hgiven, hauto, if_true] at htyped ⊢
      rw [hgiven, Option.getD_some] at hsame
      have hvalue : value = .int id :=
        Value.eq_int_of_same htyped (by simpa [RowKey.same, sameRow] using hsame)
      rw [hvalue]
      exact idAfter_of_lt hbelow
  · have hnone : ∀ column ∈ table.schema.columns, column.isAutoIncrement = false := by
      simpa using hnumbered
    rw [drafted, fillRow_of_forall_not_numbered table.nextId hnone]

end Table

end Tabula
