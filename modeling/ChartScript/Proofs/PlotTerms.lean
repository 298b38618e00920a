import ChartScript.Plot

/-!
# The terms of a plot command

`Chart.terms` lists the terms set by set, a header and then the groups.  Everything that is said
about plot commands is about the term of a certain set and group, so its place has to be known: with
`G` groups every set takes `G + 1` places, the header of set `s` stands at `s * (G + 1)` and group
`g` of it at `s * (G + 1) + 1 + g`.  `terms_header` and `terms_group` say so and are used as the
definition from then on; the list is not taken apart anywhere else.

`Term.columns` lists the columns that a term names.  A term has a column and perhaps that of the
errors, and the two are written in one place and compared in another; a list makes both cases one.
Headers are counted in `countP_isHeader_terms`, since the number of sets that the command starts is
the number of headers in it, not a number that it states.
-/

set_option autoImplicit false

namespace ChartScript

namespace Term

/-- The columns of the data block that a term names, that of the values first. -/
def columns : Term → List Nat
  | .header .. => []
  | .group _ _ column errorColumn _ _ _ => column :: errorColumn.toList

/-- Whether a term starts a set. -/
def isHeader : Term → Bool
  | .header .. => true
  | .group .. => false

end Term

/-! ## Places -/

theorem length_flatMap_range {α : Type} {f : Nat → List α} {k : Nat}
    (hlength : ∀ s, (f s).length = k) (n : Nat) : ((List.range n).flatMap f).length = n * k := by
  induction n with
  | zero => simp
  | succ n ih =>
    rw [List.range_succ, List.flatMap_append, List.length_append, ih, List.flatMap_singleton,
      hlength, Nat.succ_mul]

/-- In lists of equal length put one after the other, the places of each list follow those of the
lists before it. -/
theorem getElem?_flatMap_range {α : Type} {f : Nat → List α} {k : Nat}
    (hlength : ∀ s, (f s).length = k) {n s i : Nat} (hs : s < n) (hi : i < k) :
    ((List.range n).flatMap f)[s * k + i]? = (f s)[i]? := by
  induction n with
  | zero => exact absurd hs (by omega)
  | succ n ih =>
    rw [List.range_succ, List.flatMap_append, List.flatMap_singleton]
    rcases Nat.lt_or_eq_of_le (Nat.le_of_lt_succ hs) with hlt | rfl
    · have hbound : s * k + i < n * k := by
        have hstep : (s + 1) * k ≤ n * k := Nat.mul_le_mul_right k hlt
        rw [Nat.succ_mul] at hstep
        omega
      rw [List.getElem?_append_left (by rwa [length_flatMap_range hlength]), ih hlt]
    · rw [List.getElem?_append_right (by rw [length_flatMap_range hlength]; omega),
        length_flatMap_range hlength, Nat.add_sub_cancel_left]

namespace Chart

theorem setCount_pos (c : Chart) : 0 < c.setCount := by
  rw [setCount]
  split
  · exact Nat.one_pos
  · next h => exact List.length_pos_iff.mpr (by simpa using h)

theorem length_setTerms (c : Chart) (set : Nat) :
    (c.setTerms set).length = c.grouping.groupCount + 1 := by
  simp [setTerms]

theorem length_terms (c : Chart) : c.terms.length = c.setCount * (c.grouping.groupCount + 1) :=
  length_flatMap_range c.length_setTerms c.setCount

/-- The header of a set comes first of its terms. -/
theorem terms_header (c : Chart) {s : Nat} (hs : s < c.setCount) :
    c.terms[s * (c.grouping.groupCount + 1)]? = some (c.header s) := by
  have h := getElem?_flatMap_range c.length_setTerms hs (Nat.succ_pos c.grouping.groupCount)
  rw [Nat.add_zero] at h
  rw [terms, h]
  rfl

/-- The groups of a set come after its header, in order. -/
theorem terms_group (c : Chart) {s g : Nat} (hs : s < c.setCount)
    (hg : g < c.grouping.groupCount) :
    c.terms[s * (c.grouping.groupCount + 1) + 1 + g]? = some (c.groupTerm s g) := by
  have hplace : 1 + g < c.grouping.groupCount + 1 := by omega
  rw [terms, Nat.add_assoc, getElem?_flatMap_range c.length_setTerms hs hplace, setTerms,
    Nat.add_comm 1 g, List.getElem?_cons_succ]
  simp [hg]

theorem eq_groupTerm (c : Chart) {s g : Nat} {term : Term} (hs : s < c.setCount)
    (hg : g < c.grouping.groupCount)
    (h : c.terms[s * (c.grouping.groupCount + 1) + 1 + g]? = some term) :
    term = c.groupTerm s g :=
  Option.some_inj.mp (h.symm.trans (c.terms_group hs hg))

theorem countP_isHeader_setTerms (c : Chart) (set : Nat) :
    (c.setTerms set).countP Term.isHeader = 1 := by
  have hgroups :
      ((List.range c.grouping.groupCount).map (c.groupTerm set)).countP Term.isHeader = 0 := by
    rw [List.countP_map, List.countP_eq_zero]
    intro g _
    simp [groupTerm, Term.isHeader]
  rw [setTerms, List.countP_cons, hgroups]
  rfl

/-- The plot command starts as many sets as the chart has. -/
theorem countP_isHeader_terms (c : Chart) : c.terms.countP Term.isHeader = c.setCount := by
  have h : ∀ n, ((List.range n).flatMap c.setTerms).countP Term.isHeader = n := by
    intro n
    induction n with
    | zero => rfl
    | succ n ih =>
      rw [List.range_succ, List.flatMap_append, List.countP_append, ih, List.flatMap_singleton,
        countP_isHeader_setTerms]
  exact h c.setCount

/-! ## Columns -/

/-- With error bars a group takes two columns, otherwise one. -/
theorem columns_groupTerm (c : Chart) (s g : Nat) :
    (c.groupTerm s g).columns = if c.errorBars then [2 + 2 * g, 3 + 2 * g] else [2 + g] := by
  rw [groupTerm, Term.columns, groupColumn, columnStep]
  cases c.errorBars with
  | true => simp; omega
  | false => simp

end Chart
end ChartScript
