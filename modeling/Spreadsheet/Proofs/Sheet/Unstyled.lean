import Spreadsheet.Proofs.Sheet.Cells

/-!
# Grids without their styles

A cell that holds nothing but a style reads as if it were not stored. `Grid.unstyled` drops such
cells and takes all styles off the others. What a grid reads as stays the same by this
(`Grid.raw_unstyled`, `Grid.formula?_unstyled`, `Grid.value_unstyled`), and it commutes with all
that edits do to grids.
-/

namespace Spreadsheet

variable {registry : Registry} {graph : Graph}

/-! ## Cells -/

namespace Cell

variable {c : Cell}

/-- The cell reads as if it were not stored: nothing but a style is in it. -/
def IsBlank (c : Cell) : Prop :=
  c.raw = "" ∧ c.formula = none ∧ c.computed = .null

instance (c : Cell) : Decidable c.IsBlank :=
  inferInstanceAs (Decidable (_ ∧ _ ∧ _))

/-- The cell without its style. -/
def unstyled (c : Cell) : Cell :=
  { c with style := {} }

/-- What is left of a cell without its style. -/
def content? (c : Cell) : Option Cell :=
  if c.IsBlank then none else some c.unstyled

theorem content?_of_isBlank (h : c.IsBlank) : c.content? = none :=
  if_pos h

theorem content?_of_not_isBlank (h : ¬c.IsBlank) : c.content? = some c.unstyled :=
  if_neg h

theorem not_isBlank_of_isSome (h : c.formula.isSome) : ¬c.IsBlank := by
  rintro ⟨-, hformula, -⟩
  simp [hformula] at h

theorem content?_compute {v : Value} (h : c.formula.isSome) :
    (c.compute v).content? = c.content?.map (·.compute v) := by
  have hcomputed : (c.compute v).formula.isSome := h
  rw [content?_of_not_isBlank (not_isBlank_of_isSome h),
    content?_of_not_isBlank (not_isBlank_of_isSome hcomputed)]
  rfl

theorem ofLiteral_ne_null {text : String} : Value.ofLiteral text ≠ .null := by
  unfold Value.ofLiteral
  split <;> simp

/-- An entered cell is not blank: a text that is no formula has a value. -/
theorem not_isBlank_enter {text : String} {v : Value}
    (hv : Formula.isFormula text = false → v = .ofLiteral text) :
    ¬((c.enter text).compute v).IsBlank := by
  rintro ⟨-, hformula, hvalue⟩
  have htext : Formula.isFormula text = false := by simpa [enter, compute] using hformula
  exact ofLiteral_ne_null ((hv htext).symm.trans hvalue)

end Cell

namespace Grid

variable {g : Grid} {a b : Address} {text : String} {cells sources : List Address} {c : Cell}

/-! ## What a grid reads as -/

/-- The grid without its styles and without the cells that hold nothing else. -/
def unstyled (g : Grid) : Grid :=
  g.filterMap fun _ c => c.content?

/-- The address reads as if no cell were stored there. -/
def IsBlankAt (g : Grid) (a : Address) : Prop :=
  g.raw a = "" ∧ g.formula? a = none ∧ g.value a = .null

theorem getElem?_unstyled (g : Grid) (a : Address) :
    g.unstyled[a]? = g[a]?.bind Cell.content? := by
  rw [unstyled, Std.ExtTreeMap.getElem?_filterMap']

theorem getElem?_unstyled_of_some (hc : g[a]? = some c) : g.unstyled[a]? = c.content? := by
  rw [getElem?_unstyled, hc]
  rfl

@[simp] theorem raw_unstyled (g : Grid) (a : Address) : g.unstyled.raw a = g.raw a := by
  unfold raw
  rw [getElem?_unstyled]
  cases g[a]? with
  | none => rfl
  | some c =>
    by_cases hc : c.IsBlank
    · simp [Cell.content?_of_isBlank hc, hc.1]
    · simp [Cell.content?_of_not_isBlank hc, Cell.unstyled]

@[simp] theorem formula?_unstyled (g : Grid) (a : Address) :
    g.unstyled.formula? a = g.formula? a := by
  unfold formula?
  rw [getElem?_unstyled]
  cases g[a]? with
  | none => rfl
  | some c =>
    by_cases hc : c.IsBlank
    · simp [Cell.content?_of_isBlank hc, hc.2.1]
    · simp [Cell.content?_of_not_isBlank hc, Cell.unstyled]

@[simp] theorem value_unstyled (g : Grid) (a : Address) : g.unstyled.value a = g.value a := by
  unfold value
  rw [getElem?_unstyled]
  cases g[a]? with
  | none => rfl
  | some c =>
    by_cases hc : c.IsBlank
    · simp [Cell.content?_of_isBlank hc, hc.2.2]
    · simp [Cell.content?_of_not_isBlank hc, Cell.unstyled]

@[simp] theorem graph_unstyled (g : Grid) : g.unstyled.graph = g.graph :=
  graph_congr (formula?_unstyled g)

theorem isBlankAt_iff_of_some (hc : g[a]? = some c) : g.IsBlankAt a ↔ c.IsBlank := by
  simp [IsBlankAt, Cell.IsBlank, raw, formula?, value, hc]

theorem getElem?_unstyled_eq_none_iff : g.unstyled[a]? = none ↔ g.IsBlankAt a := by
  cases hc : g[a]? with
  | none => simp [getElem?_unstyled, hc, IsBlankAt, raw, formula?, value]
  | some c =>
    rw [isBlankAt_iff_of_some hc, getElem?_unstyled_of_some hc, Cell.content?]
    split <;> simp_all

theorem mem_unstyled_iff : a ∈ g.unstyled ↔ a ∈ g ∧ ¬g.IsBlankAt a := by
  rw [Std.ExtTreeMap.mem_iff_isSome_getElem?, Std.ExtTreeMap.mem_iff_isSome_getElem?,
    ← getElem?_unstyled_eq_none_iff, getElem?_unstyled]
  cases g[a]? with
  | none => simp
  | some c => simp [Option.isSome_iff_ne_none]

/-! ## Taking cells away and moving them -/

theorem unstyled_restrict (g : Grid) (p : Address → Bool) :
    (g.restrict p).unstyled = g.unstyled.restrict p := by
  refine Std.ExtTreeMap.ext_getElem? fun {a} => ?_
  rw [getElem?_unstyled, getElem?_restrict, getElem?_restrict, getElem?_unstyled]
  split <;> rfl

theorem unstyled_relocate (g : Grid) {move : Address → Option Address}
    (hinj : ∀ a b k, move a = some k → move b = some k → a = b) :
    (g.relocate move).unstyled = g.unstyled.relocate move := by
  refine Std.ExtTreeMap.ext_getElem? fun {k} => ?_
  rw [getElem?_unstyled]
  by_cases hk : ∃ a, move a = some k
  · obtain ⟨a, ha⟩ := hk
    rw [getElem?_relocate_of_eq_some hinj ha, getElem?_relocate_of_eq_some hinj ha,
      getElem?_unstyled]
  · have hnone : ∀ a, move a ≠ some k := fun a ha => hk ⟨a, ha⟩
    rw [getElem?_relocate_of_ne hinj hnone, getElem?_relocate_of_ne hinj hnone]
    rfl

/-! ## Writing cells -/

theorem unstyled_insert (hc : ¬c.IsBlank) :
    unstyled (g.insert a c) = g.unstyled.insert a c.unstyled := by
  refine Std.ExtTreeMap.ext_getElem? fun {b} => ?_
  rw [getElem?_unstyled, Std.ExtTreeMap.getElem?_insert, Std.ExtTreeMap.getElem?_insert,
    getElem?_unstyled]
  split
  · exact Cell.content?_of_not_isBlank hc
  · rfl

/-- Writing a blank cell where nothing is. -/
theorem unstyled_insert_of_isBlank (hc : c.IsBlank) (ha : g.IsBlankAt a) :
    unstyled (g.insert a c) = g.unstyled := by
  refine Std.ExtTreeMap.ext_getElem? fun {b} => ?_
  rw [getElem?_unstyled, Std.ExtTreeMap.getElem?_insert]
  split
  · rename_i hab
    obtain rfl : a = b := Std.LawfulEqOrd.eq_of_compare hab
    rw [getElem?_unstyled_eq_none_iff.2 ha]
    exact Cell.content?_of_isBlank hc
  · rw [getElem?_unstyled]

/-- The cell at an address, an empty one if none is stored there. -/
theorem getD_unstyled (g : Grid) (a : Address) : g.unstyled.getD a {} = (g.getD a {}).unstyled := by
  rw [Std.ExtTreeMap.getD_eq_getD_getElem?, Std.ExtTreeMap.getD_eq_getD_getElem?,
    getElem?_unstyled]
  cases g[a]? with
  | none => rfl
  | some c =>
    by_cases hc : c.IsBlank
    · obtain ⟨hraw, hformula, hvalue⟩ := hc
      simp [Cell.content?_of_isBlank ⟨hraw, hformula, hvalue⟩, Cell.unstyled, hraw, hformula,
        hvalue]
    · simp [Cell.content?_of_not_isBlank hc]

theorem unstyled_restyle (g : Grid) (a : Address) (patch : StylePatch) :
    (g.restyle a patch).unstyled = g.unstyled := by
  refine Std.ExtTreeMap.ext_getElem? fun {b} => ?_
  rw [getElem?_unstyled, restyle, Std.ExtTreeMap.getElem?_insert]
  split
  · rename_i hab
    obtain rfl : a = b := Std.LawfulEqOrd.eq_of_compare hab
    rw [getElem?_unstyled, Std.ExtTreeMap.getD_eq_getD_getElem?]
    cases g[a]? <;> rfl
  · rw [getElem?_unstyled]

/-! ## Computing values -/

theorem unstyled_setValue {v : Value} (ha : (g.formula? a).isSome) :
    (g.setValue a v).unstyled = g.unstyled.setValue a v := by
  refine Std.ExtTreeMap.ext_getElem? fun {b} => ?_
  rw [getElem?_unstyled, getElem?_setValue, getElem?_setValue, getElem?_unstyled]
  split
  · rename_i hab
    subst hab
    cases hc : g[a]? with
    | none => rfl
    | some c => exact Cell.content?_compute (formula?_of_getElem? hc ▸ ha)
  · rfl

theorem result_congr {h : Grid} (hgh : ∀ b, g.value b = h.value b) :
    g.result registry graph a text = h.result registry graph a text := by
  rw [result, result, show g.value = h.value from funext hgh]

theorem unstyled_recompute (g : Grid) (a : Address) :
    (g.recompute registry graph a).unstyled = g.unstyled.recompute registry graph a := by
  unfold recompute
  rw [formula?_unstyled]
  cases hf : g.formula? a with
  | none => rfl
  | some f =>
    simp only []
    rw [unstyled_setValue (by rw [hf]; rfl), result_congr (value_unstyled g)]

theorem unstyled_recomputeAll (g : Grid) (cells : List Address) :
    (g.recomputeAll registry graph cells).unstyled =
      g.unstyled.recomputeAll registry graph cells := by
  induction cells generalizing g with
  | nil => rfl
  | cons a cells ih =>
    rw [recomputeAll_cons, recomputeAll_cons, ih, unstyled_recompute]

theorem unstyled_propagate (g : Grid) (sources : List Address) :
    (g.propagate registry sources).unstyled = g.unstyled.propagate registry sources := by
  simp only [propagate, unstyled_recomputeAll, graph_unstyled]

theorem unstyled_recalculate (g : Grid) :
    (g.recalculate registry).unstyled = g.unstyled.recalculate registry := by
  simp only [recalculate, unstyled_recomputeAll, graph_unstyled]

/-! ## Entering a text -/

theorem value_insert (g : Grid) (a b : Address) (c : Cell) :
    Grid.value (g.insert a c) b = if a = b then c.computed else g.value b := by
  unfold value
  rw [Std.ExtTreeMap.getElem?_insert]
  by_cases hab : a = b <;> simp [hab]

theorem formula?_insert (g : Grid) (a b : Address) (c : Cell) :
    Grid.formula? (g.insert a c) b = if a = b then c.formula else g.formula? b := by
  unfold formula?
  rw [Std.ExtTreeMap.getElem?_insert]
  by_cases hab : a = b <;> simp [hab]

theorem unstyled_enterText (g : Grid) (a : Address) (text : String) :
    (g.enterText registry a text).unstyled = g.unstyled.enterText registry a text := by
  let entered : Grid := g.insert a ((g.getD a {}).enter text)
  let entered' : Grid := g.unstyled.insert a ((g.unstyled.getD a {}).enter text)
  have hvalue (b : Address) : entered'.value b = entered.value b := by
    rw [value_insert, value_insert, value_unstyled, getD_unstyled]
    rfl
  have hgraph : entered'.graph = entered.graph := graph_congr fun b => by
    rw [formula?_insert, formula?_insert, formula?_unstyled]
    rfl
  refine Std.ExtTreeMap.ext_getElem? fun {b} => ?_
  rw [getElem?_unstyled]
  by_cases hab : a = b
  · subst hab
    have hcell : (g.enterText registry a text)[a]? = some (((g.getD a {}).enter text).compute
        (entered.result registry entered.graph a text)) := by
      simp [enterText, getElem?_setValue, entered]
    have hcell' : (g.unstyled.enterText registry a text)[a]? =
        some (((g.unstyled.getD a {}).enter text).compute
          (entered'.result registry entered'.graph a text)) := by
      simp [enterText, getElem?_setValue, entered']
    rw [hcell, hcell', hgraph, result_congr hvalue, getD_unstyled]
    exact Cell.content?_of_not_isBlank (Cell.not_isBlank_enter fun h => result_of_not_isFormula h)
  · rw [getElem?_enterText_of_ne hab, getElem?_enterText_of_ne hab, getElem?_unstyled]

/-! ## Writing a block of cells -/

/-- The cells of a block without their styles, those that hold nothing else left out. -/
def unstyledEntries (cells : List (Address × Cell)) : List (Address × Cell) :=
  cells.filterMap fun entry => entry.2.content?.map fun c => (entry.1, c)

variable {entry : Address × Cell} {block : List (Address × Cell)}

theorem unstyledEntries_cons_of_isBlank (h : entry.2.IsBlank) :
    unstyledEntries (entry :: block) = unstyledEntries block := by
  rw [unstyledEntries, List.filterMap_cons_none (by rw [Cell.content?_of_isBlank h]; rfl),
    unstyledEntries]

theorem unstyledEntries_cons_of_not_isBlank (h : ¬entry.2.IsBlank) :
    unstyledEntries (entry :: block) = (entry.1, entry.2.unstyled) :: unstyledEntries block := by
  rw [unstyledEntries, List.filterMap_cons_some (by rw [Cell.content?_of_not_isBlank h]; rfl),
    unstyledEntries]

/-- The places of a block that are written without its styles, too. -/
theorem mem_places_unstyledEntries_iff :
    a ∈ (unstyledEntries block).map Prod.fst ↔ ∃ entry ∈ block, ¬entry.2.IsBlank ∧ entry.1 = a := by
  induction block with
  | nil => simp [unstyledEntries]
  | cons entry block ih =>
    by_cases hb : entry.2.IsBlank
    · simp [unstyledEntries_cons_of_isBlank hb, ih, hb]
    · simp [unstyledEntries_cons_of_not_isBlank hb, ih, hb, eq_comm]

/-- Writing a block of cells, the blank ones where nothing is. -/
theorem unstyled_overwrite {cells : List (Address × Cell)} (hnodup : (cells.map Prod.fst).Nodup)
    (hblank : ∀ entry ∈ cells, entry.2.IsBlank → g.IsBlankAt entry.1) :
    (g.overwrite cells).unstyled = g.unstyled.overwrite (unstyledEntries cells) := by
  induction cells generalizing g with
  | nil => rfl
  | cons entry cells ih =>
    obtain ⟨hentry, hnodup⟩ := List.nodup_cons.1 hnodup
    obtain ⟨hfirst, hblank⟩ := List.forall_mem_cons.1 hblank
    have hrest : ∀ e ∈ cells, e.2.IsBlank → IsBlankAt (g.insert entry.1 entry.2) e.1 := by
      intro e he hb
      have hne : entry.1 ≠ e.1 := fun h => hentry (h ▸ List.mem_map_of_mem he)
      rw [← getElem?_unstyled_eq_none_iff, getElem?_unstyled, Std.ExtTreeMap.getElem?_insert,
        if_neg (by simpa using hne), ← getElem?_unstyled, getElem?_unstyled_eq_none_iff]
      exact hblank e he hb
    rw [overwrite, List.foldl_cons, ← overwrite, ih hnodup hrest]
    by_cases hb : entry.2.IsBlank
    · rw [unstyled_insert_of_isBlank hb (hfirst hb), unstyledEntries_cons_of_isBlank hb]
    · rw [unstyled_insert hb, unstyledEntries_cons_of_not_isBlank hb]
      rfl

theorem unstyled_markCircular (g : Grid) (a : Address) :
    (g.markCircular graph a).unstyled = g.unstyled.markCircular graph a := by
  unfold markCircular
  rw [formula?_unstyled]
  cases hf : g.formula? a with
  | none => rfl
  | some f =>
    simp only []
    split
    · exact unstyled_setValue (by rw [hf]; rfl)
    · rfl

/-- The blank cells of a block need not be looked at for cycles. -/
theorem unstyled_foldl_markCircular {cells : List (Address × Cell)}
    (hblank : ∀ entry ∈ cells, entry.2.IsBlank → g.formula? entry.1 = none) :
    ((cells.map Prod.fst).foldl (markCircular graph) g).unstyled =
      ((unstyledEntries cells).map Prod.fst).foldl (markCircular graph) g.unstyled := by
  induction cells generalizing g with
  | nil => rfl
  | cons entry cells ih =>
    obtain ⟨hfirst, hblank⟩ := List.forall_mem_cons.1 hblank
    rw [List.map_cons, List.foldl_cons, ih (by simpa using hblank), unstyled_markCircular]
    by_cases hb : entry.2.IsBlank
    · rw [unstyledEntries_cons_of_isBlank hb, markCircular, formula?_unstyled, hfirst hb]
    · rw [unstyledEntries_cons_of_not_isBlank hb]
      rfl

/-- Writing a block and marking it. -/
theorem unstyled_withBlock {cells : List (Address × Cell)} (hnodup : (cells.map Prod.fst).Nodup)
    (hblank : ∀ entry ∈ cells, entry.2.IsBlank → g.IsBlankAt entry.1) :
    (g.withBlock cells).unstyled = g.unstyled.withBlock (unstyledEntries cells) := by
  have hwritten : (g.overwrite cells).unstyled = g.unstyled.overwrite (unstyledEntries cells) :=
    unstyled_overwrite hnodup hblank
  rw [withBlock, withBlock, ← hwritten, graph_unstyled]
  refine unstyled_foldl_markCircular fun entry he hb => ?_
  have hstored : (g.overwrite cells)[entry.1]? = some entry.2 := getElem?_overwrite_of_mem hnodup he
  rw [formula?_of_getElem? hstored, hb.2.1]

end Grid

end Spreadsheet
