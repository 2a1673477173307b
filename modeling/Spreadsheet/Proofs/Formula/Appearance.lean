import Spreadsheet.Proofs.Formula.Mention

/-!
# The order of dependencies

The dependencies of a formula are gathered from one code segment after the other, in each segment
from the ranges first and then from the single cells. The order of the text is another one: there a
range behind a single cell comes later.

* `appearances` lists the cells in the order of the text.
* `comesBefore_segmentCells_iff`: within a segment both orders are the same unless a range overtakes
  a cell that first stands by itself.
* `comesBefore_dependencies_iff`: which formulas have their dependencies in the order of the text.
-/

namespace Spreadsheet.Formula

variable {a b c d : Address} {found before after : List Mention} {shown : List Address}

/-! ## The two orders -/

/-- The cells of the ranges among some mentions. -/
def rangeCells (found : List Mention) : List Address :=
  (found.filter Mention.isRange).flatMap Mention.cells

/-- The cells that stand by themselves among some mentions. -/
def singleCells (found : List Mention) : List Address :=
  (found.filter (!·.isRange)).flatMap Mention.cells

/-- The cells that a code segment mentions, in the order of the text. -/
def segmentAppearances (code : List Char) : List Address :=
  (mentions (Text.pieces code)).flatMap Mention.cells

/-- The cells that a text mentions outside string literals, in the order of the text. A range stands
for its cells at its place. -/
def appearances (text : String) : List Address :=
  (codeMentions text.toList).flatMap Mention.cells

theorem segmentCells_eq (code : List Char) :
    segmentCells code =
      rangeCells (mentions (Text.pieces code)) ++ singleCells (mentions (Text.pieces code)) :=
  List.flatMap_append ..

theorem appearances_eq (text : String) :
    appearances text = (codeSegments text.toList).flatMap segmentAppearances := by
  rw [appearances, codeMentions, List.flatMap_assoc]
  rfl

theorem rangeCells_append (before after : List Mention) :
    rangeCells (before ++ after) = rangeCells before ++ rangeCells after := by
  rw [rangeCells, List.filter_append, List.flatMap_append, rangeCells, rangeCells]

theorem singleCells_append (before after : List Mention) :
    singleCells (before ++ after) = singleCells before ++ singleCells after := by
  rw [singleCells, List.filter_append, List.flatMap_append, singleCells, singleCells]

theorem rangeCells_range (first last : List Char) (after : List Mention) :
    rangeCells (.range first last :: after) =
      (Mention.range first last).cells ++ rangeCells after := by
  rfl

theorem mem_rangeCells_append_singleCells :
    c ∈ rangeCells found ++ singleCells found ↔ c ∈ found.flatMap Mention.cells := by
  simp only [rangeCells, singleCells, List.mem_append, List.mem_flatMap, List.mem_filter]
  constructor
  · rintro (⟨m, hm, hc⟩ | ⟨m, hm, hc⟩)
    · exact ⟨m, hm.1, hc⟩
    · exact ⟨m, hm.1, hc⟩
  · rintro ⟨m, hm, hc⟩
    cases hrange : m.isRange with
    | true => exact .inl ⟨m, ⟨hm, hrange⟩, hc⟩
    | false => exact .inr ⟨m, ⟨hm, by simp [hrange]⟩, hc⟩

theorem notMem_rangeCells (hc : c ∉ found.flatMap Mention.cells) : c ∉ rangeCells found :=
  fun h => hc (mem_rangeCells_append_singleCells.1 (List.mem_append_left _ h))

theorem notMem_singleCells (hc : c ∉ found.flatMap Mention.cells) : c ∉ singleCells found :=
  fun h => hc (mem_rangeCells_append_singleCells.1 (List.mem_append_right _ h))

/-! ## One segment -/

/-- No range overtakes a cell that first stands by itself: all that the ranges behind the cell list
before they come to the cell has already appeared, in the cells `shown` by earlier segments or in
front of the cell. -/
def NoneOvertaken (shown : List Address) (found : List Mention) : Prop :=
  ∀ before label after, found = before ++ .cell label :: after →
    ∀ c ∈ Address.ofLabel? label, c ∉ shown ++ before.flatMap Mention.cells →
      ∀ d, ComesBefore (rangeCells after) d c → d ∈ shown ++ before.flatMap Mention.cells

/-- What comes first in the text is listed first if no cell is overtaken. -/
theorem NoneOvertaken.comesBefore (h : NoneOvertaken shown found) (ha : a ∉ shown) (hb : b ∉ shown)
    (hab : ComesBefore (found.flatMap Mention.cells) a b) :
    ComesBefore (rangeCells found ++ singleCells found) a b := by
  obtain ⟨before, m, after, hfound, habefore, hbbefore, hm⟩ := comesBefore_flatMap_iff.1 hab
  cases m with
  | range first last =>
    rw [hfound, rangeCells_append, List.append_assoc,
      comesBefore_append_of_notMem (notMem_rangeCells habefore) (notMem_rangeCells hbbefore),
      rangeCells_range, List.append_assoc, comesBefore_append]
    exact .inl hm
  | cell label =>
    have hlabel : Address.ofLabel? label = some a := Option.mem_toList.1 hm.mem
    have hrange : rangeCells found = rangeCells before ++ rangeCells after := by
      rw [hfound, rangeCells_append]
      rfl
    have hsingle : singleCells found = singleCells before ++ ([a] ++ singleCells after) := by
      rw [hfound, singleCells_append]
      simp [singleCells, Mention.isRange, Mention.cells, hlabel]
    rw [hrange, hsingle, List.append_assoc,
      comesBefore_append_of_notMem (notMem_rangeCells habefore) (notMem_rangeCells hbbefore),
      comesBefore_append]
    by_cases hrest : b ∈ rangeCells after
    · refine .inl ((comesBefore_or hrest hm.ne.symm).resolve_left fun hba => ?_)
      -- a new cell that the ranges bring before `a` would overtake it
      have hmem := h before label after hfound a hlabel (by simp [ha, habefore]) b hba
      exact (List.mem_append.1 hmem).elim hb hbbefore
    · refine .inr ⟨hrest, ?_⟩
      rw [comesBefore_append_of_notMem (notMem_singleCells habefore) (notMem_singleCells hbbefore),
        comesBefore_append, comesBefore_singleton]
      exact .inl ⟨hm.ne, rfl⟩

/-- Among cells that are new in a segment, the order of the text is that of the list if and only if
no cell is overtaken. -/
theorem comesBefore_segmentCells_iff :
    (∀ a ∉ shown, ∀ b ∉ shown, (ComesBefore (rangeCells found ++ singleCells found) a b ↔
      ComesBefore (found.flatMap Mention.cells) a b)) ↔ NoneOvertaken shown found := by
  constructor
  · rintro h before label after rfl c hc hnew d hd
    by_contra hdnew
    rw [List.mem_append, not_or] at hnew hdnew
    have htext : ComesBefore ((before ++ .cell label :: after).flatMap Mention.cells) c d := by
      rw [List.flatMap_append, comesBefore_append_of_notMem hnew.2 hdnew.2, List.flatMap_cons,
        Mention.cells, Option.mem_def.1 hc, Option.toList_some, List.singleton_append,
        comesBefore_cons]
      exact ⟨hd.ne.symm, .inl rfl⟩
    have hlist : ComesBefore (rangeCells (before ++ .cell label :: after) ++
        singleCells (before ++ .cell label :: after)) d c := by
      rw [rangeCells_append, List.append_assoc, comesBefore_append_of_notMem
        (notMem_rangeCells hdnew.2) (notMem_rangeCells hnew.2), comesBefore_append]
      exact .inl hd
    exact hlist.asymm ((h c hnew.1 d hdnew.1).2 htext)
  · intro h a ha b hb
    refine ⟨fun hab => ?_, h.comesBefore ha hb⟩
    have hmem := mem_rangeCells_append_singleCells.1 hab.mem
    refine (comesBefore_or hmem hab.ne).resolve_right fun hba => ?_
    exact hab.asymm (h.comesBefore hb ha hba)

/-! ## The whole text -/

/-- No range of a text overtakes a cell of its code segment. -/
def IsInOrder (text : String) : Prop :=
  ∀ before code after, codeSegments text.toList = before ++ code :: after →
    NoneOvertaken (before.flatMap segmentAppearances) (mentions (Text.pieces code))

/-- **The dependencies of a formula** are the cells that appear in its text, each once. They come in
the order of the text if and only if no range overtakes a cell that first stands by itself in the
same code segment. -/
theorem comesBefore_dependencies_iff (text : String) :
    (dependencies text).Nodup ∧ (∀ a, a ∈ dependencies text ↔ a ∈ appearances text) ∧
      ((∀ a ∈ dependencies text, ∀ b ∈ dependencies text,
        (ComesBefore (dependencies text) a b ↔ ComesBefore (appearances text) a b)) ↔
          IsInOrder text) := by
  have hmem (a : Address) : a ∈ dependencies text ↔ a ∈ appearances text := by
    rw [mem_dependencies_iff, appearances, List.mem_flatMap]
  have hsegment (code : List Char) (c : Address) :
      c ∈ segmentCells code ↔ c ∈ segmentAppearances code := by
    rw [segmentCells_eq, mem_rangeCells_append_singleCells, segmentAppearances]
  refine ⟨Address.nodup_distinct _, hmem, ?_⟩
  rw [forall_mem_comesBefore_iff hmem]
  simp only [dependencies, Address.comesBefore_distinct_iff, appearances_eq,
    comesBefore_flatMap_congr_iff hsegment, segmentCells_eq]
  exact forall_congr' fun before => forall_congr' fun code => forall_congr' fun after =>
    forall_congr' fun _ => comesBefore_segmentCells_iff

/-- The cells of a range are listed before a cell that stands in front of the range. -/
theorem not_comesBefore_dependencies :
    ¬∀ a ∈ dependencies "=C1+A1:A3", ∀ b ∈ dependencies "=C1+A1:A3",
      (ComesBefore (dependencies "=C1+A1:A3") a b ↔ ComesBefore (appearances "=C1+A1:A3") a b) := by
  decide +kernel

/-- Behind the range a cell comes later in both orders. -/
example : dependencies "=A1:A3+C1" = appearances "=A1:A3+C1" := by
  decide +kernel

end Spreadsheet.Formula
