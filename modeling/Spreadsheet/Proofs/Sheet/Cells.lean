import Spreadsheet.Proofs.Sheet.History

/-!
# What edits do to cells one by one

An edit writes, moves, drops and recomputes cells, each by itself. A property that a cell keeps
when a text is entered in it, when its style changes and when its formula is evaluated holds of all
cells after every edit but a replacement, which has to be looked at on its own
(`Sheet.CellsSatisfy.effect`).

* `Sheet.CellsSatisfy` says that all cells of a sheet have a property, those on its clipboard
  included.
* `Cell.IsKept` collects what is asked of the property.
-/

namespace Spreadsheet

variable {registry : Registry} {P Q : Cell → Prop}

/-- A property of cells that is kept by what an edit does to a cell, replacements apart. -/
structure Cell.IsKept (P : Cell → Prop) : Prop where
  blank : P {}
  enter : ∀ c text v, P c → (Formula.isFormula text = false → v = .ofLiteral text) →
    P ((c.enter text).compute v)
  restyle : ∀ c style, P c → P { c with style := style }
  valueFree : Grid.IsValueFree P

namespace Grid.CellsSatisfy

variable {g : Grid} {a : Address} {graph : Graph}

theorem insert (hg : g.CellsSatisfy P) {c : Cell} (hc : P c) : CellsSatisfy P (g.insert a c) := by
  intro b d hd
  rw [Std.ExtTreeMap.getElem?_insert] at hd
  split at hd
  · obtain rfl := Option.some.inj hd
    exact hc
  · exact hg b d hd

theorem restrict (hg : g.CellsSatisfy P) (p : Address → Bool) :
    (g.restrict p).CellsSatisfy P := by
  intro b d hd
  rw [getElem?_restrict] at hd
  split at hd
  · exact hg b d hd
  · cases hd

theorem relocate (hg : g.CellsSatisfy P) {move : Address → Option Address}
    (hinj : ∀ a b k, move a = some k → move b = some k → a = b) :
    (g.relocate move).CellsSatisfy P := by
  intro k d hd
  obtain ⟨a, -, ha⟩ := (getElem?_relocate g hinj).1 hd
  exact hg a d ha

theorem overwrite (hg : g.CellsSatisfy P) {cells : List (Address × Cell)}
    (hcells : ∀ a c, (a, c) ∈ cells → P c) : (g.overwrite cells).CellsSatisfy P := by
  intro b d hd
  rcases getElem?_overwrite hd with hold | hnew
  · exact hg b d hold
  · exact hcells b d hnew

theorem markCircular (hP : IsValueFree P) (hg : g.CellsSatisfy P) (a : Address) :
    (g.markCircular graph a).CellsSatisfy P := by
  unfold Grid.markCircular
  split
  · rename_i f hf
    split
    · exact hg.setValue hP (by rw [hf]; rfl)
    · exact hg
  · exact hg

theorem foldl_markCircular (hP : IsValueFree P) (hg : g.CellsSatisfy P) (places : List Address) :
    (places.foldl (Grid.markCircular graph) g).CellsSatisfy P := by
  induction places generalizing g with
  | nil => exact hg
  | cons a places ih => exact ih (hg.markCircular hP a)

end Grid.CellsSatisfy

namespace Sheet

variable {s s' : Sheet} {g : Grid} {a b : Address} {sources : List Address}

/-- Every cell of the sheet and of its clipboard satisfies `P`. -/
structure CellsSatisfy (P : Cell → Prop) (s : Sheet) : Prop where
  grid : s.grid.CellsSatisfy P
  clipboard : ∀ c, s.clipboard = some c → c.cells.CellsSatisfy P

theorem cellsSatisfy_of_new {config : Config} (h : Sheet.new config registry = .ok s) :
    s.CellsSatisfy P := by
  obtain ⟨_, -, rfl⟩ := Except.map_eq_ok_iff.1 h
  refine ⟨fun a c hc => ?_, fun c hc => ?_⟩
  · simp [blank] at hc
  · cases hc

namespace CellsSatisfy

theorem mono (h : s.CellsSatisfy P) (hPQ : ∀ c, P c → Q c) : s.CellsSatisfy Q :=
  ⟨h.grid.mono hPQ, fun c hc => (h.clipboard c hc).mono hPQ⟩

theorem settle (hP : Cell.IsKept P) (h : s.CellsSatisfy P) (hg : g.CellsSatisfy P) :
    (s.settle g sources).CellsSatisfy P :=
  ⟨hg.propagate hP.valueFree, h.clipboard⟩

theorem recalculate (hP : Cell.IsKept P) (h : s.CellsSatisfy P) : s.recalculate.CellsSatisfy P :=
  ⟨h.grid.recomputeAll hP.valueFree, h.clipboard⟩

theorem enter (hP : Cell.IsKept P) (h : s.CellsSatisfy P) (a : Address) (text : String) :
    (s.enter a text).CellsSatisfy P :=
  h.settle hP (h.grid.enterText fun v hv => hP.enter _ _ v (h.grid.getD hP.blank a) hv)

theorem restyle (hP : Cell.IsKept P) (h : s.CellsSatisfy P) (a : Address) (patch : StylePatch) :
    (s.restyle a patch).CellsSatisfy P :=
  ⟨h.grid.insert (hP.restyle _ _ (h.grid.getD hP.blank a)), h.clipboard⟩

theorem erase (hP : Cell.IsKept P) (h : s.CellsSatisfy P) (a : Address) :
    (s.erase a).CellsSatisfy P := by
  rw [Sheet.erase]
  split
  · exact h.settle hP (h.grid.erase a)
  · exact h

theorem copy (h : s.CellsSatisfy P) (a b : Address) :
    CellsSatisfy P { s with clipboard := some (.snapshot s.grid a b) } where
  grid := h.grid
  clipboard c hc := by
    cases hc
    exact h.grid.restrict _

theorem take (hP : Cell.IsKept P) (h : s.CellsSatisfy P) (a b : Address) :
    (s.take a b).CellsSatisfy P :=
  (h.copy a b).settle hP (h.grid.restrict _)

theorem paste (hP : Cell.IsKept P) (h : s.CellsSatisfy P) {c : Clipboard}
    (hc : s.clipboard = some c) (target : Address) :
    (s.place (c.placed target)).CellsSatisfy P := by
  refine h.settle hP ((h.grid.overwrite fun a d hd => ?_).foldl_markCircular hP.valueFree _)
  obtain ⟨b, -, hb⟩ := Clipboard.mem_placed_iff.1 hd
  exact h.clipboard c hc b d hb

theorem withSizes (h : s.CellsSatisfy P) (axis : Axis) (sizes : Sizes) :
    (s.withSizes axis sizes).CellsSatisfy P := by
  cases axis <;> exact ⟨h.grid, h.clipboard⟩

theorem insertLine (hP : Cell.IsKept P) (h : s.CellsSatisfy P) (axis : Axis) (i : Coord) :
    (s.insertLine axis i).CellsSatisfy P := by
  have hmoved := h.grid.relocate (@Axis.makeRoom_injective axis i)
  cases axis <;> exact recalculate hP ⟨hmoved, h.clipboard⟩

theorem deleteLine (hP : Cell.IsKept P) (h : s.CellsSatisfy P) (axis : Axis) (i : Coord) :
    (s.deleteLine axis i).CellsSatisfy P := by
  have hmoved := h.grid.relocate (@Axis.closeUp_injective axis i)
  cases axis <;> exact recalculate hP ⟨hmoved, h.clipboard⟩

/-- A replacement changes the cells whose text holds what is replaced. -/
theorem replaceWithin (hP : Cell.IsKept P) (h : s.CellsSatisfy Q) (hQP : ∀ c, Q c → P c)
    {find new : String} (hreplace : ∀ c, Q c → Text.occurs find.toList c.raw.toList = true →
      P (replaceCell find new c)) (r : Range) : (s.replaceWithin r find new).CellsSatisfy P := by
  refine (h.mono hQP).settle hP fun a d hd => ?_
  rw [Std.ExtTreeMap.getElem?_map, Option.map_eq_some_iff] at hd
  obtain ⟨c, hc, rfl⟩ := hd
  have hQ : Q c := h.grid a c hc
  split
  · rename_i haffected
    exact hreplace c hQ (Bool.and_eq_true_iff.1 haffected).2
  · exact hQP c hQ

/-- **All cells have a property after an edit** that keeps it, if it follows from the property that
they had before. Of a replacement this is asked on its own. -/
theorem effect (hP : Cell.IsKept P) (h : s.CellsSatisfy Q) (hQP : ∀ c, Q c → P c) {e : Edit}
    (hreplace : ∀ first last find new, e = .replace first last find new → find.isEmpty = false →
      ∀ c, Q c → Text.occurs find.toList c.raw.toList = true → P (replaceCell find new c))
    (heffect : e.Effect s s') : s'.CellsSatisfy P := by
  have hs : s.CellsSatisfy P := h.mono hQP
  cases heffect with
  | setText => exact hs.enter hP _ _
  | setStyle => exact hs.restyle hP _ _
  | clear => exact hs.erase hP _
  | insert => exact hs.insertLine hP _ _
  | delete => exact hs.deleteLine hP _ _
  | copy => exact hs.copy _ _
  | cut => exact hs.take hP _ _
  | paste _ hc => exact hs.paste hP hc _
  | removeDuplicates => exact hs.settle hP (hs.grid.restrict _)
  | replaceNothing => exact hs
  | replace _ hfind => exact h.replaceWithin hP hQP (hreplace _ _ _ _ rfl hfind) _
  | setSize => exact hs.withSizes _ _
  | register => exact ⟨hs.grid, hs.clipboard⟩
  | recalculate => exact hs.recalculate hP

end CellsSatisfy

end Sheet

end Spreadsheet
