import Mathlib.Data.List.Basic
import Spreadsheet.Formula.Evaluation
import Spreadsheet.Proofs.Formula.Mention
import Spreadsheet.Proofs.Range

/-!
# Covered formulas

A formula is covered when its value depends on nothing but the cells that are extracted as its
dependencies. Literals, ranges and references to single cells always are. An expression is covered
unless it mentions a range that does not stand for the cells at both of its ends:

* `Formula.isCovered_iff_references`: an expression is covered if and only if its references are
  among its dependencies.
* `Formula.isCovered_expression_iff`: only loose ranges can violate this, those with an end that
  names no cell and those that are too large to stand for all of their cells.
-/

namespace Spreadsheet.Formula

open Text

variable {registry : Registry} {text : String} {cells cells' : Cells} {a b : Address}

/-- A text is covered when its value depends on nothing but its dependencies. -/
def IsCovered (registry : Registry) (text : String) : Prop :=
  ∀ cells cells' : Cells, (∀ a ∈ dependencies text, cells a = cells' a) →
    evaluate registry cells text = evaluate registry cells' text

/-! ## The form of an entry -/

/-- An entry is no formula or has the form of what follows its equals sign. -/
theorem Entry.ofText_cases (text : String) :
    Entry.ofText text = .literal text ∨
      ∃ body, text.toList = '=' :: body ∧ Entry.ofText text = .ofBody body := by
  unfold Entry.ofText
  split
  · rename_i body h
    exact .inr ⟨body, h, rfl⟩
  · exact .inl rfl

theorem exists_of_reference (h : Entry.ofText text = .reference a) :
    ∃ body, text.toList = '=' :: body ∧ Address.ofLabel? body = some a := by
  rcases Entry.ofText_cases text with hliteral | ⟨body, htext, hbody⟩
  · rw [hliteral] at h
    cases h
  · refine ⟨body, htext, ?_⟩
    rw [hbody, Entry.ofBody] at h
    split at h
    · split at h
      · cases h
        assumption
      · cases h
    · split at h
      · cases h
      · split at h <;> cases h

theorem toList_of_expression {body : String} (h : Entry.ofText text = .expression body) :
    text.toList = '=' :: body.toList := by
  rcases Entry.ofText_cases text with hliteral | ⟨body', htext, hbody⟩
  · rw [hliteral] at h
    cases h
  · rw [hbody, Entry.ofBody] at h
    split at h
    · split at h <;> cases h
    · split at h
      · cases h
      · split at h
        · cases h
        · cases h
          rw [htext, String.toList_ofList]

/-- The equals sign mentions nothing. -/
theorem mem_dependencies_iff_of_toList {body : List Char} (htext : text.toList = '=' :: body) :
    a ∈ dependencies text ↔ ∃ m ∈ codeMentions body, a ∈ m.cells := by
  rw [mem_dependencies_iff, htext, codeMentions_cons (by decide) (by decide)]

/-! ## Single cells -/

theorem mem_dependencies_of_reference (h : Entry.ofText text = .reference a) :
    a ∈ dependencies text := by
  obtain ⟨body, htext, hbody⟩ := exists_of_reference h
  have hshape := Address.isLabelShaped_of_ofLabel? hbody
  have hcode : ∀ c ∈ body, c ≠ '"' := by
    rintro c hc rfl
    exact absurd (Address.isAlphanum_of_mem hshape hc) (by decide)
  rw [mem_dependencies_iff_of_toList htext, codeMentions_of_code hcode,
    mentions_pieces_label hshape]
  exact ⟨_, List.mem_singleton_self _, by simp [Mention.cells, hbody]⟩

/-- A reference to a single cell is covered. -/
theorem isCovered_of_reference (h : Entry.ofText text = .reference a) :
    IsCovered registry text := by
  intro cells cells' hcells
  rw [evaluate, evaluate, h]
  exact hcells a (mem_dependencies_of_reference h)

/-! ## Expressions -/

theorem mem_references_of_segment {body code word : List Char} (hcode : .code code ∈ segments body)
    (hword : word ∈ pieces code) (ha : Address.ofLabel? word = some a) : a ∈ references body := by
  rw [references, List.mem_flatMap]
  exact ⟨code, List.mem_filterMap.2 ⟨_, hcode, rfl⟩, List.mem_filterMap.2 ⟨word, hword, ha⟩⟩

/-- The text after substitution depends on the references only. -/
theorem substitute_congr {body : List Char} (h : ∀ a ∈ references body, cells a = cells' a) :
    substitute cells body = substitute cells' body := by
  refine List.flatMap_congr fun s hs => ?_
  cases s with
  | literal text => rfl
  | code code =>
    refine List.flatMap_congr fun word hword => ?_
    rw [substituteWord, substituteWord]
    cases ha : Address.ofLabel? word with
    | none => rfl
    | some a => simp only [h a (mem_references_of_segment hs hword ha)]

/-- What an expression comes to depends on its references only. -/
theorem expressionValue_congr {body : List Char} (h : ∀ a ∈ references body, cells a = cells' a) :
    expressionValue cells body = expressionValue cells' body := by
  have hobstacle : ((references body).findSome? fun a => obstacle? (cells a)) =
      (references body).findSome? fun a => obstacle? (cells' a) := by
    have hmap := congrArg (List.findSome? obstacle?) (List.map_congr_left h)
    rwa [List.findSome?_map, List.findSome?_map] at hmap
  rw [expressionValue, expressionValue, hobstacle, substitute_congr h]

/-- An expression has the error of its only reference whose value cannot stand in it. -/
theorem expressionValue_of_obstacle {body : List Char} {e : CellError} (ha : a ∈ references body)
    (hobstacle : obstacle? (cells a) = some e)
    (hrest : ∀ b ∈ references body, b ≠ a → obstacle? (cells b) = none) :
    expressionValue cells body = .error e := by
  have hfound : ((references body).findSome? fun b => obstacle? (cells b)) = some e := by
    cases hsome : (references body).findSome? fun b => obstacle? (cells b) with
    | none =>
      rw [List.findSome?_eq_none_iff.1 hsome a ha] at hobstacle
      cases hobstacle
    | some e' =>
      obtain ⟨b, hb, he'⟩ := List.exists_of_findSome?_eq_some hsome
      by_cases hba : b = a
      · rwa [← he', hba]
      · rw [hrest b hb hba] at he'
        cases he'
  rw [expressionValue, hfound]

/-- An expression is covered if and only if its references are among its dependencies. -/
theorem isCovered_iff_references {body : String} (h : Entry.ofText text = .expression body) :
    IsCovered registry text ↔ ∀ a ∈ references body.toList, a ∈ dependencies text := by
  constructor
  · intro hcovered a ha
    by_contra hdep
    -- only the value of one cell differs, and it decides what the expression comes to
    let cells (v : Value) : Cells := fun b => if b = a then v else .text ""
    have hvalue (v : Value) (e : CellError) (hv : obstacle? v = some e) :
        evaluate registry (cells v) text = .error e := by
      rw [evaluate, h]
      refine expressionValue_of_obstacle ha (by simpa [cells] using hv) fun b _ hb => ?_
      simp [cells, hb, obstacle?]
    have hagree : ∀ b ∈ dependencies text, cells .null b = cells (.error .circular) b := by
      intro b hb
      have hba : b ≠ a := fun hba => hdep (hba ▸ hb)
      simp [cells, hba]
    have heq := hcovered _ _ hagree
    rw [hvalue .null .reference rfl, hvalue (.error .circular) .circular rfl] at heq
    cases heq
  · intro hreferences cells cells' hcells
    rw [evaluate, evaluate, h]
    exact expressionValue_congr fun a ha => hcells a (hreferences a ha)

/-! ## Loose ranges -/

namespace Mention

/-- Whether a mention is a range that does not stand for the cells at both of its ends: an end
names no cell, or there are too many cells between them. -/
def isLoose : Mention → Bool
  | cell _ => false
  | range first last =>
    match Address.ofLabel? first, Address.ofLabel? last with
    | some a, some b => (Range.between a b).expansion?.isNone
    | _, _ => true

/-- Other mentions stand for the cells whose labels they are made of. -/
theorem mem_cells_of_named {m : Mention} (hm : m.isLoose = false) (ha : a ∈ m.named) :
    a ∈ m.cells := by
  cases m with
  | cell label => exact ha
  | range first last =>
    cases hfirst : Address.ofLabel? first with
    | none => simp [isLoose, hfirst] at hm
    | some b =>
      cases hlast : Address.ofLabel? last with
      | none => simp [isLoose, hfirst, hlast] at hm
      | some c =>
        simp only [isLoose, hfirst, hlast, Range.expansion?] at hm
        simp only [cells, hfirst, hlast, Range.expansion?]
        split at hm
        · rename_i hsize
          rw [if_pos hsize, Option.getD_some, Range.mem_cells_iff]
          simp only [named, hfirst, hlast, Option.toList_some, List.singleton_append, List.mem_cons,
            List.not_mem_nil, or_false] at ha
          rcases ha with rfl | rfl
          · exact Range.contains_between_left
          · exact Range.contains_between_right
        · simp at hm

end Mention

/-- **Which expressions are covered**: those in which every cell at an end of a loose range is
extracted for the sake of some other mention. -/
theorem isCovered_expression_iff {body : String} (h : Entry.ofText text = .expression body) :
    IsCovered registry text ↔
      ∀ m ∈ codeMentions body.toList, m.isLoose = true → ∀ a ∈ m.named, a ∈ dependencies text := by
  rw [isCovered_iff_references h, references_eq]
  constructor
  · intro hreferences m hm _ a ha
    exact hreferences a (List.mem_flatMap.2 ⟨m, hm, ha⟩)
  · intro hloose a ha
    obtain ⟨m, hm, ham⟩ := List.mem_flatMap.1 ha
    cases hml : m.isLoose with
    | true => exact hloose m hm hml a ham
    | false =>
      rw [mem_dependencies_iff_of_toList (toList_of_expression h)]
      exact ⟨m, hm, Mention.mem_cells_of_named hml ham⟩

/-- A loose range is harmless if the cell at its end is mentioned elsewhere. -/
theorem isCovered_mentioned_end :
    Entry.ofText "=A1:B0+A1" = .expression "A1:B0+A1" ∧ IsCovered .empty "=A1:B0+A1" := by
  have hexpression : Entry.ofText "=A1:B0+A1" = .expression "A1:B0+A1" := by decide +kernel
  exact ⟨hexpression, (isCovered_expression_iff hexpression).2 (by decide +kernel)⟩

/-- The cell at one end of a range whose other end names no cell is read without being extracted,
and so are the ends of a range that is too large, unless they are its first and its last cell. -/
theorem not_isCovered_loose_ends :
    (Entry.ofText "=A1:B0+1" = .expression "A1:B0+1" ∧ ¬IsCovered .empty "=A1:B0+1") ∧
      Entry.ofText "=A1000001:B1+1" = .expression "A1000001:B1+1" ∧
        ¬IsCovered .empty "=A1000001:B1+1" := by
  have hhalf : Entry.ofText "=A1:B0+1" = .expression "A1:B0+1" := by decide +kernel
  have hlarge : Entry.ofText "=A1000001:B1+1" = .expression "A1000001:B1+1" := by decide +kernel
  rw [isCovered_iff_references hhalf, isCovered_iff_references hlarge]
  decide +kernel

end Spreadsheet.Formula
