import Spreadsheet.Proofs.Formula.ValueLiteral
import Spreadsheet.Proofs.Formula.Words

/-!
# Values in the place of references

An expression is evaluated after values were written in the place of its references. Texts cannot
be mistaken there, nor can numbers that are set apart by blanks.

* `Fuses` says that a number fuses with the text around it.
* `evaluate_eq_spacedValue_iff`: unless this happens, the blanks would make no difference. Where it
  happens, the expression would be at fault with the blanks.
-/

namespace Spreadsheet.Formula

open Text Expression

variable {registry : Registry} {cells : Cells} {a : Address} {text : String}
  {w body : List Char} {before after : List (List Char)} {x : Float}

/-! ## Values between blanks -/

/-- A word with the value of the cell that it names in its place, between blanks. -/
def spaceWord (cells : Cells) (word : List Char) : List Char :=
  match Address.ofLabel? word with
  | some a => ' ' :: valueLiteral (cells a) ++ [' ']
  | none => word

/-- An expression with values in the place of its references, all between blanks. -/
def spacedText (cells : Cells) (body : List Char) : List Char :=
  (words body).flatMap (spaceWord cells)

/-- The value that an expression would have if the values in it stood between blanks. -/
def spacedValue (cells : Cells) (body : List Char) : Value :=
  match Expression.evaluate (spacedText cells body) with
  | .ok v => v
  | .error _ => .error .fault

/-- A text that digits would continue as a number although it does not end with a word: it ends with
a point, or with a sign behind the mark of an exponent. -/
def AwaitsDigits (text : List Char) : Prop :=
  (∃ u, text = u ++ ['.']) ∨
    ∃ u mark sign, text = u ++ [mark, sign] ∧ (mark = 'e' ∨ mark = 'E') ∧
      (sign = '+' ∨ sign = '-')

/-- The value of some reference fuses with the text around it. It is a number, and either it is
shown without a sign behind a text that awaits digits, or a point follows the reference. -/
def Fuses (cells : Cells) (body : List Char) : Prop :=
  ∃ before word after a x, words body = before ++ word :: after ∧
    Address.ofLabel? word = some a ∧ cells a = .number x ∧
    (AwaitsDigits before.flatten ∧ Decimal.showsSign (.ofFloat x) = false ∨
      after.flatten.head? = some '.')

theorem spaceWord_of_label (h : Address.ofLabel? w = some a) :
    spaceWord cells w = ' ' :: valueLiteral (cells a) ++ [' '] := by
  rw [spaceWord, h]

theorem spaceWord_of_none (h : Address.ofLabel? w = none) : spaceWord cells w = w := by
  rw [spaceWord, h]

theorem substituteWord_of_label (h : Address.ofLabel? w = some a) :
    substituteWord cells w = valueLiteral (cells a) := by
  rw [substituteWord, h]

theorem substituteWord_of_none (h : Address.ofLabel? w = none) : substituteWord cells w = w := by
  rw [substituteWord, h]

/-! ## Around a reference -/

theorem afterAll_flatten {ws : List (List Char)}
    (h : ∀ w ∈ ws, Position.code.afterAll w = .code) :
    Position.code.afterAll ws.flatten = .code := by
  induction ws with
  | nil => rfl
  | cons w ws ih =>
    obtain ⟨hw, hws⟩ := List.forall_mem_cons.1 h
    rw [List.flatten_cons, Position.afterAll_append, hw, ih hws]

/-- Words in front of another one end outside string literals. -/
theorem code_of_mem (h : (before ++ w :: after).IsChain Neighbours) :
    ∀ b ∈ before, Position.code.afterAll b = .code := by
  induction before with
  | nil => simp
  | cons b before ih =>
    obtain ⟨hb, hrest⟩ := List.isChain_cons.1 h
    refine List.forall_mem_cons.2 ⟨?_, ih hrest⟩
    cases before with
    | nil => exact (hb w rfl).code
    | cons b' before => exact (hb b' rfl).code

/-- The text in front of a reference ends outside string literals also when other texts are written
in the place of references, if these do. -/
theorem afterAll_flatMap {f : List Char → List Char}
    (hwords : (before ++ w :: after).IsChain Neighbours)
    (hf : ∀ b, Address.ofLabel? b = none → f b = b)
    (hlabel : ∀ b ∈ before, ∀ a, Address.ofLabel? b = some a →
      Position.code.afterAll (f b) = .code) :
    Position.code.afterAll (before.flatMap f) = .code := by
  refine afterAll_flatten fun v hv => ?_
  obtain ⟨b, hb, rfl⟩ := List.mem_map.1 hv
  cases ha : Address.ofLabel? b with
  | none => rw [hf b ha, code_of_mem hwords b hb]
  | some a => exact hlabel b hb a ha

/-- The text with values in front of a reference. -/
theorem afterAll_spaced (hwords : (before ++ w :: after).IsChain Neighbours)
    (hvalues : ∀ b ∈ before, ∀ a, Address.ofLabel? b = some a → IsOperand (cells a)) :
    Position.code.afterAll (before.flatMap (spaceWord cells)) = .code := by
  refine afterAll_flatMap hwords (fun b hb => spaceWord_of_none hb) fun b hb a ha => ?_
  rw [spaceWord_of_label ha, Position.afterAll_append, Position.afterAll_cons]
  change (Position.code.afterAll (valueLiteral (cells a))).afterAll [' '] = .code
  rw [afterAll_valueLiteral (hvalues b hb a ha)]
  rfl

/-- What comes right before a reference is no word. -/
theorem eq_nil_or_exists_concat (hwords : (before ++ w :: after).IsChain Neighbours)
    (ha : Address.ofLabel? w = some a) :
    before = [] ∨ ∃ front b c, before = front ++ [b] ∧ c ∈ b.getLast? ∧ isWordChar c = false := by
  rcases List.eq_nil_or_concat before with hnil | ⟨front, b, rfl⟩
  · exact .inl hnil
  rw [List.concat_eq_append] at hwords ⊢
  obtain ⟨c, hc, d, hd, hapart⟩ :=
    ((List.isChain_append.1 hwords).2.2 b (by simp) w rfl).apart
  have hword : isWordChar d = true := isWordChar_of_label ha (List.mem_of_mem_head? hd)
  refine .inr ⟨front, b, c, rfl, hc, ?_⟩
  by_contra h
  rw [hapart (by simpa using h)] at hword
  cases hword

/-- What comes right behind a reference is no word. -/
theorem eq_nil_or_exists_cons (hwords : (before ++ w :: after).IsChain Neighbours)
    (ha : Address.ofLabel? w = some a) :
    after = [] ∨ ∃ b rest d, after = b :: rest ∧ d ∈ b.head? ∧ isWordChar d = false := by
  cases after with
  | nil => exact .inl rfl
  | cons b rest =>
    obtain ⟨c, hc, d, hd, hapart⟩ :=
      (List.isChain_cons_cons.1 (List.isChain_append.1 hwords).2.1).1.apart
    have hword : isWordChar c = true := isWordChar_of_label ha (List.mem_of_getLast? hc)
    exact .inr ⟨b, rest, d, rfl, hd, hapart hword⟩

/-- Writing values leaves the character before a reference in place. -/
theorem isWordChar_of_getLast?_flatMap (hwords : (before ++ w :: after).IsChain Neighbours)
    (ha : Address.ofLabel? w = some a) {f : List Char → List Char}
    (hf : ∀ b, Address.ofLabel? b = none → f b = b) :
    ∀ c ∈ (before.flatMap f).getLast?, isWordChar c = false := by
  rcases eq_nil_or_exists_concat hwords ha with rfl | ⟨front, b, c, rfl, hc, hword⟩
  · simp
  · have hb := ofLabel?_eq_none (List.mem_of_getLast? hc) hword
    intro d hd
    rw [List.flatMap_append, List.flatMap_singleton, hf b hb, List.getLast?_append,
      Option.mem_def.1 hc] at hd
    obtain rfl : c = d := by simpa using hd
    exact hword

/-- Neither a label nor a value between blanks ends with an exponent mark. -/
theorem continuesNumber_spaced (hwords : (before ++ w :: after).IsChain Neighbours) (d : Char) :
    Token.continuesNumber ((before.flatMap (spaceWord cells)).getLastD ' ') d =
      Token.continuesNumber (before.flatten.getLastD ' ') d := by
  rcases List.eq_nil_or_concat before with rfl | ⟨front, b, rfl⟩
  · rfl
  rw [List.concat_eq_append] at hwords ⊢
  obtain ⟨c, hc, -⟩ := ((List.isChain_append.1 hwords).2.2 b (by simp) w rfl).apart
  have hne : b ≠ [] := List.ne_nil_of_mem (List.mem_of_getLast? hc)
  rw [List.flatMap_append, List.flatten_append, List.flatMap_singleton, List.flatten_singleton,
    getLastD_append hne]
  cases hb : Address.ofLabel? b with
  | none => rw [spaceWord_of_none hb, getLastD_append hne]
  | some e =>
    obtain ⟨c, hc, hdigit⟩ := exists_getLast?_of_label hb
    rw [spaceWord_of_label hb, ← List.append_assoc, List.getLastD_concat,
      List.getLastD_eq_getLast?, Option.mem_def.1 hc]
    refine continuesNumber_congr (iff_of_false (by decide) ?_) d
    rintro (rfl | rfl) <;> exact absurd hdigit (by decide)

/-- What can go on with a number right before a word. -/
theorem endsNumber_iff_awaitsDigits (h : ∀ c ∈ w.getLast?, isWordChar c = false) :
    endsNumber w = true ↔ AwaitsDigits w := by
  rcases List.eq_nil_or_concat w with rfl | ⟨u, c, rfl⟩
  · simp [AwaitsDigits]
  rw [List.concat_eq_append] at h ⊢
  rw [endsNumber_concat, continuesNumber_iff_of_not_isWordChar (h c (by simp))]
  refine or_congr ⟨?_, ?_⟩ ⟨?_, ?_⟩
  · rintro rfl
    exact ⟨u, rfl⟩
  · rintro ⟨v, hv⟩
    exact List.singleton_inj.1 (List.append_inj' hv rfl).2
  · rintro ⟨hsign, hmark⟩
    rcases List.eq_nil_or_concat u with rfl | ⟨v, mark, rfl⟩
    · exact absurd hmark (by decide)
    · rw [List.concat_eq_append, List.getLastD_concat] at hmark
      exact ⟨v, mark, c, by simp, hmark, hsign⟩
  · rintro ⟨v, mark, sign, hv, hmark, hsign⟩
    have hv : u ++ [c] = (v ++ [mark]) ++ [sign] := by simp [hv]
    obtain ⟨rfl, hc⟩ := List.append_inj' hv rfl
    rw [List.getLastD_concat, List.singleton_inj.1 hc]
    exact ⟨hsign, hmark⟩

/-- Writing values does not change whether a number could go on with a reference. -/
theorem endsNumber_spaced_iff (hwords : (before ++ w :: after).IsChain Neighbours)
    (ha : Address.ofLabel? w = some a) :
    endsNumber (before.flatMap (spaceWord cells)) = true ↔ AwaitsDigits before.flatten := by
  have hlast := isWordChar_of_getLast?_flatMap hwords ha (f := id) fun b _ => rfl
  rw [List.flatMap_id] at hlast
  rw [← endsNumber_iff_awaitsDigits hlast]
  rcases eq_nil_or_exists_concat hwords ha with rfl | ⟨front, b, c, rfl, hc, hword⟩
  · rfl
  · have hb := ofLabel?_eq_none (List.mem_of_getLast? hc) hword
    rw [List.append_assoc] at hwords
    rw [List.flatMap_append, List.flatten_append, List.flatMap_singleton, List.flatten_singleton,
      spaceWord_of_none hb, endsNumber_append_congr (List.ne_nil_of_mem (List.mem_of_getLast? hc))
        (continuesNumber_spaced hwords)]

/-- Writing values leaves the character behind a reference in place. -/
theorem head?_flatMap (hwords : (before ++ w :: after).IsChain Neighbours)
    (ha : Address.ofLabel? w = some a) {f : List Char → List Char}
    (hf : ∀ b, Address.ofLabel? b = none → f b = b) :
    (after.flatMap f).head? = after.flatten.head? ∧
      ∀ d ∈ (after.flatMap f).head?, isWordChar d = false := by
  rcases eq_nil_or_exists_cons hwords ha with rfl | ⟨b, rest, d, rfl, hd, hword⟩
  · simp
  · have hb := ofLabel?_eq_none (List.mem_of_mem_head? hd) hword
    rw [List.flatMap_cons, List.flatten_cons, hf b hb, List.head?_append, List.head?_append,
      Option.mem_def.1 hd]
    refine ⟨rfl, fun e he => ?_⟩
    obtain rfl : d = e := by simpa using he
    exact hword

/-! ## Blanks make no difference unless a value fuses -/

/-- The value of a reference can be set apart by blanks. -/
theorem tokens?_space_value (hvalues : ∀ a ∈ references body, IsOperand (cells a))
    (hfuses : ¬Fuses cells body) (hbody : words body = before ++ w :: after)
    (ha : Address.ofLabel? w = some a) :
    tokens? (before.flatMap (spaceWord cells) ++ (w :: after).flatMap (substituteWord cells)) =
      tokens? ((before ++ [w]).flatMap (spaceWord cells) ++
        after.flatMap (substituteWord cells)) := by
  have hwords := isChain_words body
  rw [hbody] at hwords
  have hoperand {b : List Char} (hb : b ∈ before ++ w :: after) (e : Address)
      (he : Address.ofLabel? b = some e) : IsOperand (cells e) :=
    hvalues e (mem_references_of_mem_words (hbody ▸ hb) he)
  have hvalue : IsOperand (cells a) := hoperand (by simp) a ha
  have hcode : Position.code.afterAll (before.flatMap (spaceWord cells)) = .code :=
    afterAll_spaced hwords fun b hb => hoperand (List.mem_append_left _ hb)
  have hcode' : Position.code.afterAll
      (before.flatMap (spaceWord cells) ++ ' ' :: valueLiteral (cells a)) = .code := by
    rw [Position.afterAll_append, hcode]
    exact afterAll_valueLiteral hvalue
  have hleft : ¬Continues (before.flatMap (spaceWord cells))
      (valueLiteral (cells a) ++ after.flatMap (substituteWord cells)) := by
    intro h
    obtain ⟨x, hx, hsign⟩ := of_continues_valueLiteral hvalue
      (isWordChar_of_getLast?_flatMap hwords ha fun b hb => spaceWord_of_none hb) h
    exact hfuses ⟨before, w, after, a, x, hbody, ha, hx,
      .inl ⟨(endsNumber_spaced_iff hwords ha).1 h.1, hsign⟩⟩
  have hright : ¬Continues (before.flatMap (spaceWord cells) ++ ' ' :: valueLiteral (cells a))
      (after.flatMap (substituteWord cells)) := by
    obtain ⟨hhead, hword⟩ := head?_flatMap hwords ha (f := substituteWord cells)
      fun b hb => substituteWord_of_none hb
    rw [List.append_cons]
    intro h
    obtain ⟨x, hx, hpoint⟩ := of_valueLiteral_continues hvalue hword h
    exact hfuses ⟨before, w, after, a, x, hbody, ha, hx, .inr (hhead ▸ hpoint)⟩
  rw [List.flatMap_cons, substituteWord_of_label ha, tokens?_insert_blank hcode hleft,
    ← List.cons_append, ← List.append_assoc, tokens?_insert_blank hcode' hright,
    List.flatMap_append, List.flatMap_singleton, spaceWord_of_label ha]
  simp only [List.append_assoc, List.cons_append, List.nil_append]

/-- All values can be set apart by blanks, one after the other. -/
theorem tokens?_space_values (hvalues : ∀ a ∈ references body, IsOperand (cells a))
    (hfuses : ¬Fuses cells body) (hbody : words body = before ++ after) :
    tokens? (before.flatMap (spaceWord cells) ++ after.flatMap (substituteWord cells)) =
      tokens? (spacedText cells body) := by
  induction after generalizing before with
  | nil => rw [spacedText, hbody, List.append_nil, List.flatMap_nil, List.append_nil]
  | cons w after ih =>
    rw [← ih (hbody.trans (List.append_cons ..))]
    cases ha : Address.ofLabel? w with
    | none =>
      rw [List.flatMap_cons, substituteWord_of_none ha, List.flatMap_append,
        List.flatMap_singleton, spaceWord_of_none ha, List.append_assoc]
    | some a => exact tokens?_space_value hvalues hfuses hbody ha

theorem tokens?_substitute (hvalues : ∀ a ∈ references body, IsOperand (cells a))
    (hfuses : ¬Fuses cells body) :
    tokens? (substitute cells body) = tokens? (spacedText cells body) := by
  rw [substitute_eq_flatMap_words]
  exact tokens?_space_values hvalues hfuses (List.nil_append _).symm

/-! ## Where a value fuses, two numbers would be next to each other -/

theorem toOption_evaluate_spacedText (hvalues : ∀ a ∈ references body, IsOperand (cells a))
    (hfuses : Fuses cells body) :
    (Expression.evaluate (spacedText cells body)).toOption = none := by
  obtain ⟨before, w, after, a, x, hbody, ha, hx, hborder⟩ := hfuses
  have hwords := isChain_words body
  rw [hbody] at hwords
  have hcode : Position.code.afterAll (before.flatMap (spaceWord cells)) = .code := by
    refine afterAll_spaced hwords fun b hb e he => hvalues e (mem_references_of_mem_words ?_ he)
    rw [hbody]
    exact List.mem_append_left _ hb
  have hspaced : spacedText cells body = before.flatMap (spaceWord cells) ++
      ' ' :: (Decimal.displayChars x ++ ' ' :: after.flatMap (spaceWord cells)) := by
    rw [spacedText, hbody, List.flatMap_append, List.flatMap_cons, spaceWord_of_label ha, hx]
    simp [valueLiteral]
  have htokens : tokens? (spacedText cells body) =
      joined (tokens? (before.flatMap (spaceWord cells)))
        (joined (tokens? (Decimal.displayChars x))
          (tokens? (after.flatMap (spaceWord cells)))) := by
    rw [hspaced, tokens?_append_blank hcode, tokens?_append_blank (afterAll_displayChars x)]
  rcases hborder with ⟨hend, hsign⟩ | hpoint
  · refine toOption_evaluate_of_adjacent htokens (fun A hA => ?_) fun B hB => ?_
    · exact getLast?_of_endsNumber hcode ((endsNumber_spaced_iff hwords ha).2 hend) hA
    · obtain ⟨C, D, hC, -, rfl⟩ := exists_of_joined hB
      obtain ⟨y, hy⟩ := head?_of_displayChars hsign hC
      exact ⟨y, by rw [List.head?_append, hy]; rfl⟩
  · rw [← joined_assoc] at htokens
    refine toOption_evaluate_of_adjacent htokens (fun A hA => ?_) fun B hB => ?_
    · obtain ⟨C, D, -, hD, rfl⟩ := exists_of_joined hA
      obtain ⟨y, hy⟩ := getLast?_of_displayChars hD
      exact ⟨y, by rw [List.getLast?_append, hy]; rfl⟩
    · obtain ⟨hhead, -⟩ := head?_flatMap hwords ha (f := spaceWord cells)
        fun b hb => spaceWord_of_none hb
      rw [hpoint] at hhead
      obtain ⟨rest, hrest⟩ := List.head?_eq_some_iff.1 hhead
      rw [hrest] at hB
      exact head?_of_startsNumber (by decide) hB

/-! ## What expressions come to -/

theorem spacedValue_eq (cells : Cells) (body : List Char) :
    spacedValue cells body =
      (Expression.evaluate (spacedText cells body)).toOption.getD (.error .fault) := by
  rw [spacedValue]
  cases Expression.evaluate (spacedText cells body) <;> rfl

theorem expressionValue_eq (hvalues : ∀ a ∈ references body, IsOperand (cells a)) :
    expressionValue cells body =
      (Expression.evaluate (substitute cells body)).toOption.getD (.error .fault) := by
  have hobstacle : ((references body).findSome? fun a => obstacle? (cells a)) = none := by
    rw [List.findSome?_eq_none_iff]
    intro a ha
    obtain ⟨s, hs⟩ | ⟨x, hx⟩ := hvalues a ha
    · rw [hs]
      rfl
    · rw [hx]
      rfl
  rw [expressionValue, hobstacle]
  cases Expression.evaluate (substitute cells body) <;> rfl

/-- **Substitution keeps values apart unless one fuses.** An expression over texts and numbers has
the value that it would have if all values were set apart by blanks, if and only if none of them
fuses or the expression is at fault. -/
theorem evaluate_eq_spacedValue_iff {body : String} (hform : Entry.ofText text = .expression body)
    (hvalues : ∀ a ∈ references body.toList, IsOperand (cells a)) :
    evaluate registry cells text = spacedValue cells body.toList ↔
      (Fuses cells body.toList → evaluate registry cells text = .error .fault) := by
  have hevaluate : evaluate registry cells text = expressionValue cells body.toList := by
    rw [evaluate, hform]
    rfl
  rw [hevaluate]
  by_cases hfuses : Fuses cells body.toList
  · have hspaced : spacedValue cells body.toList = .error .fault := by
      rw [spacedValue_eq, toOption_evaluate_spacedText hvalues hfuses]
      rfl
    simp [hfuses, hspaced]
  · have hequal : expressionValue cells body.toList = spacedValue cells body.toList := by
      rw [spacedValue_eq, expressionValue_eq hvalues, toOption_evaluate, toOption_evaluate,
        tokens?_substitute hvalues hfuses]
    simp [hfuses, hequal]

/-- A point before a product and the sign of a number keep values apart as well as blanks do. -/
theorem evaluate_eq_spacedValue_product :
    let cells : Cells := fun a => if a = ⟨0, 0⟩ then .number (-3) else .text "2"
    evaluate .empty cells "=.5*A1-B1" = .number (-3.5) ∧ ¬Fuses cells ".5*A1-B1".toList ∧
      evaluate .empty cells "=.5*A1-B1" = spacedValue cells ".5*A1-B1".toList := by
  intro cells
  have hform : Entry.ofText "=.5*A1-B1" = .expression ".5*A1-B1" := by decide +kernel
  have hvalue : evaluate .empty cells "=.5*A1-B1" = .number (-3.5) := by decide +kernel
  have hspaced : spacedValue cells ".5*A1-B1".toList = .number (-3.5) := by decide +kernel
  have hvalues : ∀ a ∈ references ".5*A1-B1".toList, IsOperand (cells a) := by
    intro a _
    by_cases ha : a = ⟨0, 0⟩
    · exact .inr ⟨-3, by simp [cells, ha]⟩
    · exact .inl ⟨"2", by simp [cells, ha]⟩
  have hiff := @evaluate_eq_spacedValue_iff .empty cells "=.5*A1-B1" _ hform hvalues
  rw [hvalue, hspaced] at hiff
  refine ⟨hvalue, fun hfuses => ?_, hvalue.trans hspaced.symm⟩
  cases hiff.1 rfl hfuses

/-- The digits of a value are read as those behind a point. With blanks there is nothing to read
them with. -/
theorem evaluate_ne_spacedValue :
    let cells : Cells := fun _ => .number 5
    Entry.ofText "=.A1" = .expression ".A1" ∧ (5 : Float).isFinite = true ∧
      tokens (Decimal.displayChars 5) = .ok [.number 5] ∧
      evaluate .empty cells "=.A1" = .number 0.5 ∧
      spacedValue cells ".A1".toList = .error .fault := by
  decide +kernel

end Spreadsheet.Formula
