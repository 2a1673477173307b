import Spreadsheet.Proofs.Address.Column
import Spreadsheet.Proofs.Formula.Coverage

/-!
# The form of a call

A call is an equals sign, a name and an argument list between parentheses. The name ends where the
first parenthesis stands, so there is one way to take a call apart.

* `call?_eq_some_iff` takes the text behind the equals sign apart.
* `Entry.ofText_eq_call_iff`: an entry is a call if and only if it has this form and the
  parentheses of the argument list belong together.
-/

namespace Spreadsheet

variable {c : Char} {text name : String} {arguments : List String} {body letters list : List Char}

/-- Only letters, digits and the colon stand in a text of the shape of a range. -/
theorem Range.isAlphanum_or_of_mem (h : isRangeShaped body = true) (hc : c ∈ body) :
    c.isAlphanum = true ∨ c = ':' := by
  unfold isRangeShaped at h
  split at h
  · rename_i first last hsplit
    rw [Bool.and_eq_true] at h
    rw [append_of_splitColon hsplit, List.mem_append, List.mem_cons] at hc
    rcases hc with hc | hc | hc
    · exact .inl (Address.isAlphanum_of_mem h.1 hc)
    · exact .inr hc
    · exact .inl (Address.isAlphanum_of_mem h.2 hc)
  · cases h

namespace Formula

theorem isNameChar_iff : isNameChar c = true ↔ ('A' ≤ c ∧ c ≤ 'Z') ∨ c = '_' := by
  rw [isNameChar, Bool.or_eq_true, Column.isUpper_iff, beq_iff_eq]

theorem ne_of_isNameChar (hc : isNameChar c = true) : c ≠ '"' ∧ c ≠ '(' ∧ c ≠ ')' := by
  refine ⟨?_, ?_, ?_⟩ <;>
  · rintro rfl
    exact absurd hc (by decide)

theorem nameChars_of_all (h : letters.all isNameChar = true) :
    ∀ c ∈ letters, ('A' ≤ c ∧ c ≤ 'Z') ∨ c = '_' :=
  fun c hc => isNameChar_iff.1 (List.all_eq_true.1 h c hc)

theorem enclosed?_eq_some_iff : enclosed? body = some list ↔ body = '(' :: list ++ [')'] := by
  constructor
  · intro h
    unfold enclosed? at h
    split at h
    · split at h
      · rename_i hlast
        cases h
        rw [List.cons_append, List.dropLast_append_getLast? _ hlast]
      · cases h
    · cases h
  · rintro rfl
    simp [enclosed?]

/-- The name of a call ends at its first parenthesis. -/
theorem span_letters (hletters : ∀ c ∈ letters, isNameChar c = true) (rest : List Char) :
    (letters ++ '(' :: rest).takeWhile isNameChar = letters ∧
      (letters ++ '(' :: rest).dropWhile isNameChar = '(' :: rest := by
  have hparenthesis : isNameChar '(' = false := by decide
  rw [List.takeWhile_append_of_pos hletters, List.dropWhile_append_of_pos hletters]
  simp [hparenthesis]

theorem call?_eq_some_iff :
    call? body = some (letters, list) ↔ body = letters ++ '(' :: list ++ [')'] ∧ letters ≠ [] ∧
      (∀ c ∈ letters, isNameChar c = true) ∧ isBalanced list = true := by
  constructor
  · intro h
    obtain ⟨list', hlist, hcheck⟩ := Option.bind_eq_some_iff.1 h
    split at hcheck
    · rename_i hok
      cases hcheck
      simp only [Bool.and_eq_true, Bool.not_eq_true', List.isEmpty_eq_false_iff] at hok
      refine ⟨?_, hok.1, fun c hc => List.all_eq_true.1 List.all_takeWhile c hc, hok.2⟩
      rw [List.append_assoc, ← enclosed?_eq_some_iff.1 hlist, List.takeWhile_append_dropWhile]
    · cases hcheck
  · rintro ⟨rfl, hne, hletters, hbalanced⟩
    obtain ⟨htake, hdrop⟩ := span_letters hletters (list ++ [')'])
    rw [List.append_assoc, List.cons_append, call?, htake, hdrop,
      enclosed?_eq_some_iff.2 (List.cons_append ..).symm]
    simp [hne, hbalanced]

/-- A text with a parenthesis is no label and no range. -/
theorem Entry.ofBody_of_call? (h : call? body = some (letters, list)) :
    Entry.ofBody body =
      .call (String.ofList letters) ((splitArguments list).map String.ofList) := by
  have hparenthesis : '(' ∈ body := by
    rw [(call?_eq_some_iff.1 h).1]
    simp
  have hlabel : Address.isLabelShaped body = false := by
    by_contra hshape
    exact absurd (Address.isAlphanum_of_mem (by simpa using hshape) hparenthesis) (by decide)
  have hrange : Range.isRangeShaped body = false := by
    by_contra hshape
    exact absurd (Range.isAlphanum_or_of_mem (by simpa using hshape) hparenthesis) (by decide)
  rw [Entry.ofBody, if_neg (by simp [hlabel]), if_neg (by simp [hrange]), h]

/-- **Which entries are calls.** -/
theorem Entry.ofText_eq_call_iff :
    Entry.ofText text = .call name arguments ↔ ∃ letters list,
      text.toList = '=' :: letters ++ '(' :: list ++ [')'] ∧ letters ≠ [] ∧
        (∀ c ∈ letters, isNameChar c = true) ∧ isBalanced list = true ∧
          name = String.ofList letters ∧ arguments = (splitArguments list).map String.ofList := by
  constructor
  · intro h
    rcases Entry.ofText_cases text with hliteral | ⟨body, htext, hbody⟩
    · rw [hliteral] at h
      cases h
    · rw [hbody, Entry.ofBody] at h
      split at h
      · split at h <;> cases h
      · split at h
        · cases h
        · split at h
          · rename_i letters list hcall
            cases h
            obtain ⟨rfl, hne, hletters, hbalanced⟩ := call?_eq_some_iff.1 hcall
            exact ⟨letters, list, htext, hne, hletters, hbalanced, rfl, rfl⟩
          · cases h
  · rintro ⟨letters, list, htext, hne, hletters, hbalanced, rfl, rfl⟩
    rw [Entry.ofText, htext]
    exact Entry.ofBody_of_call? (call?_eq_some_iff.2 ⟨rfl, hne, hletters, hbalanced⟩)

theorem exists_of_call (h : Entry.ofText text = .call name arguments) :
    ∃ letters list, text.toList = '=' :: letters ++ '(' :: list ++ [')'] ∧
      (∀ c ∈ letters, isNameChar c = true) ∧
      arguments = (splitArguments list).map String.ofList := by
  obtain ⟨letters, list, htext, -, hletters, -, -, harguments⟩ := Entry.ofText_eq_call_iff.1 h
  exact ⟨letters, list, htext, hletters, harguments⟩

end Formula

end Spreadsheet
