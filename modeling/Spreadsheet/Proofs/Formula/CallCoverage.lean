import Spreadsheet.Proofs.Formula.Call
import Spreadsheet.Proofs.Formula.Position

/-!
# Covered calls

The arguments of a call are found by a reader that knows no escapes, its dependencies by one that
does. What the former takes for an argument can stand in what the latter takes for a string literal,
and then the cells that the argument names are read without being extracted.

* `Formula.mem_dependencies_of_locate`: an argument that starts in code is extracted.
* `Formula.isCovered_call_iff`: a call is covered whatever its function does if and only if all that
  its hidden arguments name is extracted, or a range is too large for the function to be called.
* `Formula.isCovered_of_not_isInfix`: a call without an escaped quotation mark is covered.
-/

namespace Spreadsheet.Formula

open Text

variable {registry : Registry} {text name : String} {arguments : List String}
  {cells cells' : Cells} {a : Address} {s t : Char}
  {argument letters list piece l r u v : List Char}

/-! ## What an argument reads -/

/-- Whether an argument is a range that is too large to be read. -/
def isOversized (argument : List Char) : Bool :=
  match rangeArgument? argument with
  | some r => r.expansion?.isNone
  | none => false

/-- The cells that an argument reads. -/
def argumentCells (argument : List Char) : List Address :=
  match rangeArgument? argument with
  | some r => r.expansion?.getD []
  | none => (Address.ofLabel? argument).toList

/-- The values of an argument that is not too large. -/
def argumentValues (cells : Cells) (argument : List Char) : List Value :=
  match rangeArgument? argument with
  | some r => (r.expansion?.getD []).map cells
  | none => [resolveSingle cells argument]

theorem resolve_of_isOversized (h : isOversized argument = true) :
    resolve cells argument = .error .reference := by
  cases hr : rangeArgument? argument with
  | none => simp [isOversized, hr] at h
  | some r =>
    cases hexpansion : r.expansion? with
    | none => simp [resolve, hr, hexpansion]
    | some addresses => simp [isOversized, hr, hexpansion] at h

theorem resolve_eq_ok (h : isOversized argument = false) :
    resolve cells argument = .ok (argumentValues cells argument) := by
  cases hr : rangeArgument? argument with
  | none => simp [resolve, argumentValues, hr]
  | some r =>
    cases hexpansion : r.expansion? with
    | none => simp [isOversized, hr, hexpansion] at h
    | some addresses => simp [resolve, argumentValues, hr, hexpansion]

theorem argumentValues_congr (h : ∀ a ∈ argumentCells argument, cells a = cells' a) :
    argumentValues cells argument = argumentValues cells' argument := by
  cases hr : rangeArgument? argument with
  | none =>
    simp only [argumentCells, hr] at h
    simp only [argumentValues, hr, resolveSingle]
    cases ha : Address.ofLabel? argument with
    | none => rfl
    | some a => simp only [h a (by simp [ha])]
  | some r =>
    simp only [argumentCells, hr] at h
    simp only [argumentValues, hr]
    exact List.map_congr_left h

theorem mem_argumentValues (cells : Cells) (ha : a ∈ argumentCells argument) :
    cells a ∈ argumentValues cells argument := by
  cases hr : rangeArgument? argument with
  | none =>
    simp only [argumentCells, hr, Option.mem_toList] at ha
    simp [argumentValues, hr, resolveSingle, ha]
  | some r =>
    simp only [argumentCells, hr] at ha
    simp only [argumentValues, hr]
    exact List.mem_map_of_mem ha

/-- An error among the values of an argument is the value of a cell. -/
theorem exists_of_error_mem {e : CellError} (h : .error e ∈ argumentValues cells argument) :
    ∃ a, cells a = .error e := by
  rw [argumentValues] at h
  split at h
  · obtain ⟨a, -, ha⟩ := List.mem_map.1 h
    exact ⟨a, ha⟩
  · rw [List.mem_singleton, resolveSingle] at h
    split at h
    · exact ⟨_, h.symm⟩
    · split at h <;> cases h

theorem resolveAll_of_isOversized (h : ∃ x ∈ arguments, isOversized x.toList = true) :
    resolveAll cells arguments = .error .reference := by
  have hmap : (arguments.mapM fun x => resolve cells x.toList) = .error .reference := by
    induction arguments with
    | nil => simp at h
    | cons x arguments ih =>
      rw [List.mapM_cons]
      cases hx : isOversized x.toList with
      | true => rw [resolve_of_isOversized hx]; rfl
      | false =>
        have hrest : ∃ y ∈ arguments, isOversized y.toList = true := by simpa [hx] using h
        rw [resolve_eq_ok hx, ih hrest]
        rfl
  rw [resolveAll, hmap]
  rfl

theorem resolveAll_eq_ok (cells : Cells) (h : ∀ x ∈ arguments, isOversized x.toList = false) :
    resolveAll cells arguments =
      .ok (arguments.flatMap fun x => argumentValues cells x.toList) := by
  have hmap : (arguments.mapM fun x => resolve cells x.toList) =
      .ok (arguments.map fun x => argumentValues cells x.toList) := by
    induction arguments with
    | nil => rfl
    | cons x arguments ih =>
      obtain ⟨hx, hrest⟩ := List.forall_mem_cons.1 h
      rw [List.mapM_cons, resolve_eq_ok hx, ih hrest]
      rfl
  rw [resolveAll, hmap, List.flatMap_def]
  rfl

/-- A call comes to the same if its arguments come to the same. -/
theorem callValue_congr
    (h : ∀ x ∈ arguments, ∀ a ∈ argumentCells x.toList, cells a = cells' a) :
    callValue registry cells name arguments = callValue registry cells' name arguments := by
  have hresolve : resolveAll cells arguments = resolveAll cells' arguments := by
    by_cases hover : ∃ x ∈ arguments, isOversized x.toList = true
    · rw [resolveAll_of_isOversized hover, resolveAll_of_isOversized hover]
    · have hsmall : ∀ x ∈ arguments, isOversized x.toList = false := by simpa using hover
      rw [resolveAll_eq_ok cells hsmall, resolveAll_eq_ok cells' hsmall]
      exact congrArg _ (List.flatMap_congr fun x hx => argumentValues_congr (h x hx))
  rw [callValue, callValue, hresolve]

/-! ## Argument lists -/

/-- The argument list of a call, between its first parenthesis and its last character. -/
def argumentList (text : String) : List Char :=
  (text.toList.dropWhile (· != '(')).tail.dropLast

theorem argumentList_eq (htext : text.toList = '=' :: letters ++ '(' :: list ++ [')'])
    (hletters : ∀ c ∈ letters, isNameChar c = true) : argumentList text = list := by
  have hbefore : ∀ c ∈ '=' :: letters, (c != '(') = true := by
    refine List.forall_mem_cons.2 ⟨by decide, fun c hc => bne_iff_ne.2 ?_⟩
    rintro rfl
    exact absurd (hletters _ hc) (by decide)
  rw [argumentList, htext, List.append_assoc, List.dropWhile_append_of_pos hbefore]
  simp

/-! ## Arguments that start in code -/

theorem exists_trim (piece : List Char) :
    ∃ l r, piece = l ++ trim piece ++ r ∧ (∀ c ∈ l, isBlank c = true) ∧
      ∀ c ∈ r, isBlank c = true := by
  refine ⟨piece.takeWhile isBlank, ((trimStart piece).reverse.takeWhile isBlank).reverse, ?_,
    fun c hc => List.all_eq_true.1 List.all_takeWhile c hc, fun c hc => ?_⟩
  · rw [trim, trimEnd, List.append_assoc, ← List.reverse_append, List.takeWhile_append_dropWhile,
      List.reverse_reverse, trimStart, List.takeWhile_append_dropWhile]
  · exact List.all_eq_true.1 List.all_takeWhile c (List.mem_reverse.1 hc)

/-- An argument that reads cells has no quotation marks and mentions the cells. -/
theorem exists_mention_of_argumentCells (ha : a ∈ argumentCells argument) :
    (∀ c ∈ argument, c ≠ '"') ∧ ∃ m ∈ mentions (pieces argument), a ∈ m.cells := by
  have hlabel {label : List Char} (h : Address.isLabelShaped label = true) :
      ∀ c ∈ label, c ≠ '"' := by
    rintro c hc rfl
    exact absurd (Address.isAlphanum_of_mem h hc) (by decide)
  cases hr : rangeArgument? argument with
  | none =>
    simp only [argumentCells, hr, Option.mem_toList] at ha
    have hshape := Address.isLabelShaped_of_ofLabel? ha
    refine ⟨hlabel hshape, .cell argument, ?_, by simp [Mention.cells, ha]⟩
    rw [mentions_pieces_label hshape]
    exact List.mem_singleton_self _
  | some r =>
    simp only [argumentCells, hr] at ha
    have hread : Range.ofText? argument = some r := by
      rw [rangeArgument?] at hr
      split at hr
      · exact hr
      · cases hr
    obtain ⟨first, last, b, c, rfl, hb, hc, rfl⟩ := Range.exists_of_ofText? hread
    have hfirst := Address.isLabelShaped_of_ofLabel? hb
    have hlast := Address.isLabelShaped_of_ofLabel? hc
    refine ⟨?_, .range first last, ?_, ?_⟩
    · intro d hd
      rcases List.mem_append.1 hd with hd | hd
      · exact hlabel hfirst d hd
      · rcases List.mem_cons.1 hd with rfl | hd
        · decide
        · exact hlabel hlast d hd
    · rw [mentions_pieces_range hfirst hlast]
      exact List.mem_singleton_self _
    · cases hexpansion : (Range.between b c).expansion? with
      | none => simp [hexpansion] at ha
      | some addresses => simpa [Mention.cells, hb, hc, hexpansion] using ha

/-- Characters that separate arguments from what stands around them. -/
def IsSeparator (c : Char) : Prop :=
  isWordChar c = false ∧ c ≠ ':' ∧ c ≠ '"'

theorem isSeparator_of_isBlank {c : Char} (hc : isBlank c = true) : IsSeparator c :=
  ⟨isWordChar_of_isBlank hc, ne_of_isBlank hc (by decide), ne_of_isBlank hc (by decide)⟩

theorem mentions_pieces_blanks (hl : ∀ c ∈ l, isBlank c = true) :
    mentions (pieces (l ++ v)) = mentions (pieces v) := by
  induction l with
  | nil => rfl
  | cons c l ih =>
    obtain ⟨hc, hl⟩ := List.forall_mem_cons.1 hl
    rw [List.cons_append, mentions_pieces_cons (isWordChar_of_isBlank hc), ih hl]

/-- What an argument mentions is mentioned in a text where blanks and separators surround it. -/
theorem mem_mentions_of_separated {m : Mention} (hm : m ∈ mentions (pieces argument))
    (hs : IsSeparator s) (ht : IsSeparator t) (hl : ∀ c ∈ l, isBlank c = true)
    (hr : ∀ c ∈ r, isBlank c = true) :
    m ∈ mentions (pieces (u ++ s :: (l ++ (argument ++ (r ++ t :: v))))) := by
  rw [mentions_pieces_append hs.1 hs.2.1, mentions_pieces_blanks hl]
  refine List.mem_append_right _ ?_
  cases r with
  | nil =>
    rw [List.nil_append, mentions_pieces_append ht.1 ht.2.1]
    exact List.mem_append_left _ hm
  | cons c r =>
    obtain ⟨hc, hcolon, -⟩ := isSeparator_of_isBlank (hr c List.mem_cons_self)
    rw [List.cons_append, mentions_pieces_append hc hcolon]
    exact List.mem_append_left _ hm

/-- An argument between separators that starts in code is mentioned. -/
theorem exists_mention_of_separated {text : List Char} (htext : text = u ++ s :: (piece ++ t :: v))
    (hs : IsSeparator s) (ht : IsSeparator t)
    (hposition : Position.code.afterAll (u ++ [s]) = .code)
    (ha : a ∈ argumentCells (trim piece)) : ∃ m ∈ codeMentions text, a ∈ m.cells := by
  obtain ⟨l, r, htrim, hl, hr⟩ := exists_trim piece
  obtain ⟨hcode, m, hm, ham⟩ := exists_mention_of_argumentCells ha
  have hu : Position.code.afterAll u = .code := by
    rwa [Position.afterAll_append, Position.afterAll_cons, Position.afterAll_nil,
      Position.after_eq_code_iff hs.2.2] at hposition
  -- the argument lies within one segment, and so do the separators
  have hmark : ∀ c ∈ s :: (l ++ (trim piece ++ (r ++ [t]))), c ≠ '"' := by
    intro c hc
    simp only [List.mem_cons, List.mem_append, List.not_mem_nil, or_false] at hc
    rcases hc with rfl | hc | hc | hc | rfl
    · exact hs.2.2
    · exact (isSeparator_of_isBlank (hl c hc)).2.2
    · exact hcode c hc
    · exact (isSeparator_of_isBlank (hr c hc)).2.2
    · exact ht.2.2
  obtain ⟨u', v', hsegment⟩ := exists_code_segment v hu (by simp) hmark
  have hwhole : u ++ s :: (l ++ (trim piece ++ (r ++ [t]))) ++ v = text := by
    calc u ++ s :: (l ++ (trim piece ++ (r ++ [t]))) ++ v
        = u ++ s :: ((l ++ trim piece ++ r) ++ t :: v) := by simp
      _ = text := by rw [← htrim, htext]
  rw [hwhole] at hsegment
  refine ⟨m, List.mem_flatMap.2 ⟨_, hsegment, ?_⟩, ham⟩
  have := mem_mentions_of_separated (u := u') (v := v') hm hs ht hl hr
  simpa using this

/-- The separators around a located piece. -/
theorem exists_separators {q : Position} (h : (q, piece) ∈ locate .code (splitFrom {} list)) :
    ∃ u s t v, '(' :: list ++ [')'] = u ++ s :: (piece ++ t :: v) ∧ IsSeparator s ∧
      IsSeparator t ∧ q = Position.code.afterAll (u ++ [s]) := by
  obtain ⟨before, after, rfl, rfl, hfirst, hlast⟩ := exists_of_mem_locate h
  have hcomma : IsSeparator ',' := by unfold IsSeparator; decide
  have hstart : ∃ u s, '(' :: before = u ++ [s] ∧ IsSeparator s := by
    rcases hfirst with rfl | ⟨u, rfl⟩
    · exact ⟨[], '(', rfl, by unfold IsSeparator; decide⟩
    · exact ⟨'(' :: u, ',', rfl, hcomma⟩
  have hend : ∃ t v, after ++ [')'] = t :: v ∧ IsSeparator t := by
    rcases hlast with rfl | ⟨v, rfl⟩
    · exact ⟨')', [], rfl, by unfold IsSeparator; decide⟩
    · exact ⟨',', v ++ [')'], rfl, hcomma⟩
  obtain ⟨u, s, hu, hs⟩ := hstart
  obtain ⟨t, v, hv, ht⟩ := hend
  refine ⟨u, s, t, v, ?_, hs, ht, by rw [← hu]; rfl⟩
  calc '(' :: (before ++ piece ++ after) ++ [')']
      = ('(' :: before) ++ (piece ++ (after ++ [')'])) := by simp
    _ = u ++ s :: (piece ++ t :: v) := by rw [hu, hv]; simp

/-- An argument that starts in code is extracted. -/
theorem mem_dependencies_of_locate (htext : text.toList = '=' :: letters ++ '(' :: list ++ [')'])
    (hletters : ∀ c ∈ letters, isNameChar c = true)
    (hpiece : (.code, piece) ∈ locate .code (splitFrom {} list))
    (ha : a ∈ argumentCells (trim piece)) : a ∈ dependencies text := by
  obtain ⟨u, s, t, v, hlist, hs, ht, hposition⟩ := exists_separators hpiece
  have hname : ∀ c ∈ '=' :: letters, c ≠ '"' := by
    refine List.forall_mem_cons.2 ⟨by decide, ?_⟩
    rintro c hc rfl
    exact absurd (hletters _ hc) (by decide)
  have hwhole : text.toList = ('=' :: letters ++ u) ++ s :: (piece ++ t :: v) := by
    rw [htext, List.append_assoc, hlist, List.append_assoc]
  rw [mem_dependencies_iff]
  refine exists_mention_of_separated hwhole hs ht ?_ ha
  rw [List.append_assoc, Position.afterAll_append, (Position.afterAll_eq_code_iff hname).2 rfl]
  exact hposition.symm

/-! ## Hidden arguments -/

/-- The arguments that start inside a string literal. -/
def hiddenArguments (text : String) : List (List Char) :=
  ((locate .code (splitFrom {} (argumentList text))).filter fun x => x.1 != .code).map
    fun x => trim x.2

theorem mem_dropEmptyLast {pieces : List (List Char)} (hpiece : piece ≠ []) :
    piece ∈ dropEmptyLast pieces ↔ piece ∈ pieces := by
  unfold dropEmptyLast
  split
  · rename_i hlast
    rw [← List.dropLast_append_getLast? [] hlast]
    simp [hpiece]
  · rfl

theorem ne_nil_of_argumentCells (ha : a ∈ argumentCells argument) : argument ≠ [] := by
  rintro rfl
  simp [argumentCells, rangeArgument?, Range.isRangeShaped, Range.splitColon, Address.ofLabel?,
    Address.isLabelShaped] at ha

/-- The arguments that read cells are the located pieces without the blanks around them. -/
theorem mem_splitArguments_iff (ha : a ∈ argumentCells argument) :
    argument ∈ splitArguments list ↔
      ∃ x ∈ locate .code (splitFrom {} list), trim x.2 = argument := by
  rw [splitArguments, mem_dropEmptyLast (ne_nil_of_argumentCells ha),
    ← map_snd_locate .code (splitFrom {} list), List.map_map, List.mem_map, map_snd_locate]
  rfl

/-- A call is covered if all that its hidden arguments read is extracted elsewhere. -/
theorem isCovered_of_hiddenArguments (h : Entry.ofText text = .call name arguments)
    (hhidden : ∀ x ∈ hiddenArguments text, ∀ a ∈ argumentCells x, a ∈ dependencies text) :
    IsCovered registry text := by
  obtain ⟨letters, list, htext, hletters, harguments⟩ := exists_of_call h
  intro cells cells' hcells
  rw [evaluate, evaluate, h]
  refine callValue_congr fun x hx a ha => hcells a ?_
  rw [harguments] at hx
  obtain ⟨argument, hargument, rfl⟩ := List.mem_map.1 hx
  rw [String.toList_ofList] at ha
  obtain ⟨⟨q, piece⟩, hpiece, rfl⟩ := (mem_splitArguments_iff ha).1 hargument
  by_cases hq : q = .code
  · exact mem_dependencies_of_locate htext hletters (hq ▸ hpiece) ha
  · refine hhidden _ ?_ a ha
    rw [hiddenArguments, argumentList_eq htext hletters]
    exact List.mem_map.2 ⟨_, List.mem_filter.2 ⟨hpiece, by simpa using hq⟩, rfl⟩

theorem argumentList_isInfix (text : String) : argumentList text <:+: text.toList :=
  (List.dropLast_prefix _).isInfix.trans
    ((List.tail_suffix _).trans (List.dropWhile_suffix _)).isInfix

/-- Without escaped quotation marks no argument is hidden. -/
theorem hiddenArguments_eq_nil (hmark : ¬['\\', '"'] <:+: text.toList) :
    hiddenArguments text = [] := by
  have hlist : EscapesNoMark .code (argumentList text) :=
    escapesNoMark_of_not_isInfix fun h => hmark (h.trans (argumentList_isInfix text))
  have htail := code_of_mem_tail_locate (n := {}) (p := .code) (by simp) hlist
  rw [hiddenArguments, List.map_eq_nil_iff, List.filter_eq_nil_iff]
  cases hpieces : splitFrom {} (argumentList text) with
  | nil => simp [locate]
  | cons piece pieces =>
    rw [hpieces] at htail
    rw [locate]
    exact List.forall_mem_cons.2 ⟨by simp, fun x hx => by simp [htail x hx]⟩

/-- A call without an escaped quotation mark is covered. -/
theorem isCovered_of_not_isInfix (h : Entry.ofText text = .call name arguments)
    (hmark : ¬['\\', '"'] <:+: text.toList) : IsCovered registry text :=
  isCovered_of_hiddenArguments h (by simp [hiddenArguments_eq_nil hmark])

/-- An operation that tells whether a circular error is among its arguments. -/
def noticeCircular : Operation := fun values =>
  if .error .circular ∈ values then .null else .text ""

/-- The registry of the operation that notices circular errors. -/
def noticingRegistry (name : String) : Registry :=
  ⟨(∅ : Std.ExtTreeMap String Operation).insert name noticeCircular⟩

/-- The value of a call that notices one circular cell among empty ones. -/
theorem callValue_noticing {v : Value} (hsmall : ∀ x ∈ arguments, isOversized x.toList = false)
    (hargument : String.ofList argument ∈ arguments) (ha : a ∈ argumentCells argument) :
    callValue (noticingRegistry name) (fun b => if b = a then v else .null) name arguments =
      if v = .error .circular then .null else .text "" := by
  let cells : Cells := fun b => if b = a then v else .null
  have hmem : .error .circular ∈ (arguments.flatMap fun x => argumentValues cells x.toList) ↔
      v = .error .circular := by
    constructor
    · intro h
      obtain ⟨x, -, hx⟩ := List.mem_flatMap.1 h
      obtain ⟨b, hb⟩ := exists_of_error_mem hx
      simp only [cells] at hb
      split at hb
      · exact hb
      · cases hb
    · rintro rfl
      refine List.mem_flatMap.2 ⟨_, hargument, ?_⟩
      have := mem_argumentValues cells ha
      simpa [cells] using this
  rw [callValue, Registry.get?, noticingRegistry, Std.ExtTreeMap.getElem?_insert_self]
  simp only [resolveAll_eq_ok cells hsmall, cells, noticeCircular] at hmem ⊢
  simp only [hmem]

/-- **Which calls are covered**, whatever their functions do: those whose hidden arguments name
nothing that is not extracted elsewhere, and those with a range that is too large to be read. -/
theorem isCovered_call_iff (h : Entry.ofText text = .call name arguments) :
    (∀ registry, IsCovered registry text) ↔
      (∃ x ∈ arguments, isOversized x.toList = true) ∨
        ∀ x ∈ hiddenArguments text, ∀ a ∈ argumentCells x, a ∈ dependencies text := by
  obtain ⟨letters, list, htext, hletters, harguments⟩ := exists_of_call h
  constructor
  · intro hcovered
    by_cases hover : ∃ x ∈ arguments, isOversized x.toList = true
    · exact .inl hover
    refine .inr fun argument hargument a ha => ?_
    by_contra hdep
    have hsmall : ∀ x ∈ arguments, isOversized x.toList = false := by simpa using hover
    have hmem : String.ofList argument ∈ arguments := by
      rw [harguments]
      refine List.mem_map_of_mem ((mem_splitArguments_iff ha).2 ?_)
      rw [hiddenArguments, argumentList_eq htext hletters] at hargument
      obtain ⟨x, hx, hxa⟩ := List.mem_map.1 hargument
      exact ⟨x, List.mem_of_mem_filter hx, hxa⟩
    -- a cell that is not extracted may hold anything
    let cells (v : Value) : Cells := fun b => if b = a then v else .null
    have hagree : ∀ b ∈ dependencies text, cells (.error .circular) b = cells .null b := by
      intro b hb
      have hba : b ≠ a := fun hba => hdep (hba ▸ hb)
      simp [cells, hba]
    have heq := hcovered (noticingRegistry name) _ _ hagree
    rw [evaluate, evaluate, h] at heq
    simp only [Entry.value, cells, callValue_noticing hsmall hmem ha] at heq
    cases heq
  · rintro (hover | hhidden) registry
    · intro cells cells' _
      rw [evaluate, evaluate, h, Entry.value, Entry.value, callValue, callValue,
        resolveAll_of_isOversized hover, resolveAll_of_isOversized hover]
    · exact isCovered_of_hiddenArguments h hhidden

/-- A hidden argument is harmless if its cell is read by an argument in code as well. -/
theorem isCovered_repeated_argument :
    Entry.ofText "=SUM(A1,\"\\\",A1)" = .call "SUM" ["A1", "\"\\\"", "A1"] ∧
      ∀ registry, IsCovered registry "=SUM(A1,\"\\\",A1)" := by
  have hcall : Entry.ofText "=SUM(A1,\"\\\",A1)" = .call "SUM" ["A1", "\"\\\"", "A1"] := by
    decide +kernel
  exact ⟨hcall, (isCovered_call_iff hcall).2 (.inr (by decide +kernel))⟩

/-- Behind an escaped quotation mark an argument is read without being extracted. -/
theorem not_isCovered_hidden_argument :
    Entry.ofText "=SUM(\"\\\",A1)" = .call "SUM" ["\"\\\"", "A1"] ∧
      ¬∀ registry, IsCovered registry "=SUM(\"\\\",A1)" := by
  refine ⟨by decide +kernel, fun hcovered => ?_⟩
  have hagree : ∀ a ∈ dependencies "=SUM(\"\\\",A1)", Value.error .circular = .null := by
    decide +kernel
  have heq := hcovered (noticingRegistry "SUM") (fun _ => .error .circular) (fun _ => .null) hagree
  revert heq
  decide +kernel

end Spreadsheet.Formula
