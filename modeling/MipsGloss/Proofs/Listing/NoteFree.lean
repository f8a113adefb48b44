import MipsGloss.Proofs.Listing.Note

namespace MipsGloss.Listing

/-! What is left of operands without their notes. Dropping a symbol joins what stood around
it, and still no new symbol comes about: a bracket that stays has no closing one anywhere
behind it. So one pass drops all there is to drop, and the texts that a pass leaves are
those that it leaves alone. -/

/-! ## Symbols that are gone -/

theorem suffix_of_afterSymbol? {characters behind : List Char}
    (found : afterSymbol? characters = some behind) : behind <:+ characters := by
  unfold afterSymbol? at found
  split at found
  · next rest =>
      have suffix := List.dropWhile_suffix (· != '>') (l := rest)
      split at found
      · next closing after remaining =>
          cases found
          rw [remaining] at suffix
          exact (List.suffix_cons closing behind).trans
            (suffix.trans (List.suffix_cons '<' rest))
      · cases found
  · cases found

/-- A bracket that begins no symbol is closed nowhere. -/
theorem not_mem_of_afterSymbol? {rest : List Char}
    (unclosed : afterSymbol? ('<' :: rest) = none) : '>' ∉ rest := by
  intro closing
  cases left : rest.dropWhile (· != '>') with
  | nil => exact absurd (List.dropWhile_eq_nil_iff.mp left '>' closing) (by decide)
  | cons head behind => simp [afterSymbol?, left] at unclosed

theorem sublist_dropSymbols (characters : List Char) :
    (dropSymbols characters).Sublist characters := by
  fun_induction dropSymbols characters with
  | case1 characters behind found induction =>
      have behindGap := (suffix_of_afterSymbol? found).sublist
      have gap := (List.dropWhile_suffix Text.isGap (l := characters)).sublist
      exact induction.trans (behindGap.trans gap)
  | case2 => exact .refl []
  | case3 character rest _ induction => exact induction.cons_cons character

theorem symbolless_cons_iff {character : Char} {rest : List Char} :
    Symbolless (character :: rest) ↔ (character = '<' → '>' ∉ rest) ∧ Symbolless rest := by
  by_cases opening : character = '<'
  · have begins : Symbolless ('<' :: rest) ↔ '>' ∉ rest := by
      rw [Symbolless, List.dropWhile_cons_of_neg (by decide)]
      simp
    rw [opening]
    exact ⟨fun symbolless => ⟨fun _ => begins.mp symbolless, symbolless.of_cons⟩,
      fun parts => begins.mpr (parts.1 rfl)⟩
  · rw [Symbolless, List.dropWhile_cons_of_pos (by simpa using opening)]
    simp [opening, Symbolless]

/-- No bracket that opens has a closing one anywhere behind it. -/
theorem symbolless_iff {characters : List Char} :
    Symbolless characters ↔ ∀ front back, characters = front ++ '<' :: back → '>' ∉ back := by
  constructor
  · rintro symbolless front back rfl
    induction front with
    | nil => exact (symbolless_cons_iff.mp symbolless).1 rfl
    | cons character front induction => exact induction symbolless.of_cons
  · intro unclosed
    induction characters with
    | nil => exact symbolless_of_not_mem List.not_mem_nil
    | cons character rest induction =>
        apply symbolless_cons_iff.mpr
        constructor
        · rintro rfl
          exact unclosed [] rest rfl
        · apply induction
          rintro front back rfl
          exact unclosed (character :: front) back rfl

/-- A bracket that is kept was closed nowhere, and what is dropped behind it closes
nothing. -/
theorem symbolless_dropSymbols (characters : List Char) : Symbolless (dropSymbols characters) := by
  fun_induction dropSymbols characters with
  | case1 characters behind found induction => exact induction
  | case2 => exact symbolless_of_not_mem List.not_mem_nil
  | case3 character rest noSymbol induction =>
      refine symbolless_cons_iff.mpr ⟨?_, induction⟩
      rintro rfl closing
      rw [List.dropWhile_cons_of_neg (by decide)] at noSymbol
      exact not_mem_of_afterSymbol? noSymbol ((sublist_dropSymbols rest).mem closing)

/-! ## Texts without notes -/

/-- Nothing in the text is a note: no comment starts, no bracket that opens has a closing
one behind it, and no blank stands at either end. -/
structure NoteFree (text : List Char) : Prop where
  uncommented : '#' ∉ text ∧ ';' ∉ text
  symbolless : ∀ front back, text = front ++ '<' :: back → '>' ∉ back
  starts : Text.StartsInk text
  ends : Text.EndsInk text

theorem uncommented_iff {characters : List Char} :
    (∀ character ∈ characters, isCommentStart character = false) ↔
      '#' ∉ characters ∧ ';' ∉ characters := by
  simp only [isCommentStart, Bool.or_eq_false_iff, beq_eq_false_iff_ne, forall_and]
  exact ⟨fun apart => ⟨fun member => apart.1 '#' member rfl, fun member => apart.2 ';' member rfl⟩,
    fun absent => ⟨fun _ member equal => absent.1 (equal ▸ member),
      fun _ member equal => absent.2 (equal ▸ member)⟩⟩

theorem noteFree_dropNotes (operands : List Char) : NoteFree (dropNotes operands) := by
  rcases Text.exists_blanks_around (dropSymbols (cutComment operands)) with
    ⟨before, after, _, _, whole⟩
  rw [← dropNotes] at whole
  constructor
  · apply uncommented_iff.mp
    intro character member
    have kept : character ∈ cutComment operands := by
      apply (sublist_dropSymbols _).mem
      rw [whole]
      simp [member]
    simpa using List.mem_takeWhile_imp kept
  · intro front back split
    have unclosed := symbolless_iff.mp (symbolless_dropSymbols (cutComment operands))
      (before ++ front) (back ++ after) (by rw [whole, split]; simp)
    exact fun closing => unclosed (List.mem_append_left after closing)
  · exact Text.startsInk_trimCharacters _
  · exact Text.endsInk_trimCharacters _

theorem NoteFree.dropNotes_eq_self {text : List Char} (noteFree : NoteFree text) :
    dropNotes text = text := by
  rw [dropNotes, cutComment_eq_self (uncommented_iff.mpr noteFree.uncommented),
    (symbolless_iff.mpr noteFree.symbolless).dropSymbols_eq_self,
    Text.trimCharacters_eq_self noteFree.starts noteFree.ends]

/-- One pass leaves a text without notes, and these are the texts that a pass leaves alone;
so a second pass changes nothing. Where no mark of a note stands, blanks at the ends are
all that is dropped. -/
theorem dropNotes_settles (operands : List Char) :
    NoteFree (dropNotes operands) ∧
      dropNotes (dropNotes operands) = dropNotes operands ∧
      (dropNotes operands = operands ↔ NoteFree operands) ∧
      ('<' ∉ operands → '#' ∉ operands → ';' ∉ operands →
        dropNotes operands = Text.trimCharacters operands) := by
  have noteFree := noteFree_dropNotes operands
  refine ⟨noteFree, noteFree.dropNotes_eq_self, ⟨fun same => same ▸ noteFree, ?_⟩, ?_⟩
  · exact fun alone => alone.dropNotes_eq_self
  · intro noBracket noHash noSemicolon
    have uncommented := uncommented_iff.mpr ⟨noHash, noSemicolon⟩
    have unnoted : Unnoted operands := fun character member =>
      ⟨fun opening => noBracket (opening ▸ member), uncommented character member⟩
    exact unnoted.dropNotes_eq

/-- A closing bracket stays where the symbol that it might close is gone. -/
example : dropNotes "400 <a <b> c> <d # <e>".toList = "400 c> <d".toList := by decide +kernel

theorem dropNotes_settles_address :
    '<' ∉ " 8($sp)\t".toList ∧ '#' ∉ " 8($sp)\t".toList ∧ ';' ∉ " 8($sp)\t".toList ∧
      dropNotes " 8($sp)\t".toList = Text.trimCharacters " 8($sp)\t".toList := by
  have noBracket : '<' ∉ " 8($sp)\t".toList := by decide
  have noHash : '#' ∉ " 8($sp)\t".toList := by decide
  have noSemicolon : ';' ∉ " 8($sp)\t".toList := by decide
  exact ⟨noBracket, noHash, noSemicolon,
    (dropNotes_settles _).2.2.2 noBracket noHash noSemicolon⟩

end MipsGloss.Listing
