import Mathlib.Data.List.Basic
import MipsGloss.Proofs.Assembly.Schema
import MipsGloss.Proofs.Text

namespace MipsGloss

/-! What a rendered template depends on and what occurs in it. -/

/-! ## Occurrences -/

namespace Text

def Occurs (part whole : String) : Prop := part.toList <:+: whole.toList

instance (part whole : String) : Decidable (Occurs part whole) :=
  inferInstanceAs (Decidable (part.toList <:+: whole.toList))

theorem Occurs.trans {part middle whole : String} (inner : Occurs part middle)
    (outer : Occurs middle whole) : Occurs part whole :=
  List.IsInfix.trans inner outer

/-- A pattern does not reach across a joint that has a character from outside the
pattern on one of its sides. -/
theorem infix_of_infix_append {pattern front back : List Char}
    (apart : (∀ character, front.getLast? = some character → character ∉ pattern) ∨
      ∀ character, back.head? = some character → character ∉ pattern)
    (occurs : pattern <:+: front ++ back) : pattern <:+: front ∨ pattern <:+: back := by
  rcases List.infix_append_iff.mp occurs with inFront | inBack | ⟨left, right, rfl, ending, start⟩
  · exact .inl inFront
  · exact .inr inBack
  · rcases List.eq_nil_or_concat left with rfl | ⟨init, last, rfl⟩
    · exact .inr start.isInfix
    cases right with
    | nil =>
        rw [List.append_nil]
        exact .inl ending.isInfix
    | cons first rest =>
        exfalso
        rcases ending with ⟨ahead, rfl⟩
        rcases start with ⟨behind, rfl⟩
        rcases apart with apart | apart
        · exact apart last (by simp) (by simp)
        · exact apart first rfl (by simp)

end Text

/-! ## Slots of a template -/

/-- The slot that a piece looks at. -/
def Piece.slot? : Piece → Option Slot
  | .text _ => none
  | .slot source => some source
  | .slotOr source _ => some source

def Template.slots (template : Template) : List Slot := template.filterMap Piece.slot?

/-- A piece sees of a record only the slot that it looks at. -/
theorem Piece.render_congr {left right : Record} {piece : Piece}
    (same : ∀ slot, piece.slot? = some slot → left.get slot = right.get slot) :
    piece.render left = piece.render right := by
  cases piece with
  | text content => rfl
  | slot source => rw [render, render, same source rfl]
  | slotOr source otherwise => rw [render, render, same source rfl]

theorem Template.render_congr {left right : Record} {template : Template}
    (same : ∀ slot ∈ slots template, left.get slot = right.get slot) :
    render left template = render right template := by
  rw [render, render]
  congr 1
  apply List.map_congr_left
  intro piece member
  exact Piece.render_congr fun slot looks =>
    same slot (List.mem_filterMap.mpr ⟨piece, member, looks⟩)

theorem Template.toList_render (record : Record) (template : Template) :
    (render record template).toList =
      template.flatMap fun piece => (piece.render record).toList := by
  rw [render, String.toList_join, List.flatMap_map]

theorem Template.occurs_render {record : Record} {template : Template} {piece : Piece}
    (member : piece ∈ template) : Text.Occurs (piece.render record) (render record template) := by
  rw [Text.Occurs, toList_render, List.flatMap]
  exact List.infix_of_mem_flatten (List.mem_map_of_mem member)

/-- The value of a slot that a template looks at is written out. -/
theorem Template.occurs_value {record : Record} {template : Template} {slot : Slot}
    {value : String} (looks : slot ∈ slots template) (found : record.get slot = some value)
    (filled : value ≠ "") : Text.Occurs value (render record template) := by
  rcases List.mem_filterMap.mp looks with ⟨piece, member, looks⟩
  have rendered : piece.render record = value := by
    cases piece with
    | text content => cases looks
    | slot source =>
        cases looks
        rw [Piece.render, found]
        rfl
    | slotOr source otherwise =>
        cases looks
        simp only [Piece.render, found, if_neg filled]
  exact rendered ▸ occurs_render member

/-! ## The text of an empty slot

It occurs in a sentence only where a piece brings it in, as long as the fixed texts
keep the values of slots apart. -/

/-- A fixed text that cannot have the text of an empty slot in it, for lack of a slash. -/
def isPlain (content : String) : Bool :=
  content.toByteArray.data.toList.all fun byte => byte < 0x80 && byte != 0x2f

/-- Whether a character is none of those in the text of an empty slot. -/
def isForeign (character : Char) : Bool := !(['n', '/', 'a'].contains character)

def Piece.endsApart : Piece → Bool
  | .text content => isPlain content && (Text.byteCharacters content).getLast?.all isForeign
  | _ => false

def Piece.startsApart : Piece → Bool
  | .text content => isPlain content && (Text.byteCharacters content).head?.any isForeign
  | _ => false

def Template.isApart : Template → Bool
  | piece :: next :: rest =>
    (piece.endsApart || next.startsApart) && isApart (next :: rest)
  | _ => true

theorem toList_emptySlotText : emptySlotText.toList = ['n', '/', 'a'] := by decide

theorem toList_of_isPlain {content : String} (plain : isPlain content = true) :
    content.toList = Text.byteCharacters content := by
  apply Text.toList_eq_byteCharacters
  intro byte member
  have bound := List.all_eq_true.mp plain byte member
  rw [Bool.and_eq_true, decide_eq_true_eq, UInt8.lt_iff_toNat_lt] at bound
  exact bound.1

theorem not_occurs_of_isPlain {content : String} (plain : isPlain content = true) :
    ¬ Text.Occurs emptySlotText content := by
  intro occurs
  rw [Text.Occurs, toList_emptySlotText] at occurs
  have slash : '/' ∈ content.toList := occurs.mem (by simp)
  have byte : 0x2f ∈ content.toByteArray.data.toList := by
    rw [Text.toList_toByteArray]
    exact List.mem_flatMap.mpr ⟨'/', slash, by decide⟩
  have bound := List.all_eq_true.mp plain 0x2f byte
  revert bound
  decide

theorem not_mem_of_isForeign {character : Char} (foreign : isForeign character = true) :
    character ∉ emptySlotText.toList := by
  rw [toList_emptySlotText]
  simpa [isForeign] using foreign

theorem Piece.not_mem_of_endsApart (record : Record) {piece : Piece}
    (apart : piece.endsApart = true) (character : Char)
    (last : (piece.render record).toList.getLast? = some character) :
    character ∉ emptySlotText.toList := by
  cases piece with
  | text content =>
      rw [endsApart, Bool.and_eq_true] at apart
      rw [render, toList_of_isPlain apart.1] at last
      rw [last] at apart
      exact not_mem_of_isForeign apart.2
  | _ => cases apart

theorem Piece.not_mem_of_startsApart (record : Record) {piece : Piece}
    (apart : piece.startsApart = true) (rest : List Char) (character : Char)
    (first : ((piece.render record).toList ++ rest).head? = some character) :
    character ∉ emptySlotText.toList := by
  cases piece with
  | text content =>
      rw [startsApart, Bool.and_eq_true, Option.any_eq_true] at apart
      rcases apart with ⟨plain, head, found, foreign⟩
      rw [render, toList_of_isPlain plain, List.head?_append, found, Option.some_or,
        Option.some.injEq] at first
      exact first ▸ not_mem_of_isForeign foreign
  | _ => cases apart

theorem Template.exists_piece_of_occurs {record : Record} {template : Template}
    (apart : isApart template = true)
    (occurs : Text.Occurs emptySlotText (render record template)) :
    ∃ piece ∈ template, Text.Occurs emptySlotText (piece.render record) := by
  rw [Text.Occurs, toList_render] at occurs
  induction template with
  | nil => cases List.infix_nil.mp occurs
  | cons piece others induction =>
      rw [List.flatMap_cons] at occurs
      cases others with
      | nil =>
          rw [List.flatMap_nil, List.append_nil] at occurs
          exact ⟨piece, List.mem_cons_self, occurs⟩
      | cons next rest =>
          rw [isApart, Bool.and_eq_true, Bool.or_eq_true] at apart
          have joint := apart.1.imp (Piece.not_mem_of_endsApart record)
            fun starts => Piece.not_mem_of_startsApart record starts
              (rest.flatMap fun piece => (piece.render record).toList)
          rcases Text.infix_of_infix_append joint occurs with here | later
          · exact ⟨piece, List.mem_cons_self, here⟩
          · rcases induction apart.2 later with ⟨found, member, inside⟩
            exact ⟨found, List.mem_cons_of_mem _ member, inside⟩

/-! ## Records -/

theorem Record.get_fill (functs : FunctLookup) (operation : String) (operands : List String)
    (layout : Layout) (slot : Slot) :
    Record.get (layout.fill functs operation operands) slot =
      (layout.lookup slot).bind (Source.value functs operation operands) := by
  induction layout with
  | nil => rfl
  | cons entry layout induction =>
      rcases entry with ⟨declared, source⟩
      rw [Layout.fill, Record.get] at induction
      rw [Layout.fill, List.map_cons, Record.get, List.lookup_cons, List.lookup_cons]
      split
      · rfl
      · exact induction

end MipsGloss
