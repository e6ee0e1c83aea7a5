/-
This file shows that a value is written as one of its texts, on one line and on indented lines.
-/

import FileSearch.Proofs.Json.Nesting
import FileSearch.Proofs.Json.Spelling

namespace FileSearch.Json

/-- A control is written by its number, and every other character by itself or by a short form. -/
theorem characterText_escapeCharacter (character : Char) :
    CharacterText character (escapeCharacter character) := by
  unfold escapeCharacter
  split
  next => exact .short .quote
  next => exact .short .backslash
  next => exact .short .backspace
  next => exact .short .formFeed
  next => exact .short .lineFeed
  next => exact .short .carriageReturn
  next => exact .short .tabulator
  next noQuote noBackslash _ _ _ _ _ =>
    split
    next control =>
      have small : character.toNat < 32 := control
      have number : character.toNat =
          0 * 4096 + 0 * 256 + character.toNat / 16 * 16 + character.toNat % 16 := by omega
      have zero : Hexadecimal 0 '0' := ⟨by decide, .inl rfl⟩
      have high : Hexadecimal (character.toNat / 16) (Nat.digitChar (character.toNat / 16)) :=
        ⟨by omega, .inl rfl⟩
      have low : Hexadecimal (character.toNat % 16) (Nat.digitChar (character.toNat % 16)) :=
        ⟨by omega, .inl rfl⟩
      have unit := UnitText.digits zero zero high low
      rw [← number] at unit
      exact .single unit
    next noControl => exact .plain noQuote noBackslash noControl

theorem stringText_writeString (text : String) : StringText text (writeString text) := by
  have each : List.Forall₂ CharacterText text.toList (text.toList.map escapeCharacter) :=
    List.forall₂_map_right_iff.mpr
      (List.forall₂_same.mpr fun character _ => characterText_escapeCharacter character)
  have quoted := StringText.quoted each
  rw [← List.flatMap_def] at quoted
  exact quoted

/-- A layout puts what must stand between the parts of a list or an object, and else only gaps. -/
structure Layout.Separates (layout : Layout) : Prop where
  opening : ∀ depth, Gap (layout.opening depth)
  between : ∀ depth, ∃ before behind, Gap before ∧ Gap behind ∧
    layout.between depth = before ++ ',' :: behind
  closing : ∀ depth, Gap (layout.closing depth)
  colon : ∃ before behind, Gap before ∧ Gap behind ∧ layout.colon = before ++ ':' :: behind

theorem gap_nil : Gap [] :=
  fun _ member => nomatch member

theorem gap_newLine (depth : Nat) : Gap (newLine depth) := by
  refine List.forall_mem_cons.mpr ⟨rfl, fun character member => ?_⟩
  rw [List.eq_of_mem_replicate member]
  rfl

theorem Layout.separates_compact : Layout.compact.Separates where
  opening _ := gap_nil
  between _ := ⟨[], [], gap_nil, gap_nil, rfl⟩
  closing _ := gap_nil
  colon := ⟨[], [], gap_nil, gap_nil, rfl⟩

theorem Layout.separates_pretty : Layout.pretty.Separates where
  opening depth := gap_newLine (depth + 1)
  between depth := ⟨[], newLine (depth + 1), gap_nil, gap_newLine (depth + 1), rfl⟩
  closing depth := gap_newLine depth
  colon := ⟨[], [' '], gap_nil, by simp [Gap, isGap], rfl⟩

/-- This is the text of one member. -/
def writeMember (layout : Layout) (depth : Nat) (member : String × Json) : List Char :=
  writeString member.1 ++ (layout.colon ++ write layout depth member.2)

/-- These texts follow the first one in a list or an object. -/
def writeOthers (layout : Layout) (depth : Nat) (texts : List (List Char)) : List Char :=
  texts.flatMap fun text => layout.between depth ++ text

theorem writeOthers_cons (layout : Layout) (depth : Nat) (text : List Char)
    (texts : List (List Char)) :
    writeOthers layout depth (text :: texts) =
      layout.between depth ++ text ++ writeOthers layout depth texts :=
  List.flatMap_cons

theorem writeItems_eq (layout : Layout) (depth : Nat) (items : List Json) :
    writeItems layout depth items =
      writeOthers layout depth (items.map (write layout (depth + 1))) := by
  induction items with
  | nil => rfl
  | cons item items inductionHypothesis =>
    rw [writeItems, inductionHypothesis, List.map_cons, writeOthers_cons]

theorem writeMembers_eq (layout : Layout) (depth : Nat) (members : List (String × Json)) :
    writeMembers layout depth members =
      writeOthers layout depth (members.map (writeMember layout (depth + 1))) := by
  induction members with
  | nil => rfl
  | cons member members inductionHypothesis =>
    obtain ⟨key, value⟩ := member
    rw [writeMembers, inductionHypothesis, List.map_cons, writeOthers_cons, writeMember]
    simp only [List.append_assoc]

section

variable {layout : Layout} (separates : layout.Separates)

include separates

theorem sequenceText_writeOthers (depth : Nat) (texts : List (List Char)) :
    SequenceText false texts (writeOthers layout depth texts ++ layout.closing depth) := by
  induction texts with
  | nil => exact .nil (separates.closing depth)
  | cons text texts inductionHypothesis =>
    obtain ⟨before, behind, blankBefore, blankBehind, between⟩ := separates.between depth
    rw [writeOthers_cons, between]
    simp only [List.append_assoc, List.cons_append]
    exact .next blankBefore blankBehind inductionHypothesis

theorem sequenceText_write (depth : Nat) (text : List Char) (texts : List (List Char)) :
    SequenceText true (text :: texts) (layout.opening depth ++
      (text ++ (writeOthers layout depth texts ++ layout.closing depth))) :=
  .first (separates.opening depth) (sequenceText_writeOthers separates depth texts)

theorem memberText_writeMember {depth : Nat} {member : String × Json}
    (spells : Spells member.2 (write layout depth member.2)) :
    MemberText Spells member (writeMember layout depth member) := by
  obtain ⟨before, behind, blankBefore, blankBehind, colon⟩ := separates.colon
  rw [writeMember, colon, List.append_assoc, List.cons_append]
  exact .entry (stringText_writeString member.1) blankBefore blankBehind spells

/-- Every value is written as one of its texts, as long as its numerals are. -/
theorem spells_write (value : Json) :
    (∀ numeral ∈ value.numerals, NumeralText numeral numeral.write) →
    ∀ depth, Spells value (write layout depth value) := by
  induction value using Json.induct with
  | step value inductionHypothesis =>
    intro written depth
    have inside : ∀ child ∈ value.children, Spells child (write layout (depth + 1) child) :=
      fun child member => inductionHypothesis child member
        (fun numeral found => written numeral (mem_numerals_of_mem_children member found)) _
    cases value with
    | null => exact .null
    | boolean truth =>
      cases truth with
      | true => exact .yes
      | false => exact .no
    | number numeral => exact .number (written numeral (List.mem_singleton_self numeral))
    | string text => exact .string (stringText_writeString text)
    | array items =>
      cases items with
      | nil => exact .array .nil (.nil gap_nil)
      | cons item items =>
        have each : List.Forall₂ Spells (item :: items)
            ((item :: items).map (write layout (depth + 1))) :=
          List.forall₂_map_right_iff.mpr (List.forall₂_same.mpr inside)
        have spells := Spells.array each (sequenceText_write separates depth _ _)
        rw [write, writeItems_eq]
        simpa only [List.append_assoc, List.cons_append] using spells
    | object members =>
      cases members with
      | nil => exact .object .nil (.nil gap_nil)
      | cons member members =>
        have each : List.Forall₂ (MemberText Spells) (member :: members)
            ((member :: members).map (writeMember layout (depth + 1))) :=
          List.forall₂_map_right_iff.mpr (List.forall₂_same.mpr fun member found =>
            memberText_writeMember separates (inside member.2 (List.mem_map_of_mem found)))
        have spells := Spells.object each (sequenceText_write separates depth _ _)
        obtain ⟨key, value⟩ := member
        rw [write, writeMembers_eq]
        simpa only [writeMember, List.append_assoc, List.cons_append] using spells

end

theorem writtenAs_of_spells {value : Json} {text : List Char} (spells : Spells value text) :
    value.WrittenAs text :=
  ⟨[], text, [], gap_nil, spells, gap_nil, by simp⟩

/-- A value without numerals can be read in its text on one line. -/
theorem writtenAs_compact {value : Json} (noNumerals : value.numerals = []) :
    value.WrittenAs value.compact.toList := by
  rw [compact, String.toList_ofList]
  refine writtenAs_of_spells (spells_write Layout.separates_compact value ?_ 0)
  rw [noNumerals]
  exact List.forall_mem_nil _

/-- A value without numerals can be read in its text on indented lines. -/
theorem writtenAs_pretty {value : Json} (noNumerals : value.numerals = []) :
    value.WrittenAs value.pretty.toList := by
  rw [pretty, String.toList_ofList]
  refine writtenAs_of_spells (spells_write Layout.separates_pretty value ?_ 0)
  rw [noNumerals]
  exact List.forall_mem_nil _

end FileSearch.Json
