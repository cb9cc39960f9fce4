import OpcodeAtlas.Display
import OpcodeAtlas.Proofs.Program.DocumentOrder
import OpcodeAtlas.Proofs.Program.Wording
import OpcodeAtlas.Proofs.Text.LineEnd
import OpcodeAtlas.Proofs.Text.Utf8

/-!
# Showing a program file

A program file is read with its line ends unified, and a program that is at hand as a text is not.
Both are shown alike (`ProgramFile.shows_text`), because the places of comments and instructions,
which do move, are not shown: a display line tells the line, what the comment or the instruction
says, and the record (`LineContent.On.shown`). So what is shown depends on the bodies of the lines
alone (`DisplayLine.ofText_congr`), and the bodies do not depend on how the lines end.
-/

set_option autoImplicit false

namespace OpcodeAtlas

open Text

/-! ## What is shown of a line -/

/-- The instruction with a wording, on a line, without the places of its parts. -/
def Wording.instruction (w : Wording) (line : Int) : Instruction :=
  ⟨w.mnemonic, w.major, w.minor, ⟨line, 0, 0⟩, w.arguments.map fun a => ⟨a.1, a.2, none⟩⟩

/-- An instruction is shown by its wording and its line. -/
theorem DisplayLine.ofItem_instruction (records : RecordSource) (i : Instruction) :
    ofItem records (.instruction i) =
      ofItem records (.instruction (i.wording.instruction i.line)) := by
  have hwords : i.words = (i.wording.instruction i.line).words := by
    unfold Instruction.words
    rw [Wording.instruction, Instruction.wording, List.map_map, List.map_map]
    rfl
  rw [ofItem, ofItem, Instruction.text, hwords]
  rfl

/-- **What is shown of a line**: the values of its comments, and the instructions with the wordings
that it has. -/
theorem LineContent.On.shown {line : Int} {content : LineContent} (h : content.On line)
    (records : RecordSource) :
    content.items.map (DisplayLine.ofItem records) =
      (content.comments.map Comment.value).map (DisplayLine.comment line) ++
        (content.instructions.map Instruction.wording).map fun w =>
          DisplayLine.ofItem records (.instruction (w.instruction line)) := by
  rw [items, itemsOf, List.map_append, List.map_map, List.map_map, List.map_map, List.map_map]
  congr 1
  · refine List.map_congr_left fun c hc => ?_
    rw [Function.comp_apply, DisplayLine.ofItem, h.comments c hc]
    rfl
  · refine List.map_congr_left fun i hi => ?_
    rw [Function.comp_apply, DisplayLine.ofItem_instruction, h.instructions i hi]
    rfl

/-- The pieces of a line are shown alike wherever the line starts. -/
theorem shown_contentOf (records : RecordSource) (line offset offset' : Int) (ps : List Piece) :
    (contentOf line offset ps).items.map (DisplayLine.ofItem records) =
      (contentOf line offset' ps).items.map (DisplayLine.ofItem records) := by
  rw [(contentOf_on line offset ps).shown, (contentOf_on line offset' ps).shown, values_contentOf,
    values_contentOf, wording_contentOf, wording_contentOf]

/-! ## What is shown of a text -/

/-- Lines with the same bodies are shown alike. -/
theorem shown_contentsFrom (records : RecordSource) (number offset offset' : Int)
    {raws raws' : List (List Char)} (h : raws.map body = raws'.map body) :
    ((contentsFrom number offset raws).flatMap LineContent.items).map
        (DisplayLine.ofItem records) =
      ((contentsFrom number offset' raws').flatMap LineContent.items).map
        (DisplayLine.ofItem records) := by
  induction raws generalizing number offset offset' raws' with
  | nil =>
      obtain rfl := List.map_eq_nil_iff.1 h.symm
      rfl
  | cons raw raws ih =>
      obtain ⟨raw', raws', rfl, hbody, hbodies⟩ := List.map_eq_cons_iff.1 h.symm
      rw [contentsFrom, contentsFrom, List.flatMap_cons, List.flatMap_cons, List.map_append,
        List.map_append, hbody, ih _ _ (offset' + raw'.length) hbodies.symm,
        shown_contentOf records number offset offset']

namespace DisplayLine

/-- What is shown of a text, line by line. -/
theorem ofText_eq (records : RecordSource) (text : List Char) :
    ofText records text =
      match (bodies text).findSome? fun b => (pieces false b).fault with
      | some f => .error f
      | none => .ok (((contentsFrom 1 0 (lines text)).flatMap LineContent.items).map
          (ofItem records)) := by
  have hfault : (reading text).findSome? ReadingEvent.fault? =
      (bodies text).findSome? fun b => (pieces false b).fault := by
    rw [reading, fault?_readingFrom, bodies, List.findSome?_map]
    rfl
  rw [ofText, Program.read, ← hfault]
  cases hreading : (reading text).findSome? ReadingEvent.fault? with
  | some f => rfl
  | none =>
      have hitems := displayItems_sourceLines (readable_iff.1 hreading) (Int.le_refl 1) 0
      exact congrArg (fun items => Except.ok (items.map (ofItem records))) hitems

/-- **Texts whose lines have the same bodies are shown alike.** -/
theorem ofText_congr (records : RecordSource) {text text' : List Char}
    (h : bodies text = bodies text') : ofText records text = ofText records text' := by
  rw [ofText_eq, ofText_eq, h, shown_contentsFrom records 1 0 0 h]

end DisplayLine

/-! ## Program files -/

namespace ProgramFile

variable {h : Host} {path : Path} {text : List Char}

/-- A program file that holds a text is read as the text with its line ends unified. -/
theorem read_of_bytes (hcheck : path.check = .ok ())
    (hbytes : h.readBytes path = .ok (Utf8.encode text)) :
    read h path = .ok (unifyEnds text) := by
  have htext : h.readTextLossy path = .ok (unifyEnds text) := by
    rw [Host.readTextLossy, hbytes, Except.map, Utf8.decodeLossy_encode]
  simp only [read, hcheck, htext]

/-- **A program file is shown as the text that it holds**, and so is every file with a text that is
the same but for how its lines end. -/
theorem shows_text (hcheck : path.check = .ok ())
    (hbytes : h.readBytes path = .ok (Utf8.encode text)) (records : RecordSource) :
    (∃ found, read h path = .ok found ∧
      DisplayLine.ofText records found = DisplayLine.ofText records text) ∧
    ∀ text', SameButEnds text text' → ∀ (h' : Host) (path' : Path), path'.check = .ok () →
      h'.readBytes path' = .ok (Utf8.encode text') →
        ∃ found, read h' path' = .ok found ∧
          DisplayLine.ofText records found = DisplayLine.ofText records text := by
  have hshown : DisplayLine.ofText records (unifyEnds text) = DisplayLine.ofText records text :=
    DisplayLine.ofText_congr records (bodies_unifyEnds text)
  refine ⟨⟨_, read_of_bytes hcheck hbytes, hshown⟩, ?_⟩
  intro text' hsame h' path' hcheck' hbytes'
  -- Once their ends are unified the two texts are one.
  refine ⟨_, read_of_bytes hcheck' hbytes', ?_⟩
  rw [← hsame.unifyEnds_eq, hshown]

/-- A text whose lines end in all three ways. -/
def mixedEnds : List Char := "G1\r\r\nM117 Hi\n\r;a".toList

/-- The same text with other line ends. -/
def otherEnds : List Char := "G1\n\nM117 Hi\r\n\n;a".toList

theorem mixedEnds_sameButEnds : SameButEnds mixedEnds otherEnds := by
  have hlast : SameButEnds [';', 'a'] [';', 'a'] := .char rfl (.char rfl .nil)
  have hfourth : SameButEnds ['\r', ';', 'a'] ['\n', ';', 'a'] :=
    .lineEnd (.loneReturn (by decide)) .feed hlast
  have hthird : SameButEnds "M117 Hi\n\r;a".toList "M117 Hi\r\n\n;a".toList :=
    .char rfl (.char rfl (.char rfl (.char rfl (.char rfl (.char rfl (.char rfl
      (.lineEnd .feed .returnFeed hfourth)))))))
  have hsecond : SameButEnds "\r\nM117 Hi\n\r;a".toList "\nM117 Hi\r\n\n;a".toList :=
    .lineEnd .returnFeed .feed hthird
  have hfirst : SameButEnds "\r\r\nM117 Hi\n\r;a".toList "\n\nM117 Hi\r\n\n;a".toList :=
    .lineEnd (.loneReturn (by decide)) .feed hsecond
  exact .char rfl (.char rfl hfirst)

/-- Two files with these texts. -/
def endsHost : Host :=
  { directory := ["home"]
    tree := { files := [(["home", "mixed"], .bytes (Utf8.encode mixedEnds)),
      (["home", "other"], .bytes (Utf8.encode otherEnds))] } }

/-- What is shown of them where nothing is documented. -/
def mixedLines : List DisplayLine :=
  [.instruction 1 "G1" "G1" none, .instruction 3 "M117 Hi" "M117" none, .comment 5 "a"]

/-- Either file is shown in the same way, line numbers included. -/
theorem shows_text_mixedEnds :
    (∃ found, read endsHost (Path.ofString "mixed") = .ok found ∧
      DisplayLine.ofText (fun _ => none) found = .ok mixedLines) ∧
    ∃ found, read endsHost (Path.ofString "other") = .ok found ∧
      DisplayLine.ofText (fun _ => none) found = .ok mixedLines := by
  have hlines : DisplayLine.ofText (fun _ => none) mixedEnds = .ok mixedLines := by
    decide +kernel
  have hcheck : (Path.ofString "mixed").check = .ok () := by decide +kernel
  have hbytes : endsHost.readBytes (Path.ofString "mixed") = .ok (Utf8.encode mixedEnds) := by
    decide +kernel
  obtain ⟨hmixed, hother⟩ := shows_text hcheck hbytes fun _ => none
  rw [hlines] at hmixed hother
  exact ⟨hmixed, hother otherEnds mixedEnds_sameButEnds endsHost _ (by decide +kernel)
    (by decide +kernel)⟩

end ProgramFile

end OpcodeAtlas
