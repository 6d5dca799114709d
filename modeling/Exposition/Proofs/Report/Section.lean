import Exposition.Proofs.Text.Unambiguous
import Exposition.Report.Human

/-! # Reports as sections

The lines of a report on a difference come in sections, each a heading and its items. Headings start
at the margin and items with a tab, so a report tells where its sections are; the topics of headings
are told apart by what they open with. The lines can be told from the report as well, as long as
none of them has a line feed inside.
-/

namespace Exposition

/-- What a heading says. Some are about one metric family and have its name in them. -/
inductive Topic where
  | nothing
  | newFamilies
  | goneFamilies
  | newSamples
  | goneSamples
  | metadata
  deriving DecidableEq

namespace Topic

/-- The topics in the order of the report. -/
def all : List Topic := [nothing, newFamilies, goneFamilies, newSamples, goneSamples, metadata]

theorem mem_all (t : Topic) : t ∈ all := by
  cases t <;> decide

def opening : Topic → String
  | nothing => "No differences found."
  | newFamilies => "The following metric families are new:"
  | goneFamilies => "The following metric families no longer exist:"
  | newSamples => "The following samples are new for metric family \""
  | goneSamples => "The following samples no longer exist for metric family \""
  | metadata => "The metadata of metric family \""

def closing : Topic → String
  | nothing | newFamilies | goneFamilies => ""
  | newSamples | goneSamples => "\":"
  | metadata => "\" changed:"

theorem eq_of_opening_starts :
    ∀ s ∈ all, ∀ t ∈ all, s.opening.toList <+: t.opening.toList → s = t := by
  decide +kernel

theorem eq_of_opening_append {s t : Topic} {rest rest' : List Char}
    (same : s.opening.toList ++ rest = t.opening.toList ++ rest') : s = t := by
  have front : s.opening.toList <+: t.opening.toList ++ rest' := ⟨rest, same⟩
  cases List.prefix_or_prefix_of_prefix front (List.prefix_append _ rest') with
  | inl shorter => exact eq_of_opening_starts s s.mem_all t t.mem_all shorter
  | inr longer => exact (eq_of_opening_starts t t.mem_all s s.mem_all longer).symm

end Topic

/-- Is the line an item and no heading? -/
def isItem (line : String) : Bool := line.toList.head? = some '\t'

@[simp] theorem toList_item (text : String) : (item text).toList = '\t' :: text.toList := by
  simp [item]

@[simp] theorem isItem_item (text : String) : isItem (item text) = true := by
  rw [isItem, toList_item]
  rfl

theorem item_inj {text text' : String} (same : item text = item text') : text = text' := by
  have chars := congrArg String.toList same
  rw [toList_item, toList_item] at chars
  exact String.toList_inj.mp (List.cons.inj chars).2

/-- A heading and the items under it. -/
structure Section where
  topic : Topic
  name : String
  items : List String

namespace Section

def heading (s : Section) : String := s.topic.opening ++ s.name ++ s.topic.closing

def lines (s : Section) : List String := s.heading :: s.items

/-- No line of the section can be taken for one of another kind, or for two lines. -/
structure Sound (s : Section) : Prop where
  name : '\n' ∉ s.name.toList
  items : ∀ line ∈ s.items, isItem line = true
  lines : ∀ line ∈ s.items, '\n' ∉ line.toList

variable {s t : Section}

theorem toList_heading (s : Section) :
    s.heading.toList = s.topic.opening.toList ++ (s.name.toList ++ s.topic.closing.toList) := by
  simp [heading]

@[simp] theorem isItem_heading (s : Section) : isItem s.heading = false := by
  rw [isItem, toList_heading]
  cases s.topic <;> simp [Topic.opening]

theorem heading_inj (same : s.heading = t.heading) : s.topic = t.topic ∧ s.name = t.name := by
  have chars := congrArg String.toList same
  rw [toList_heading, toList_heading] at chars
  have topics := Topic.eq_of_opening_append chars
  rw [topics] at chars
  exact ⟨topics, String.toList_inj.mp (List.append_cancel_right (List.append_cancel_left chars))⟩

theorem Sound.feed_notMem (h : s.Sound) : ∀ line ∈ s.lines, '\n' ∉ line.toList := by
  have fixed : ∀ t ∈ Topic.all, '\n' ∉ t.opening.toList ∧ '\n' ∉ t.closing.toList := by
    decide +kernel
  have heading : '\n' ∉ s.heading.toList := by
    obtain ⟨opening, closing⟩ := fixed s.topic s.topic.mem_all
    rw [toList_heading, List.mem_append, List.mem_append, not_or, not_or]
    exact ⟨opening, h.name, closing⟩
  exact List.forall_mem_cons.mpr ⟨heading, h.lines⟩

/-- The items of a section end at the next heading. -/
theorem flatMap_lines_inj {report report' : List Section} (sound : ∀ s ∈ report, s.Sound)
    (sound' : ∀ s ∈ report', s.Sound) (same : report.flatMap lines = report'.flatMap lines) :
    report = report' := by
  let paragraph (s : Section) : String × List String := (s.heading, s.items)
  have paragraphs {report : List Section} (sound : ∀ s ∈ report, s.Sound) :
      ∀ part ∈ report.map paragraph,
        isItem part.1 = false ∧ ∀ line ∈ part.2, isItem line = true := by
    intro part member
    obtain ⟨s, inReport, rfl⟩ := List.mem_map.mp member
    exact ⟨isItem_heading s, (sound s inReport).items⟩
  have lines (report : List Section) :
      ((report.map paragraph).flatMap fun part => part.1 :: part.2) = report.flatMap lines :=
    List.flatMap_map _ _ report
  have parts := paragraphs_inj isItem (paragraphs sound) (paragraphs sound')
    ((lines report).trans (same.trans (lines report').symm))
  refine (List.map_inj_right fun s t same => ?_).mp parts
  obtain ⟨headings, items⟩ := Prod.mk.inj same
  obtain ⟨topics, names⟩ := heading_inj headings
  cases s
  cases t
  cases topics
  cases names
  cases items
  rfl

end Section

theorem splitOn_intercalate_feed {lines : List String} (some : lines ≠ [])
    (noFeed : ∀ line ∈ lines, '\n' ∉ line.toList) :
    ("\n".intercalate lines).toList.splitOn '\n' = lines.map String.toList := by
  rw [String.toList_intercalate]
  exact List.splitOn_intercalate '\n' (by simpa using noFeed) (by simpa using some)

end Exposition
